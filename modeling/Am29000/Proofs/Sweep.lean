import Am29000.Listing
import Am29000.Proofs.Mapping
import Mathlib.Order.Bounds.Basic

/-!
Linear sweeps. The words that a sweep lists depend on the image and the range alone. Main
statement: a sweep lists exactly the words that lie in the range before its first gap, no address
that it uses wraps around, and it never runs out of addresses.
-/
namespace Am29000

namespace Image

/-- The words at `address` and after it, each with its address: at most `count`, and none from the
first that is not mapped on. -/
def wordsFrom (m : Image) : Nat → UInt32 → List (UInt32 × Word)
  | 0, _ => []
  | count + 1, address =>
      match m.word? address with
      | some w => (address, w) :: wordsFrom m count (address + 4)
      | none => []

def words (m : Image) (start stop : UInt32) : List (UInt32 × Word) :=
  m.wordsFrom ((stop.toNat - start.toNat) / 4) start

theorem words_eq_cons {m : Image} {start stop next : UInt32} {w : Word}
    (h : m.turn stop start = .more w next) :
    m.words start stop = (start, w) :: m.words next stop := by
  have hnext := toNat_next h
  obtain ⟨hstop, hw, rfl⟩ := turn_eq_more_iff.1 h
  have hcount : (stop.toNat - start.toNat) / 4 =
      (stop.toNat - (start + 4).toNat) / 4 + 1 := by omega
  simp only [words, hcount, wordsFrom, hw]

theorem words_eq_nil {m : Image} {start stop : UInt32} {e : Ending}
    (h : m.turn stop start = .done e) : m.words start stop = [] := by
  unfold words
  rcases turn_eq_done_iff.1 h with ⟨-, hrange⟩ | ⟨-, -, hw⟩
  · have hcount : (stop.toNat - start.toNat) / 4 = 0 := by omega
    rw [hcount, wordsFrom]
  · cases (stop.toNat - start.toNat) / 4 with
    | zero => rw [wordsFrom]
    | succ count => simp only [wordsFrom, hw]

theorem mapped_of_more {m : Image} {start stop next : UInt32} {w : Word}
    (h : m.turn stop start = .more w next) : m.Mapped start.toNat (start.toNat + 4) := by
  obtain ⟨hstop, hw, -⟩ := turn_eq_more_iff.1 h
  have := stop.toNat_lt_size
  exact (isSome_word?_iff (by omega)).1 (by simp [hw])

/-- Where a sweep ends there is no room for a word, or a gap in its place. -/
theorem not_mapped_of_done {m : Image} {start stop : UInt32} {e : Ending}
    (h : m.turn stop start = .done e) (k : Nat) :
    ¬(start.toNat + 4 * (k + 1) ≤ stop.toNat ∧
      m.Mapped start.toNat (start.toNat + 4 * (k + 1))) := by
  rintro ⟨hstop, hmapped⟩
  have := stop.toNat_lt_size
  rcases turn_eq_done_iff.1 h with ⟨-, hrange⟩ | ⟨-, -, hw⟩
  · omega
  · have hword := ((m.mapped_split _ (start.toNat + 4) _ (by omega) (by omega)).1 hmapped).1
    have hsome := (isSome_word?_iff (by omega)).2 hword
    simp [hw] at hsome

/-- A word stands at place `k` exactly when the range reaches to its end and has no gap before. -/
theorem lt_length_words_iff (m : Image) (start stop : UInt32) (k : Nat) :
    k < (m.words start stop).length ↔
      start.toNat + 4 * (k + 1) ≤ stop.toNat ∧
        m.Mapped start.toNat (start.toNat + 4 * (k + 1)) := by
  induction k generalizing start with
  | zero =>
    cases hturn : m.turn stop start with
    | more w next =>
      have hstop := (turn_eq_more_iff.1 hturn).1
      simp [words_eq_cons hturn, hstop, mapped_of_more hturn]
    | last w => exact absurd hturn (turn_ne_last m stop start w)
    | done e => simpa [words_eq_nil hturn] using not_mapped_of_done hturn 0
  | succ k ih =>
    cases hturn : m.turn stop start with
    | more w next =>
      have hnext := toNat_next hturn
      -- a gap lies in the first word, which is mapped, or behind it, where the hypothesis applies
      have hsplit := m.mapped_split start.toNat (start.toNat + 4)
        (start.toNat + 4 * (k + 1 + 1)) (by omega) (by omega)
      rw [words_eq_cons hturn, List.length_cons, Nat.succ_lt_succ_iff, ih next, hsplit, hnext,
        show start.toNat + 4 + 4 * (k + 1) = start.toNat + 4 * (k + 1 + 1) by omega]
      simp [mapped_of_more hturn]
    | last w => exact absurd hturn (turn_ne_last m stop start w)
    | done e => simpa [words_eq_nil hturn] using not_mapped_of_done hturn (k + 1)

/-- The word at place `k` stands `4 * k` bytes after the start, and is that of the image. -/
theorem getElem?_words {m : Image} {start stop a : UInt32} {w : Word} {k : Nat}
    (h : (m.words start stop)[k]? = some (a, w)) :
    a.toNat = start.toNat + 4 * k ∧ m.turn stop a = .more w (a + 4) := by
  induction k generalizing start with
  | zero =>
    cases hturn : m.turn stop start with
    | more v next =>
      rw [words_eq_cons hturn] at h
      simp only [List.getElem?_cons_zero, Option.some.injEq, Prod.mk.injEq] at h
      obtain ⟨rfl, rfl⟩ := h
      obtain ⟨-, -, rfl⟩ := turn_eq_more_iff.1 hturn
      exact ⟨by omega, hturn⟩
    | last w => exact absurd hturn (turn_ne_last m stop start w)
    | done e => simp [words_eq_nil hturn] at h
  | succ k ih =>
    cases hturn : m.turn stop start with
    | more v next =>
      have hnext := toNat_next hturn
      rw [words_eq_cons hturn, List.getElem?_cons_succ] at h
      obtain ⟨ha, hmore⟩ := ih h
      exact ⟨by omega, hmore⟩
    | last w => exact absurd hturn (turn_ne_last m stop start w)
    | done e => simp [words_eq_nil hturn] at h

/-- The words of a sweep do not depend on the decoder, which only describes them. -/
theorem sweepFrom_eq_map (m : Image) (c : Config) (stop address : UInt32) :
    (m.sweepFrom c stop address).1 =
      (m.words address stop).map fun p => Line.ofWord c p.1 p.2 := by
  fun_induction sweepFrom m c stop address with
  | case1 address w next h rest ih => rw [words_eq_cons h, List.map_cons, ih]
  | case2 address w h => exact absurd h (turn_ne_last m stop address w)
  | case3 address e h => rw [words_eq_nil h, List.map_nil]

theorem sweep_eq_map (m : Image) (c : Config) (start stop : UInt32) :
    m.sweep c start stop = (m.words start stop).map fun p => Line.ofWord c p.1 p.2 :=
  sweepFrom_eq_map m c stop start

@[simp] theorem length_sweep (m : Image) (c : Config) (start stop : UInt32) :
    (m.sweep c start stop).length = (m.words start stop).length := by
  rw [sweep_eq_map, List.length_map]

theorem getElem?_sweep {m : Image} {c : Config} {start stop : UInt32} {k : Nat} {l : Line} :
    (m.sweep c start stop)[k]? = some l ↔
      ∃ a w, (m.words start stop)[k]? = some (a, w) ∧ Line.ofWord c a w = l := by
  simp only [sweep_eq_map, List.getElem?_map, Option.map_eq_some_iff, Prod.exists]

theorem exists_ofWord_of_mem_sweep {m : Image} {c : Config} {start stop : UInt32} {l : Line}
    (h : l ∈ m.sweep c start stop) : ∃ a w, Line.ofWord c a w = l := by
  rw [sweep_eq_map] at h
  obtain ⟨⟨a, w⟩, -, rfl⟩ := List.mem_map.1 h
  exact ⟨a, w, rfl⟩

/-- The line at place `k` stands `4 * k` bytes after the start. -/
theorem toNat_address_sweep {m : Image} {c : Config} {start stop : UInt32} {k : Nat} {l : Line}
    (h : (m.sweep c start stop)[k]? = some l) : l.address.toNat = start.toNat + 4 * k := by
  obtain ⟨a, w, hw, rfl⟩ := getElem?_sweep.1 h
  rw [Line.address_ofWord]
  exact (getElem?_words hw).1

/-- The addresses that a sweep comes to: its start, and the one after each word that it lists. -/
inductive Visits (m : Image) (stop start : UInt32) : UInt32 → Prop where
  | start : Visits m stop start start
  | next {a b : UInt32} {w : Word} (h : Visits m stop start a) (hturn : m.turn stop a = .more w b) :
      Visits m stop start b

theorem mapped_of_le_length {m : Image} {start stop : UInt32} {k : Nat}
    (h : k ≤ (m.words start stop).length) : m.Mapped start.toNat (start.toNat + 4 * k) := by
  cases k with
  | zero => exact m.mapped_self start.toNat
  | succ k => exact ((m.lt_length_words_iff start stop k).1 h).2

/-- A sweep comes to the addresses of its words and to the one after them, in steps of four that
never wrap around. -/
theorem visits_iff {m : Image} {stop start a : UInt32} :
    m.Visits stop start a ↔ ∃ k ≤ (m.words start stop).length, a.toNat = start.toNat + 4 * k := by
  constructor
  · intro h
    induction h with
    | start => exact ⟨0, Nat.zero_le _, rfl⟩
    | @next a b w h hturn ih =>
      obtain ⟨k, hk, ha⟩ := ih
      have hnext := toNat_next hturn
      have hstop := (turn_eq_more_iff.1 hturn).1
      have hword := mapped_of_more hturn
      rw [ha, Nat.add_assoc, ← Nat.mul_succ] at hword
      have hmapped := (m.mapped_split start.toNat (start.toNat + 4 * k)
        (start.toNat + 4 * (k + 1)) (by omega) (by omega)).2 ⟨mapped_of_le_length hk, hword⟩
      have hlt := (m.lt_length_words_iff start stop k).2 ⟨by omega, hmapped⟩
      exact ⟨k + 1, hlt, by omega⟩
  · rintro ⟨k, hk, ha⟩
    induction k generalizing a with
    | zero =>
      obtain rfl : a = start := UInt32.toNat_inj.1 ha
      exact .start
    | succ k ih =>
      obtain ⟨⟨b, w⟩, hw⟩ : ∃ p, (m.words start stop)[k]? = some p :=
        ⟨_, List.getElem?_eq_getElem hk⟩
      obtain ⟨hb, hturn⟩ := getElem?_words hw
      have hnext := toNat_next hturn
      obtain rfl : a = b + 4 := UInt32.toNat_inj.1 (by omega)
      exact .next (ih (by omega) hb) hturn

/-- Where a sweep has a word left to read, its addresses and the one after it lie in the range. -/
theorem toNat_add_of_visits {m : Image} {start stop a d : UInt32} (h : m.Visits stop start a)
    (ha : a.toNat + 4 ≤ stop.toNat) (hd : d ≤ 4) :
    (a + d).toNat = a.toNat + d.toNat ∧ start ≤ a + d ∧ a + d ≤ stop := by
  obtain ⟨k, -, hk⟩ := visits_iff.1 h
  have hd : d.toNat ≤ 4 := UInt32.le_iff_toNat_le.1 hd
  have := stop.toNat_lt_size
  have hadd : (a + d).toNat = a.toNat + d.toNat := toNat_add_of_lt (by omega)
  refine ⟨hadd, ?_, ?_⟩
  · exact UInt32.le_iff_toNat_le.2 (by omega)
  · exact UInt32.le_iff_toNat_le.2 (by omega)

theorem length_words_eq_zero {m : Image} {start stop : UInt32} (h : stop < start) :
    (m.words start stop).length = 0 := by
  have hlt := UInt32.lt_iff_toNat_lt.1 h
  by_contra hne
  have := (m.lt_length_words_iff start stop 0).1 (Nat.pos_of_ne_zero hne)
  omega

/-- A sweep lists as many words as fit into the range before its first gap. -/
theorem isGreatest_length_words (m : Image) {start stop : UInt32} (h : start ≤ stop) :
    IsGreatest {n | start.toNat + 4 * n ≤ stop.toNat ∧
      m.Mapped start.toNat (start.toNat + 4 * n)} (m.words start stop).length := by
  have hle := UInt32.le_iff_toNat_le.1 h
  constructor
  · refine ⟨?_, mapped_of_le_length le_rfl⟩
    cases hlength : (m.words start stop).length with
    | zero => omega
    | succ k => exact ((m.lt_length_words_iff start stop k).1 (by omega)).1
  · rintro n ⟨hstop, hmapped⟩
    cases n with
    | zero => exact Nat.zero_le _
    | succ k => exact (m.lt_length_words_iff start stop k).2 ⟨hstop, hmapped⟩

/-- A sweep never runs out of addresses. -/
theorem ending_ne_top (m : Image) (c : Config) (stop address : UInt32) :
    (m.sweepFrom c stop address).2 ≠ .top := by
  fun_induction sweepFrom m c stop address with
  | case1 address w next h rest ih => exact ih
  | case2 address w h => exact absurd h (turn_ne_last m stop address w)
  | case3 address e h =>
    rcases turn_eq_done_iff.1 h with ⟨rfl, -⟩ | ⟨rfl, -⟩ <;> simp

end Image

namespace Line

/-- A line tells what its word decodes to at its address, or that the decoder rejects it. -/
def Describes (c : Config) (l : Line) : Prop :=
  match c.decode l.word.toList with
  | .ok i => l.text = i.text l.address ∧ l.opClass? = some i.opClass ∧
      l.target? = i.target? l.address ∧ l.isReturn = i.isReturn
  | .error _ => l.text = "illegal" ∧ l.opClass? = none ∧ l.target? = none ∧ l.isReturn = false

theorem describes_ofWord (c : Config) (a : UInt32) (w : Word) : (ofWord c a w).Describes c := by
  unfold Describes
  rw [word_ofWord, Config.decode_toList]
  unfold ofWord
  cases c.decodeWord w with
  | ok i => exact ⟨rfl, rfl, rfl, rfl⟩
  | error e => exact ⟨rfl, rfl, rfl, rfl⟩

end Line

namespace Image

/-- The bytes of a mapped word stand in the image one after the other. -/
theorem byte?_eq_getElem?_toList {m : Image} {a : UInt32} {w : Word} (h : m.word? a = some w)
    {d : Nat} (hd : d < 4) : m.byte? (UInt32.ofNat (a.toNat + d)) = w.toList[d]? := by
  obtain ⟨h0, h1, h2, h3⟩ := word?_eq_some_iff.1 h
  rw [UInt32.ofNat_add, UInt32.ofNat_toNat]
  interval_cases d
  · simpa [Word.toList] using h0
  · exact h1
  · exact h2
  · exact h3

/-- A sweep lists the words of the range up to the first gap, each as the decoder has it. The
addresses that it comes to lie four bytes apart, those that it reads lie in the range, and none of
them wraps around, so that it never ends for want of an address. -/
theorem sweep_exact (m : Image) (c : Config) (start stop : UInt32) :
    (stop < start → m.sweep c start stop = []) ∧
      (start ≤ stop → IsGreatest {n | start.toNat + 4 * n ≤ stop.toNat ∧
        m.Mapped start.toNat (start.toNat + 4 * n)} (m.sweep c start stop).length) ∧
      (∀ k l, (m.sweep c start stop)[k]? = some l →
        l.address.toNat = start.toNat + 4 * k ∧
          (∀ d < 4, m.byte? (UInt32.ofNat (start.toNat + 4 * k + d)) = l.word.toList[d]?) ∧
          l.Describes c) ∧
      (∀ a, m.Visits stop start a ↔
        ∃ k ≤ (m.sweep c start stop).length, a.toNat = start.toNat + 4 * k) ∧
      (∀ a, m.Visits stop start a → a.toNat + 4 ≤ stop.toNat → ∀ d ≤ 4,
        (a + d).toNat = a.toNat + d.toNat ∧ start ≤ a + d ∧ a + d ≤ stop) ∧
      (m.sweepFrom c stop start).2 ≠ .top := by
  refine ⟨?_, ?_, ?_, ?_, fun a h ha d hd => toNat_add_of_visits h ha hd,
    m.ending_ne_top c stop start⟩
  · intro h
    rw [← List.length_eq_zero_iff, length_sweep, length_words_eq_zero h]
  · intro h
    rw [length_sweep]
    exact m.isGreatest_length_words h
  · intro k l hl
    obtain ⟨a, w, hw, rfl⟩ := getElem?_sweep.1 hl
    obtain ⟨ha, hturn⟩ := getElem?_words hw
    refine ⟨?_, ?_, Line.describes_ofWord c a w⟩
    · rw [Line.address_ofWord, ha]
    · intro d hd
      rw [← ha, Line.word_ofWord]
      exact byte?_eq_getElem?_toList (turn_eq_more_iff.1 hturn).2.1 hd
  · intro a
    rw [length_sweep]
    exact visits_iff

end Image

end Am29000
