import Am29000.Proofs.Sweep

/-!
Overlays. The segments in front of an image lie on top of those behind them. Main statement: a read
takes the byte of the first segment that holds the address, which is never out of bounds, and further
segments behind the others leave every word in its place, so that a listing can only grow.
-/
namespace Am29000

namespace Segment

variable {s : Segment} {x : UInt32}

/-- Where a segment holds an address, the distance from its base does not wrap around and is the
index of the byte that is read. -/
theorem byte?_of_contains (h : s.contains x) :
    s.base ≤ x ∧ ∃ hlt : (x - s.base).toNat < s.bytes.size,
      s.byte? x = some s.bytes[(x - s.base).toNat] := by
  have hbounds := h
  simp only [contains, Bool.and_eq_true, decide_eq_true_eq] at hbounds
  unfold stop at hbounds
  have hbase : s.base ≤ x := UInt32.le_iff_toNat_le.2 hbounds.1
  have hsub := UInt32.toNat_sub_of_le x s.base hbase
  have hlt : (x - s.base).toNat < s.bytes.size := by omega
  refine ⟨hbase, hlt, ?_⟩
  rw [byte?, if_pos h, ← hsub, Array.getElem?_eq_getElem hlt]

end Segment

namespace Image

variable {m n : Image} {x a b stop : UInt32} {w : Word} {s : Segment}

/-- The first segment that holds an address. -/
def holder? (m : Image) (x : UInt32) : Option Segment := m.segments.find? fun s => s.contains x

theorem contains_of_holder? (h : m.holder? x = some s) : s.contains x := by
  have := List.find?_some h
  exact this

/-- The segments behind the first one that holds an address have no say in its byte. -/
theorem byte?_eq_bind_holder? (m : Image) (x : UInt32) :
    m.byte? x = (m.holder? x).bind fun s => s.byte? x := by
  obtain ⟨ss⟩ := m
  unfold byte? holder?
  dsimp only
  induction ss with
  | nil => rfl
  | cons s ss ih =>
    rw [List.findSome?_cons, List.find?_cons, ih]
    by_cases hs : s.contains x
    · obtain ⟨-, _, hbyte⟩ := Segment.byte?_of_contains hs
      rw [hs, Option.bind_some, hbyte]
    · have hnone : s.byte? x = none := if_neg hs
      rw [eq_false_of_ne_true hs, hnone]

/-- Every byte of `m` stands in `n` at the same address. -/
def Extends (m n : Image) : Prop := ∀ x b, m.byte? x = some b → n.byte? x = some b

theorem extends_append (ss ts : List Segment) : Extends ⟨ss⟩ ⟨ss ++ ts⟩ := by
  intro x b hb
  rw [byte?_append, hb, Option.some_or]

theorem Extends.word?_eq (h : m.Extends n) (hw : m.word? x = some w) : n.word? x = some w := by
  obtain ⟨h0, h1, h2, h3⟩ := word?_eq_some_iff.1 hw
  exact word?_eq_some_iff.2 ⟨h _ _ h0, h _ _ h1, h _ _ h2, h _ _ h3⟩

/-- Where a sweep of `m` goes on, a sweep of `n` goes on in the same way. -/
theorem Extends.turn_eq (h : m.Extends n) (hturn : m.turn stop a = .more w b) :
    n.turn stop a = .more w b := by
  obtain ⟨hstop, hw, hb⟩ := turn_eq_more_iff.1 hturn
  exact turn_eq_more_iff.2 ⟨hstop, h.word?_eq hw, hb⟩

/-- A sweep of `n` lists what a sweep of `m` lists, and can go on after it. -/
theorem Extends.sweepFrom_prefix (h : m.Extends n) (c : Config) (stop address : UInt32) :
    (m.sweepFrom c stop address).1 <+: (n.sweepFrom c stop address).1 := by
  fun_induction sweepFrom m c stop address with
  | case1 address w next hturn rest ih =>
    rw [sweepFrom_eq_map n, words_eq_cons (h.turn_eq hturn), List.map_cons, ← sweepFrom_eq_map n]
    exact List.cons_prefix_cons.2 ⟨rfl, ih⟩
  | case2 address w hturn => exact absurd hturn (turn_ne_last m stop address w)
  | case3 address e hturn => exact List.nil_prefix

/-- The four addresses of a word are counted modulo `2 ^ 32`. -/
theorem isSome_word?_iff_modulo (m : Image) (x : UInt32) :
    (m.word? x).isSome ↔ ∀ k < 4, (m.byte? (UInt32.ofNat ((x.toNat + k) % 2 ^ 32))).isSome := by
  have haddress (k : Nat) : UInt32.ofNat ((x.toNat + k) % 2 ^ 32) = x + UInt32.ofNat k := by
    rw [← UInt32.toNat_inj, UInt32.toNat_add, UInt32.toNat_ofNat', UInt32.toNat_ofNat']
    omega
  simp only [haddress, isSome_word?_iff_forall]

/-- An image is an overlay in which the front segments lie on top. A byte is that of the first
segment that holds its address, at a distance from the base that neither wraps around nor is out of
bounds; a word can be read where its four addresses are mapped. Segments that come behind the others
change and unmap no word, so that a listing stays and can only go on after its end. -/
theorem overlay_of_segments (ss ts : List Segment) :
    (∀ x s, holder? ⟨ss⟩ x = some s →
      s.base ≤ x ∧ ∃ h : (x - s.base).toNat < s.bytes.size,
        byte? ⟨ss⟩ x = some s.bytes[(x - s.base).toNat]) ∧
    (∀ x, holder? ⟨ss⟩ x = none → byte? ⟨ss⟩ x = none) ∧
    (∀ x, byte? ⟨ss ++ ts⟩ x =
      if (byte? ⟨ss⟩ x).isSome then byte? ⟨ss⟩ x else byte? ⟨ts⟩ x) ∧
    (∀ x, (word? ⟨ss⟩ x).isSome ↔
      ∀ k < 4, (byte? ⟨ss⟩ (UInt32.ofNat ((x.toNat + k) % 2 ^ 32))).isSome) ∧
    (∀ x w, word? ⟨ss⟩ x = some w → word? ⟨ss ++ ts⟩ x = some w) ∧
    ∀ c start stop, sweep ⟨ss⟩ c start stop <+: sweep ⟨ss ++ ts⟩ c start stop := by
  have hextends := extends_append ss ts
  refine ⟨?_, ?_, ?_, isSome_word?_iff_modulo ⟨ss⟩, fun x w hw => hextends.word?_eq hw,
    fun c start stop => hextends.sweepFrom_prefix c stop start⟩
  · intro x s hs
    rw [byte?_eq_bind_holder?, hs]
    exact Segment.byte?_of_contains (contains_of_holder? hs)
  · intro x hs
    rw [byte?_eq_bind_holder?, hs]
    rfl
  · intro x
    rw [byte?_append]
    cases byte? ⟨ss⟩ x <;> rfl

/-- A word can be made of the bytes of two segments. -/
example :
    word? ⟨[⟨"patch", 0x102, #[0xFF], "r--", "raw"⟩,
      ⟨"code", 0x100, #[0x70, 0x40, 0x01, 0x01], "r-x", "raw"⟩]⟩ 0x100 =
        some ⟨0x70, 0x40, 0xFF, 0x01⟩ := by
  decide

end Image

end Am29000
