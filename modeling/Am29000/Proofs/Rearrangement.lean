import Am29000.Proofs.Loading
import Am29000.Proofs.Relocation
import Mathlib.Logic.Relation

/-!
Rearranged images. Many lists of segments hold the same bytes at the same addresses. Main statement:
a listing depends on nothing but the bytes that its range holds, and neither the order of disjoint
segments, nor where they are cut, nor empty ones, nor bytes past the top change any of them.
-/
namespace Am29000

namespace Segment

variable {s t front back : Segment} {x : UInt32}

/-- The addresses of a segment's bytes. A byte past the top has none. -/
def addresses (s : Segment) : Set UInt32 := {x | s.base.toNat ≤ x.toNat ∧ x.toNat < s.stop}

theorem mem_addresses : x ∈ s.addresses ↔ s.base.toNat ≤ x.toNat ∧ x.toNat < s.stop := Iff.rfl

/-- Segments whose address ranges are disjoint. -/
def Apart (s t : Segment) : Prop := ∀ x ∈ s.addresses, x ∉ t.addresses

theorem Apart.symm (h : s.Apart t) : t.Apart s := fun x ht hs => h x hs ht

theorem apart_of_le (h : s.stop ≤ t.base.toNat) : s.Apart t := by
  rintro x ⟨-, hs⟩ ⟨ht, -⟩
  omega

theorem byte?_eq_none_iff : s.byte? x = none ↔ x ∉ s.addresses := by
  rw [← Option.isNone_iff_eq_none, ← Option.not_isSome, isSome_byte?, mem_addresses, contains,
    Bool.not_eq_true', Bool.eq_false_iff, ne_eq, Bool.and_eq_true, decide_eq_true_eq,
    decide_eq_true_eq]

/-- Two segments, the second right behind the first, that hold the bytes of `s` between them. -/
structure Splits (s front back : Segment) : Prop where
  base : front.base = s.base
  next : back.base.toNat = front.stop
  bytes : front.bytes ++ back.bytes = s.bytes

theorem Splits.byte?_eq (h : s.Splits front back) (x : UInt32) :
    (front.byte? x).or (back.byte? x) = s.byte? x := by
  have hnext : back.base.toNat = s.base.toNat + front.bytes.size := by rw [h.next, stop, h.base]
  simp only [byte?_eq_ite, h.base, hnext, ← h.bytes, Array.getElem?_append]
  by_cases hbase : s.base.toNat ≤ x.toNat
  · by_cases hfront : x.toNat - s.base.toNat < front.bytes.size
    · simp [hbase, hfront]
    · have hback : s.base.toNat + front.bytes.size ≤ x.toNat := by omega
      simp [hbase, hfront, hback, Nat.sub_sub]
  · have hback : ¬s.base.toNat + front.bytes.size ≤ x.toNat := by omega
    simp [hbase, hback]

/-- The segment without its bytes past the top. -/
def clipped (s : Segment) : Segment :=
  { s with bytes := s.bytes.extract 0 (UInt32.size - s.base.toNat) }

theorem byte?_clipped (s : Segment) (x : UInt32) : s.clipped.byte? x = s.byte? x := by
  have := x.toNat_lt_size
  simp only [byte?_eq_ite, clipped, Array.getElem?_extract, Nat.zero_add]
  by_cases hbase : s.base.toNat ≤ x.toNat
  · by_cases hindex : x.toNat - s.base.toNat < s.bytes.size
    · have hkept : x.toNat - s.base.toNat < min (UInt32.size - s.base.toNat) s.bytes.size := by
        omega
      simp [hbase, hkept]
    · have hnone : s.bytes[x.toNat - s.base.toNat]? = none := by
        rw [Array.getElem?_eq_none_iff]
        omega
      simp [hbase, hnone]
  · simp [hbase]

end Segment

namespace Image

theorem byte?_cons (s : Segment) (ss : List Segment) (x : UInt32) :
    byte? ⟨s :: ss⟩ x = (s.byte? x).or (byte? ⟨ss⟩ x) := by
  rw [byte?, byte?, List.findSome?_cons]
  cases s.byte? x <;> rfl

/-- Of disjoint segments at most one holds an address, so that it does not matter which is asked
first. -/
theorem byte?_perm {ss ts : List Segment} (h : ss.Perm ts)
    (hapart : ss.Pairwise Segment.Apart) (x : UInt32) :
    byte? ⟨ss⟩ x = byte? ⟨ts⟩ x := by
  induction h with
  | nil => rfl
  | cons s _ ih => rw [byte?_cons, byte?_cons, ih hapart.of_cons]
  | swap s t ss =>
    -- the one step in which the order of the first match changes
    have hst : t.Apart s := (List.pairwise_cons.1 hapart).1 s List.mem_cons_self
    have hnone : t.byte? x = none ∨ s.byte? x = none := by
      rw [Segment.byte?_eq_none_iff, Segment.byte?_eq_none_iff, ← not_and_or]
      rintro ⟨ht, hs⟩
      exact hst x ht hs
    simp only [byte?_cons]
    rcases hnone with hnone | hnone <;> simp [hnone]
  | trans hperm _ ih ih' =>
    exact (ih hapart).trans (ih' (hperm.pairwise hapart Segment.Apart.symm))

/-- One change to the segments of an image that leaves every byte in its place. -/
inductive Rearranged : Image → Image → Prop where
  | permuted {ss ts : List Segment} (h : ss.Perm ts) (hapart : ss.Pairwise Segment.Apart) :
      Rearranged ⟨ss⟩ ⟨ts⟩
  | split {s front back : Segment} (ss ts : List Segment) (h : s.Splits front back) :
      Rearranged ⟨ss ++ s :: ts⟩ ⟨ss ++ front :: back :: ts⟩
  | padded {e : Segment} (ss ts : List Segment) (h : e.bytes = #[]) :
      Rearranged ⟨ss ++ ts⟩ ⟨ss ++ e :: ts⟩
  | clipped (s : Segment) (ss ts : List Segment) :
      Rearranged ⟨ss ++ s :: ts⟩ ⟨ss ++ s.clipped :: ts⟩

variable {m n : Image} {start stop : UInt32}

theorem Rearranged.byte?_eq (h : m.Rearranged n) (x : UInt32) : m.byte? x = n.byte? x := by
  cases h with
  | permuted h hapart => exact byte?_perm h hapart x
  | split ss ts h =>
    simp only [byte?_append, byte?_cons]
    rw [← h.byte?_eq, Option.or_assoc]
  | @padded e ss ts h =>
    have hnone : e.byte? x = none := by
      rw [Segment.byte?_eq_ite, h]
      simp
    simp only [byte?_append, byte?_cons, hnone, Option.none_or]
  | clipped s ss ts => simp only [byte?_append, byte?_cons, Segment.byte?_clipped]

/-- Any number of changes, one after the other. -/
theorem byte?_eq_of_rearranged (h : Relation.ReflTransGen Rearranged m n) (x : UInt32) :
    m.byte? x = n.byte? x := by
  induction h with
  | refl => rfl
  | tail _ hstep ih => rw [ih, hstep.byte?_eq]

/-- A sweep reads no address outside of its range. -/
theorem sweep_congr (h : ∀ x, start ≤ x → x < stop → m.byte? x = n.byte? x) (c : Config) :
    m.sweep c start stop = n.sweep c start stop := by
  have hagree : AgreeMoved 0 start.toNat stop.toNat m n := by
    intro x y hlo hhi hy
    obtain rfl : y = x := UInt32.toNat_inj.1 (by omega)
    exact (h y (UInt32.le_iff_toNat_le.2 hlo) (UInt32.lt_iff_toNat_lt.2 hhi)).symm
  have hwords : m.words start stop = n.words start stop := by
    rw [← List.forall₂_eq_eq_eq]
    refine (hagree.forall₂_words (by omega) (by omega)).imp ?_
    rintro ⟨a, w⟩ ⟨b, v⟩ ⟨haddress, hword⟩
    exact Prod.ext (UInt32.toNat_inj.1 (by simpa using haddress.symm)) hword.symm
  rw [sweep_eq_map, sweep_eq_map, hwords]

/-- A listing depends on the bytes of its range alone. So it is the same for all images that come
from one another by sorting disjoint segments anew, cutting segments in two, putting empty ones in
between, and dropping bytes past the top, as every address keeps its byte. -/
theorem sweep_determined_by_bytes :
    (∀ (m n : Image) (start stop : UInt32),
      (∀ x, start ≤ x → x < stop → m.byte? x = n.byte? x) →
        ∀ c, m.sweep c start stop = n.sweep c start stop) ∧
    ∀ m n : Image, Relation.ReflTransGen Rearranged m n →
      (∀ x, m.byte? x = n.byte? x) ∧
        ∀ c start stop, m.sweep c start stop = n.sweep c start stop := by
  constructor
  · intro m n start stop h c
    exact sweep_congr h c
  · intro m n h
    have hbyte := byte?_eq_of_rearranged h
    exact ⟨hbyte, fun c start stop => sweep_congr (fun x _ _ => hbyte x) c⟩

/-- A word is cut in two, the parts change places with an empty segment between them, and a byte
past the top goes; the listing stays. -/
theorem sweep_of_cut_word :
    let code : Segment := ⟨"code", 0x100, #[0x70, 0x40, 0x01, 0x01], "r-x", "raw"⟩
    let head : Segment := ⟨"head", 0x100, #[0x70, 0x40, 0x01], "r-x", "raw"⟩
    let last : Segment := ⟨"last", 0x103, #[0x01], "r-x", "raw"⟩
    let gap : Segment := ⟨"gap", 0x102, #[], "r--", "raw"⟩
    let top : Segment := ⟨"top", 0xFFFFFFFF, #[0x12, 0x34], "r--", "raw"⟩
    let m : Image := ⟨[code, top]⟩
    let n : Image := ⟨[top.clipped, last, gap, head]⟩
    Relation.ReflTransGen Rearranged m n ∧ top.clipped.bytes = #[0x12] ∧
      m.words 0x100 0x104 = [(0x100, Instruction.reservedNop)] ∧
      (∀ x, m.byte? x = n.byte? x) ∧ ∀ c, m.sweep c 0x100 0x104 = n.sweep c 0x100 0x104 := by
  intro code head last gap top m n
  have hsplit : code.Splits head last := ⟨rfl, rfl, rfl⟩
  have hperm : [head, last, top.clipped].Perm [top.clipped, last, head] :=
    List.reverse_perm [top.clipped, last, head]
  have hclipped : top.clipped.bytes = #[0x12] := by decide +kernel
  have hapart : [head, last, top.clipped].Pairwise Segment.Apart := by
    simp only [List.pairwise_cons, List.forall_mem_cons, List.not_mem_nil, false_implies,
      implies_true, and_true, List.Pairwise.nil]
    exact ⟨⟨Segment.apart_of_le (by decide), Segment.apart_of_le (by decide)⟩,
      Segment.apart_of_le (by decide)⟩
  have hchain : Relation.ReflTransGen Rearranged m n :=
    .head (.split [] [top] hsplit) <| .head (.clipped top [head, last] []) <|
      .head (.permuted hperm hapart) <|
        .single (.padded (e := gap) [top.clipped, last] [head] rfl)
  obtain ⟨hbyte, hsweep⟩ := sweep_determined_by_bytes.2 m n hchain
  exact ⟨hchain, hclipped, by decide +kernel, hbyte, fun c => hsweep c _ _⟩

end Image

end Am29000
