import Am29000.Word

/-!
Memory images: lists of segments placed in the 32-bit address space. Segments may overlap, be
empty, or reach past the top; of those that hold an address the first in the list counts.
-/
namespace Am29000

structure Segment where
  name : String
  base : UInt32
  bytes : Array UInt8
  access : String
  kind : String
  deriving DecidableEq

namespace Segment

/-- One past the last byte. This is a natural number, as it can be `2 ^ 32` or more. -/
def stop (s : Segment) : Nat := s.base.toNat + s.bytes.size

def contains (s : Segment) (a : UInt32) : Bool := s.base.toNat ≤ a.toNat && a.toNat < s.stop

def byte? (s : Segment) (a : UInt32) : Option UInt8 :=
  if s.contains a then s.bytes[a.toNat - s.base.toNat]? else none

/-- Every address that a segment contains has a byte: the index is never out of bounds. -/
theorem isSome_byte? (s : Segment) (a : UInt32) : (s.byte? a).isSome = s.contains a := by
  unfold byte?
  split
  next h =>
    rw [h]
    simp only [contains, Bool.and_eq_true, decide_eq_true_eq] at h
    simp only [stop] at h
    have hi : a.toNat - s.base.toNat < s.bytes.size := by omega
    simp [hi]
  next h => simpa using h

end Segment

structure Image where
  segments : List Segment
  deriving DecidableEq

namespace Image

/-- Addresses add up like numbers as long as they stay below the top. -/
theorem toNat_add_of_lt {a d : UInt32} (h : a.toNat + d.toNat < UInt32.size) :
    (a + d).toNat = a.toNat + d.toNat := by
  rw [UInt32.toNat_add]
  exact Nat.mod_eq_of_lt h

def byte? (m : Image) (a : UInt32) : Option UInt8 := m.segments.findSome? fun s => s.byte? a

/-- The four bytes from an address on, the addresses taken modulo `2 ^ 32`. -/
def word? (m : Image) (a : UInt32) : Option Word :=
  match m.byte? a, m.byte? (a + 1), m.byte? (a + 2), m.byte? (a + 3) with
  | some b0, some b1, some b2, some b3 => some ⟨b0, b1, b2, b3⟩
  | _, _, _, _ => none

/-- An image is an overlay in which the front segments lie on top. -/
theorem byte?_append (s t : List Segment) (a : UInt32) :
    byte? ⟨s ++ t⟩ a = (byte? ⟨s⟩ a).or (byte? ⟨t⟩ a) := by
  simp [byte?, List.findSome?_append]

end Image

end Am29000
