/-!
Parts of the family, sets of parts, and the configuration of a decoder. A set is a byte of flags,
so that bits without a part can be held too.
-/
namespace Am29000

inductive Part where
  | am29000
  | am29050
  deriving DecidableEq

structure PartSet where
  bits : UInt8
  deriving DecidableEq

namespace PartSet

def empty : PartSet := ⟨0⟩

def am29000 : PartSet := ⟨1⟩

def am29050 : PartSet := ⟨2⟩

/-- Both parts, and no further bit. -/
def any : PartSet := ⟨3⟩

def union (s t : PartSet) : PartSet := ⟨s.bits ||| t.bits⟩

/-- Every bit of `t` is set in `s`. -/
def contains (s t : PartSet) : Bool := s.bits &&& t.bits = t.bits

/-- The bits that stand for a part. -/
def truncate (s : PartSet) : PartSet := ⟨s.bits &&& any.bits⟩

/-- The bits that stand for no part. -/
def unknown (s : PartSet) : UInt8 := s.bits &&& ~~~any.bits

def isKnown (s : PartSet) : Bool := s.unknown = 0

/-- `*` for exactly the two parts; otherwise the digit of the newest part in the set, and that of
the oldest when there is none. -/
def marker (s : PartSet) : Char :=
  if s = any then '*' else if s.contains am29050 then '5' else '0'

/-- Every set of parts has one of three markers. -/
theorem marker_mem (s : PartSet) : s.marker ∈ ['*', '0', '5'] := by
  unfold marker
  split
  next => simp
  next => split <;> simp

end PartSet

namespace Part

def label : Part → String
  | am29000 => "29000"
  | am29050 => "29050"

def name : Part → String
  | am29000 => "Am29000"
  | am29050 => "Am29050"

def ofName? (s : String) : Option Part := [am29000, am29050].find? fun p => p.name = s

def toSet : Part → PartSet
  | am29000 => .am29000
  | am29050 => .am29050

theorem ofName?_name (p : Part) : ofName? p.name = some p := by cases p <;> decide

end Part

/-- A strict decoder keeps to the instructions of its part; any other knows those of the family. -/
structure Config where
  part : Part
  strict : Bool
  deriving DecidableEq

/-- The configuration for a part that nobody named. -/
def Config.unlabelled : Config := ⟨.am29000, false⟩

end Am29000
