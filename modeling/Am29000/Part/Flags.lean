import Am29000.Part
import Am29000.Text.Blank
import Am29000.Text.Numeral

/-!
Sets of parts as text: names of flags with bars between them, and hexadecimal for bits that have
no name.
-/
namespace Am29000

namespace PartSet

/-- The pieces of a text between its bars; there is one more of them than there are bars. -/
def splitBars : List Char → List (List Char)
  | [] => [[]]
  | c :: rest =>
      match splitBars rest with
      | piece :: more => if c = '|' then [] :: piece :: more else (c :: piece) :: more
      | [] => [[c]]

/-- A name, or the marker and a hexadecimal number that fits a byte. -/
def readFlag? (s : List Char) : Option PartSet :=
  match s with
  | '0' :: 'x' :: digits =>
      match Numeral.read 16 UInt8.size digits with
      | .ok n => some ⟨UInt8.ofNat n⟩
      | .error _ => none
  | _ =>
      if s = "AM29000".toList then some am29000
      else if s = "AM29050".toList then some am29050
      else if s = "ANY".toList then some any
      else none

/-- White space around a flag is passed over. A text of white space alone is the empty set, but no
flag may be missing between or beside bars. -/
def read? (s : String) : Option PartSet :=
  if s.toList.all Blank.isBlank then some empty
  else
    ((splitBars s.toList).mapM fun piece => readFlag? (Blank.trim piece)).map fun flags =>
      flags.foldl union empty

/-- The names of the parts in the set, then the bits without a name. -/
def flags (s : PartSet) : List String :=
  (if s.contains am29000 then ["AM29000"] else []) ++
    (if s.contains am29050 then ["AM29050"] else []) ++
    (if s.unknown = 0 then [] else [Numeral.hexMarked s.unknown.toNat])

def write (s : PartSet) : String := String.intercalate " | " s.flags

end PartSet

end Am29000
