import Am29000.Part
import Am29000.Text.Quoted

/-! Part labels as people write them (`29050`, `am29000`), and what makes a request unreadable. -/
namespace Am29000

/-- Why a request does not even name one instruction. -/
inductive InputError where
  | shortBuffer (length : Nat)
  | malformedLabel (label : String)
  deriving DecidableEq

def InputError.message : InputError → String
  | shortBuffer n => "buffer holds " ++ Numeral.decimal n ++ " bytes, an instruction needs 4"
  | malformedLabel l => "cpu variant " ++ Quoted.quote l ++ " is shorter than 5 characters"

namespace Part

/-- Drops one maker's abbreviation from the front of a label. -/
def dropMaker : List Char → List Char
  | 'a' :: 'm' :: rest => rest
  | 'A' :: 'M' :: rest => rest
  | 'A' :: 'm' :: rest => rest
  | s => s

/-- The fourth byte of a part number tells the part: the digit five means the newer one. -/
def ofNumber (s : List Char) : Part :=
  if (s.flatMap String.utf8EncodeChar)[3]? = some 0x35 then am29050 else am29000

end Part

namespace Config

/-- A label has at least five characters, the maker's abbreviation included; a missing one stands
for the oldest part. -/
def ofLabel : Option String → Except InputError Config
  | none => .ok unlabelled
  | some label =>
      if label.toList.length < 5 then .error (.malformedLabel label)
      else .ok ⟨Part.ofNumber (Part.dropMaker label.toList), false⟩

/-- The configuration for a label, strict or not as wanted. -/
def ofRequest (label : Option String) (strict : Bool) : Except InputError Config :=
  (ofLabel label).map fun c => { c with strict := strict }

end Config

end Am29000
