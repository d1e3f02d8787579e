/-! JSON values, and the questions that the readers of records and names ask of them. -/
namespace Am29000

/-- The text of a JSON string. It is missing when an escape names half of a surrogate pair, which
no text can hold. -/
abbrev JsonText := Option String

inductive Json where
  | null
  | bool (b : Bool)
  /-- A numeral of digits alone. -/
  | natural (n : Nat)
  /-- Any other numeral, as it is spelt. -/
  | number (spelling : String)
  | string (t : JsonText)
  | array (vs : List Json)
  | object (ms : List (JsonText × Json))

namespace Json

def ofString (s : String) : Json := string (some s)

def ofNat (n : Nat) : Json := natural n

def ofOption {α : Type} (f : α → Json) : Option α → Json
  | some a => f a
  | none => null

/-- An object with the given keys in the given order. -/
def record (ms : List (String × Json)) : Json := object (ms.map fun m => (some m.1, m.2))

def bool? : Json → Option Bool
  | bool b => some b
  | _ => none

/-- A numeral of digits alone, for a number below `2 ^ 32`. -/
def word? : Json → Option UInt32
  | natural n => if n < UInt32.size then some (UInt32.ofNat n) else none
  | _ => none

def string? : Json → Option String
  | string t => t
  | _ => none

def array? : Json → Option (List Json)
  | array vs => some vs
  | _ => none

/-- A name, given as a string or as the only key of an object with the value `null`. -/
def name? : Json → Option String
  | string t => t
  | object [(t, null)] => t
  | _ => none

/-- The values under a key. -/
def valuesOf (key : String) (ms : List (JsonText × Json)) : List Json :=
  (ms.filter fun m => m.1 = some key).map Prod.snd

/-- The only value of a list. -/
def single? : List Json → Option Json
  | [v] => some v
  | _ => none

/-- The fields of a record in the order of `keys`. A record is an array of exactly these fields, or
an object that has each of the keys once; its other keys are passed over, but must be texts. -/
def fields? (keys : List String) : Json → Option (List Json)
  | array vs => if vs.length = keys.length then some vs else none
  | object ms =>
      if ms.all fun m => m.1.isSome then keys.mapM fun k => single? (valuesOf k ms) else none
  | _ => none

end Json

end Am29000
