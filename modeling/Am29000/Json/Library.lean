import Am29000.Json.Printer
import Am29000.Json.Reader

/-!
Libraries that write values as JSON and read them back. The types of this project only say what they
are made of: words, names, records of two fields and rows of a fixed length. What a library makes of
each of these is a parameter, and `standard` is one library.
-/
namespace Am29000

namespace Json

/-- A writer and a reader for each way to make a type. A type that only wraps another is written and
read as the other, and a reader that refuses a value gives nothing. -/
structure Library where
  print : Json → String
  parse : String → Option Json
  ofWord : UInt32 → Json
  word? : Json → Option UInt32
  ofName : String → Json
  /-- From what each name stands for. -/
  name? {α : Type} (find : String → Option α) : Json → Option α
  /-- From the keys and the values of the fields. -/
  ofFields (p q : String × Json) : Json
  /-- From the keys and the readers of the fields. -/
  fields? {α β : Type} (p : String × (Json → Option α)) (q : String × (Json → Option β)) :
    Json → Option (α × β)
  ofRow : List Json → Json
  /-- From the length of the row and the reader of its items. -/
  row? {α : Type} (length : Nat) (item : Json → Option α) : Json → Option (List α)

/-- Records are objects or arrays of their fields, rows are arrays. -/
def Library.standard : Library where
  print := compact
  parse := parse?
  ofWord v := .ofNat v.toNat
  word? := Json.word?
  ofName := .ofString
  name? find j := j.name?.bind find
  ofFields p q := .record [p, q]
  fields? p q j :=
    match j.fields? [p.1, q.1] with
    | some [u, v] => do return (← p.2 u, ← q.2 v)
    | _ => none
  ofRow := .array
  row? length item j := do
    let vs ← j.array?
    if vs.length = length then vs.mapM item else none

end Json

end Am29000
