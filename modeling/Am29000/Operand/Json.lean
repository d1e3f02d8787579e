import Am29000.Operand
import Am29000.Json.Library

/-!
The JSON form of operands: a record of kind and value each, and a row of slots as the array of its
six operands, the unused ones included. All of it is written and read by a library.
-/
namespace Am29000

namespace Kind

def name : Kind → String
  | register => "Register"
  | immediate => "Immediate"
  | displacement => "JumpDisplacement"
  | unused => "Unused"

def ofName? (s : String) : Option Kind :=
  [register, immediate, displacement, unused].find? fun k => k.name = s

theorem ofName?_name (k : Kind) : ofName? k.name = some k := by cases k <;> decide

end Kind

namespace Operand

def writeWith (l : Json.Library) (o : Operand) : Json :=
  l.ofFields ("kind", l.ofName o.kind.name) ("value", l.ofWord o.value)

def readWith (l : Json.Library) (j : Json) : Option Operand :=
  (l.fields? ("kind", l.name? Kind.ofName?) ("value", l.word?) j).map fun p => ⟨p.1, p.2⟩

def ofJson? : Json → Option Operand := readWith .standard

end Operand

namespace Slots

def writeWith (l : Json.Library) (s : Slots) : Json := l.ofRow (s.toList.map (Operand.writeWith l))

/-- Only six operands are a row of slots. -/
def readWith (l : Json.Library) (j : Json) : Option Slots :=
  (l.row? 6 (Operand.readWith l) j).map ofList

def toJson : Slots → Json := writeWith .standard

def ofJson? : Json → Option Slots := readWith .standard

/-- The text of a row of slots. -/
def toText (l : Json.Library) (s : Slots) : String := l.print (s.writeWith l)

/-- The row of slots that a text stands for. -/
def ofText? (l : Json.Library) (text : String) : Option Slots := (l.parse text).bind (readWith l)

end Slots

end Am29000
