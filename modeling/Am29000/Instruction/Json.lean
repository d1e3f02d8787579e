import Am29000.Instruction
import Am29000.Operand.Json

/-! The JSON forms of operation classes and of whole instructions. -/
namespace Am29000

namespace OpClass

def toJson (c : OpClass) : Json := .ofString c.name

def ofJson? : Json → Option OpClass := Json.Library.standard.name? ofName?

end OpClass

def Instruction.toJson (i : Instruction) : Json :=
  .record [("mnemonic", .ofString i.mnemonic), ("class", i.opClass.toJson),
    ("operands", i.slots.toJson)]

end Am29000
