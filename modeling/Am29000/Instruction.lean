import Am29000.Operand
import Am29000.OpClass

/-!
Decoded instructions and their part in the flow of control: where a relative branch or call goes,
and which indirect call hands control back to the caller.
-/
namespace Am29000

structure Instruction where
  mnemonic : String
  opClass : OpClass
  slots : Slots
  deriving DecidableEq

namespace Instruction

def arity (i : Instruction) : Nat := i.slots.arity

/-- A displacement alone or after one register counts from the instruction's own address, modulo
`2 ^ 32`. No other row of operands has a target. -/
def target? (i : Instruction) (address : UInt32) : Option UInt32 :=
  match i.slots.operands? with
  | some [⟨.displacement, d⟩] => some (address + d)
  | some [⟨.register, _⟩, ⟨.displacement, d⟩] => some (address + d)
  | _ => none

/-- The number of the local register that holds the return address. -/
def returnRegister : UInt32 := 128

/-- A call through the return register that saves into it too. Only the operands' values count. -/
def isReturn (i : Instruction) : Bool :=
  i.mnemonic = "calli" && i.slots.row[0].value = returnRegister &&
    i.slots.row[1].value = returnRegister

end Instruction

end Am29000
