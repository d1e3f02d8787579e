/-! The classes of operations that analyses of control and data flow tell apart. -/
namespace Am29000

inductive OpClass where
  | unclassified
  | add
  | sub
  | mul
  | div
  | and
  | or
  | xor
  | nor
  | shiftLeft
  | shiftRight
  | arithmeticShiftLeft
  | compare
  | move
  | load
  | store
  | jump
  | condJump
  | indirectJump
  | indirectCondJump
  | call
  | indirectCall
  | ret
  | nop
  deriving DecidableEq

namespace OpClass

def name : OpClass → String
  | unclassified => "Unclassified"
  | add => "Add"
  | sub => "Sub"
  | mul => "Mul"
  | div => "Div"
  | and => "And"
  | or => "Or"
  | xor => "Xor"
  | nor => "Nor"
  | shiftLeft => "Shl"
  | shiftRight => "Shr"
  | arithmeticShiftLeft => "Sal"
  | compare => "Cmp"
  | move => "Mov"
  | load => "Load"
  | store => "Store"
  | jump => "Jump"
  | condJump => "CondJump"
  | indirectJump => "IndirectJump"
  | indirectCondJump => "IndirectCondJump"
  | call => "Call"
  | indirectCall => "IndirectCall"
  | ret => "Ret"
  | nop => "Nop"

def all : List OpClass :=
  [unclassified, add, sub, mul, div, and, or, xor, nor, shiftLeft, shiftRight,
   arithmeticShiftLeft, compare, move, load, store, jump, condJump, indirectJump,
   indirectCondJump, call, indirectCall, ret, nop]

theorem mem_all (c : OpClass) : c ∈ all := by cases c <;> decide

def ofName? (s : String) : Option OpClass := all.find? fun c => c.name = s

theorem ofName?_name (c : OpClass) : ofName? c.name = some c := by cases c <;> decide

end OpClass

end Am29000
