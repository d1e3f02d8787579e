/-!
Instruction words: four bytes, the opcode first, then the three bytes that hold the operand fields.
Field extraction is arithmetic on the bytes' values.
-/
namespace Am29000

structure Word where
  opcode : UInt8
  first : UInt8
  second : UInt8
  third : UInt8
  deriving DecidableEq

namespace Word

def toList (w : Word) : List UInt8 := [w.opcode, w.first, w.second, w.third]

def ofList? : List UInt8 → Option Word
  | [a, b, c, d] => some ⟨a, b, c, d⟩
  | _ => none

/-- The number whose base-256 digits are the bytes, the opcode the most significant. -/
def toNat (w : Word) : Nat :=
  0x1000000 * w.opcode.toNat + 0x10000 * w.first.toNat + 0x100 * w.second.toNat + w.third.toNat

def ofUInt32 (v : UInt32) : Word :=
  let n := v.toNat
  ⟨UInt8.ofNat (n / 0x1000000), UInt8.ofNat (n / 0x10000), UInt8.ofNat (n / 0x100), UInt8.ofNat n⟩

/-- The low bit of the opcode, which tells a register operand from an immediate one. -/
def mode (w : Word) : Bool := w.opcode.toNat % 2 = 1

/-- The 16-bit constant that the first and the third operand byte make up. -/
def constant (w : Word) : Nat := 256 * w.first.toNat + w.third.toNat

/-- Four times the constant read as a signed number, as a 32-bit word. -/
def displacement (w : Word) : UInt32 :=
  UInt32.ofNat
    (if w.constant < 0x8000 then 4 * w.constant else UInt32.size + 4 * w.constant - 0x40000)

end Word

end Am29000
