import Am29000.Catalog
import Am29000.Instruction
import Am29000.Part.Label

/-! Decoding: from four bytes to an instruction, by the first catalog entry that applies. -/
namespace Am29000

inductive DecodeError where
  | input (e : InputError)
  | unknownOpcode (opcode : UInt8)
  deriving DecidableEq

def DecodeError.message : DecodeError → String
  | input e => "invalid input: " ++ e.message
  | unknownOpcode b => "unknown opcode 0x" ++ Numeral.hexWide 2 b.toNat

namespace Instruction

/-- The word that stands for doing nothing. Its opcode has another meaning in all other words. -/
def reservedNop : Word := ⟨0x70, 0x40, 0x01, 0x01⟩

def nop : Instruction := ⟨"nop", .nop, .empty⟩

/-- The instruction that a catalog entry makes of a word. -/
def ofEntry (e : Entry) (w : Word) : Instruction := ⟨e.mnemonic, e.opClass, e.layout.slots w⟩

end Instruction

namespace Config

def decodeWord (c : Config) (w : Word) : Except DecodeError Instruction :=
  if w = Instruction.reservedNop then .ok .nop
  else
    match c.lookup w.opcode with
    | some e => .ok (.ofEntry e w)
    | none => .error (.unknownOpcode w.opcode)

/-- Decodes the first four bytes of a buffer. -/
def decode (c : Config) (bytes : List UInt8) : Except DecodeError Instruction :=
  match Word.ofList? (bytes.take 4) with
  | some w => c.decodeWord w
  | none => .error (.input (.shortBuffer bytes.length))

theorem decode_toList (c : Config) (w : Word) : c.decode w.toList = c.decodeWord w := rfl

end Config

/-- Decodes for a labelled part. The label is checked before the buffer. -/
def decode (bytes : List UInt8) (label : Option String) : Except DecodeError Instruction :=
  match Config.ofLabel label with
  | .ok c => c.decode bytes
  | .error e => .error (.input e)

end Am29000
