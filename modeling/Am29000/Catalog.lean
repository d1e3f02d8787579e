import Am29000.Layout
import Am29000.OpClass
import Am29000.Part

/-!
The catalog of instructions. It is a priority list: opcodes from `0xE4` to `0xEF` that the newer
part gave a new meaning stand in it twice, and of the entries that a decoder admits the first
counts.
-/
namespace Am29000

structure Entry where
  parts : PartSet
  mnemonic : String
  opClass : OpClass
  opcode : UInt8
  layout : Layout
  deriving DecidableEq

namespace Entry

/-- An instruction of every part. -/
def common (mnemonic : String) (opClass : OpClass) (opcode : UInt8) (layout : Layout) : Entry :=
  ⟨.any, mnemonic, opClass, opcode, layout⟩

/-- An instruction that the newer part dropped. -/
def olderOnly (mnemonic : String) (opClass : OpClass) (opcode : UInt8) (layout : Layout) : Entry :=
  ⟨.am29000, mnemonic, opClass, opcode, layout⟩

/-- An instruction that the newer part brought in. -/
def newerOnly (mnemonic : String) (opClass : OpClass) (opcode : UInt8) (layout : Layout) : Entry :=
  ⟨.am29050, mnemonic, opClass, opcode, layout⟩

end Entry

def catalog : List Entry :=
  [.common "illegal" .unclassified 0x00 .bare,
   .common "add" .add 0x14 .rcRaRbi,
   .common "add" .add 0x15 .rcRaRbi,
   .common "addc" .add 0x1C .rcRaRbi,
   .common "addc" .add 0x1D .rcRaRbi,
   .common "addcs" .add 0x18 .rcRaRbi,
   .common "addcs" .add 0x19 .rcRaRbi,
   .common "addcu" .add 0x1A .rcRaRbi,
   .common "addcu" .add 0x1B .rcRaRbi,
   .common "adds" .add 0x10 .rcRaRbi,
   .common "adds" .add 0x11 .rcRaRbi,
   .common "addu" .add 0x12 .rcRaRbi,
   .common "addu" .add 0x13 .rcRaRbi,
   .common "and" .and 0x90 .rcRaRbi,
   .common "and" .and 0x91 .rcRaRbi,
   .common "andn" .and 0x9C .rcRaRbi,
   .common "andn" .and 0x9D .rcRaRbi,
   .common "aseq" .compare 0x70 .rcRaRbi,
   .common "asge" .compare 0x5C .rcRaRbi,
   .common "asge" .compare 0x5D .rcRaRbi,
   .common "asgeu" .compare 0x5E .rcRaRbi,
   .common "asgeu" .compare 0x5F .rcRaRbi,
   .common "asgt" .compare 0x58 .rcRaRbi,
   .common "asgt" .compare 0x59 .rcRaRbi,
   .common "asgtu" .compare 0x5A .rcRaRbi,
   .common "asgtu" .compare 0x5B .rcRaRbi,
   .common "asle" .compare 0x54 .rcRaRbi,
   .common "asle" .compare 0x55 .rcRaRbi,
   .common "asleu" .compare 0x56 .rcRaRbi,
   .common "asleu" .compare 0x57 .rcRaRbi,
   .common "aslt" .compare 0x50 .rcRaRbi,
   .common "aslt" .compare 0x51 .rcRaRbi,
   .common "asltu" .compare 0x52 .rcRaRbi,
   .common "asltu" .compare 0x53 .rcRaRbi,
   .common "asneq" .compare 0x72 .rcRaRbi,
   .common "asneq" .compare 0x73 .rcRaRbi,
   .common "call" .call 0xA8 .raTarget,
   .common "call" .call 0xA9 .raTarget,
   .common "calli" .indirectCall 0xC8 .raRb,
   .newerOnly "class" .unclassified 0xE6 .rcRaSelector,
   .common "clz" .unclassified 0x08 .rcRbi,
   .common "clz" .unclassified 0x09 .rcRbi,
   .common "const" .move 0x03 .raConstant,
   .common "consth" .move 0x02 .raConstant,
   .common "consthz" .move 0x05 .raConstant,
   .common "constn" .move 0x01 .raConstant,
   .newerOnly "convert" .unclassified 0xE4 .convert,
   .common "cpbyte" .compare 0x2E .rcRaRbi,
   .common "cpbyte" .compare 0x2F .rcRaRbi,
   .common "cpeq" .compare 0x60 .rcRaRbi,
   .common "cpeq" .compare 0x61 .rcRaRbi,
   .common "cpge" .compare 0x4C .rcRaRbi,
   .common "cpge" .compare 0x4D .rcRaRbi,
   .common "cpgeu" .compare 0x4E .rcRaRbi,
   .common "cpgeu" .compare 0x4F .rcRaRbi,
   .common "cpgt" .compare 0x48 .rcRaRbi,
   .common "cpgt" .compare 0x49 .rcRaRbi,
   .common "cpgtu" .compare 0x4A .rcRaRbi,
   .common "cpgtu" .compare 0x4B .rcRaRbi,
   .common "cple" .compare 0x44 .rcRaRbi,
   .common "cple" .compare 0x45 .rcRaRbi,
   .common "cpleu" .compare 0x46 .rcRaRbi,
   .common "cpleu" .compare 0x47 .rcRaRbi,
   .common "cplt" .compare 0x40 .rcRaRbi,
   .common "cplt" .compare 0x41 .rcRaRbi,
   .common "cpltu" .compare 0x42 .rcRaRbi,
   .common "cpltu" .compare 0x43 .rcRaRbi,
   .common "cpneq" .compare 0x62 .rcRaRbi,
   .common "cpneq" .compare 0x63 .rcRaRbi,
   .olderOnly "cvdf" .unclassified 0xE9 .rcRa,
   .olderOnly "cvdint" .unclassified 0xE7 .rcRa,
   .olderOnly "cvfd" .unclassified 0xE8 .rcRa,
   .olderOnly "cvfint" .unclassified 0xE6 .rcRa,
   .olderOnly "cvintd" .unclassified 0xE5 .rcRa,
   .olderOnly "cvintf" .unclassified 0xE4 .rcRa,
   .common "dadd" .unclassified 0xF1 .rcRaRb,
   .common "ddiv" .div 0xF7 .rcRaRb,
   .common "deq" .compare 0xEB .rcRaRb,
   .newerOnly "dge" .compare 0xEF .rcRaRb,
   .common "dgt" .compare 0xED .rcRaRb,
   .common "div" .div 0x6A .rcRaRbi,
   .common "div" .div 0x6B .rcRaRbi,
   .common "div0" .div 0x68 .rcRaRbi,
   .common "div0" .div 0x69 .rcRaRbi,
   .common "divide" .div 0xE1 .rcRaRb,
   .newerOnly "dividu" .div 0xE3 .rcRaRb,
   .common "divl" .div 0x6C .rcRaRbi,
   .common "divl" .div 0x6D .rcRaRbi,
   .common "divrem" .div 0x6E .rcRaRbi,
   .common "divrem" .div 0x6F .rcRaRbi,
   .olderOnly "dlt" .compare 0xEF .rcRaRb,
   .newerOnly "dmac" .unclassified 0xD9 .accumulate,
   .newerOnly "dmsm" .unclassified 0xDB .rcRaRb,
   .common "dmul" .mul 0xF5 .rcRaRb,
   .common "dsub" .sub 0xF3 .rcRaRb,
   .common "emulate" .unclassified 0xF8 .rcRaRbi,
   .common "exbyte" .unclassified 0x0A .rcRaRbi,
   .common "exbyte" .unclassified 0x0B .rcRaRbi,
   .common "exhw" .unclassified 0x7C .rcRaRbi,
   .common "exhw" .unclassified 0x7D .rcRaRbi,
   .common "exhws" .unclassified 0x7E .rcRa,
   .common "extract" .unclassified 0x7A .rcRaRbi,
   .common "extract" .unclassified 0x7B .rcRaRbi,
   .common "fadd" .add 0xF0 .rcRaRb,
   .common "fdiv" .div 0xF6 .rcRaRb,
   .newerOnly "fdmul" .mul 0xF9 .rcRaRb,
   .common "feq" .compare 0xEA .rcRaRb,
   .newerOnly "fge" .compare 0xEE .rcRaRb,
   .common "fgt" .compare 0xEC .rcRaRb,
   .olderOnly "flt" .compare 0xEE .rcRaRb,
   .newerOnly "fmac" .unclassified 0xD8 .accumulate,
   .newerOnly "fmsm" .unclassified 0xDA .rcRaRb,
   .common "fmul" .mul 0xF4 .rcRaRb,
   .common "fsub" .sub 0xF2 .rcRaRb,
   .common "halt" .ret 0x89 .bare,
   .common "inbyte" .unclassified 0x0C .rcRaRbi,
   .common "inbyte" .unclassified 0x0D .rcRaRbi,
   .common "inhw" .unclassified 0x78 .rcRaRbi,
   .common "inhw" .unclassified 0x79 .rcRaRbi,
   .common "inv" .unclassified 0x9F .bare,
   .common "iret" .ret 0x88 .bare,
   .common "iretinv" .ret 0x8C .bare,
   .common "jmp" .jump 0xA0 .target,
   .common "jmp" .jump 0xA1 .target,
   .common "jmpf" .condJump 0xA4 .raTarget,
   .common "jmpf" .condJump 0xA5 .raTarget,
   .common "jmpfdec" .condJump 0xB4 .raTarget,
   .common "jmpfdec" .condJump 0xB5 .raTarget,
   .common "jmpfi" .indirectCondJump 0xC4 .rcRb,
   .common "jmpi" .indirectJump 0xC0 .rb,
   .common "jmpt" .condJump 0xAC .raTarget,
   .common "jmpti" .indirectCondJump 0xCC .rcRb,
   .newerOnly "mfacc" .unclassified 0xE9 .rcPair,
   .newerOnly "mtacc" .unclassified 0xE8 .raPair,
   .common "mfsr" .unclassified 0xC6 .rcSpecial,
   .common "mftlb" .unclassified 0xB6 .rcRa,
   .common "mtsr" .unclassified 0xCE .specialRb,
   .common "mtsrim" .unclassified 0x04 .raConstant,
   .common "mttlb" .unclassified 0xBE .rcRb,
   .common "mul" .mul 0x64 .rcRaRbi,
   .common "mul" .mul 0x65 .rcRaRbi,
   .common "mull" .mul 0x66 .rcRaRbi,
   .common "mull" .mul 0x67 .rcRaRbi,
   .newerOnly "multiplu" .mul 0xE2 .rcRaRb,
   .common "multiply" .mul 0xE0 .rcRaRb,
   .newerOnly "multm" .mul 0xDE .rcRaRb,
   .newerOnly "multmu" .mul 0xDF .rcRaRb,
   .common "mulu" .mul 0x74 .rcRaRbi,
   .common "mulu" .mul 0x75 .rcRaRbi,
   .common "nand" .and 0x9A .rcRaRbi,
   .common "nand" .and 0x9B .rcRaRbi,
   .common "nor" .nor 0x98 .rcRaRbi,
   .common "nor" .nor 0x99 .rcRaRbi,
   .common "or" .or 0x92 .rcRaRbi,
   .common "or" .or 0x93 .rcRaRbi,
   .newerOnly "orn" .or 0xAA .rcRaRbi,
   .newerOnly "orn" .or 0xAB .rcRaRbi,
   .common "setip" .unclassified 0x9E .rcRaRb,
   .common "sll" .shiftLeft 0x80 .rcRaRbi,
   .common "sll" .shiftLeft 0x81 .rcRaRbi,
   .newerOnly "sqrt" .unclassified 0xE5 .rcRaSelector,
   .common "sra" .shiftRight 0x86 .rcRaRbi,
   .common "sra" .shiftRight 0x87 .rcRaRbi,
   .common "srl" .arithmeticShiftLeft 0x82 .rcRaRbi,
   .common "srl" .arithmeticShiftLeft 0x83 .rcRaRbi,
   .common "load" .load 0x16 .access,
   .common "load" .load 0x17 .access,
   .common "loadl" .load 0x06 .access,
   .common "loadl" .load 0x07 .access,
   .common "loadm" .load 0x36 .access,
   .common "loadm" .load 0x37 .access,
   .common "loadset" .load 0x26 .access,
   .common "loadset" .load 0x27 .access,
   .common "store" .store 0x1E .access,
   .common "store" .store 0x1F .access,
   .common "storel" .store 0x0E .access,
   .common "storel" .store 0x0F .access,
   .common "storem" .store 0x3E .access,
   .common "storem" .store 0x3F .access,
   .common "sub" .sub 0x24 .rcRaRbi,
   .common "sub" .sub 0x25 .rcRaRbi,
   .common "subc" .sub 0x2C .rcRaRbi,
   .common "subc" .sub 0x2D .rcRaRbi,
   .common "subcs" .sub 0x28 .rcRaRbi,
   .common "subcs" .sub 0x29 .rcRaRbi,
   .common "subcu" .sub 0x2A .rcRaRbi,
   .common "subcu" .sub 0x2B .rcRaRbi,
   .common "subr" .sub 0x34 .rcRaRbi,
   .common "subr" .sub 0x35 .rcRaRbi,
   .common "subrc" .sub 0x3C .rcRaRbi,
   .common "subrc" .sub 0x3D .rcRaRbi,
   .common "subrcs" .sub 0x38 .rcRaRbi,
   .common "subrcs" .sub 0x39 .rcRaRbi,
   .common "subrcu" .sub 0x3A .rcRaRbi,
   .common "subrcu" .sub 0x3B .rcRaRbi,
   .common "subrs" .sub 0x30 .rcRaRbi,
   .common "subrs" .sub 0x31 .rcRaRbi,
   .common "subru" .sub 0x32 .rcRaRbi,
   .common "subru" .sub 0x33 .rcRaRbi,
   .common "subs" .sub 0x20 .rcRaRbi,
   .common "subs" .sub 0x21 .rcRaRbi,
   .common "subu" .sub 0x22 .rcRaRbi,
   .common "subu" .sub 0x23 .rcRaRbi,
   .common "xnor" .xor 0x96 .rcRaRbi,
   .common "xnor" .xor 0x97 .rcRaRbi,
   .common "xor" .xor 0x94 .rcRaRbi,
   .common "xor" .xor 0x95 .rcRaRbi]

namespace Catalog

/-- All entries of an opcode, in order of priority. -/
def entriesFor (opcode : UInt8) : List Entry := catalog.filter fun e => e.opcode = opcode

end Catalog

namespace Config

/-- A strict decoder admits the entries of its part. Any other goes by the marker of the entry, and
takes the common ones and those of either part. -/
def admits (c : Config) (e : Entry) : Bool :=
  if c.strict then e.parts.contains c.part.toSet else e.parts.marker ∈ ['*', '0', '5']

/-- The first entry of the opcode that the decoder admits. -/
def lookup (c : Config) (opcode : UInt8) : Option Entry :=
  catalog.find? fun e => e.opcode = opcode && c.admits e

theorem opcode_of_lookup {c : Config} {b : UInt8} {e : Entry} (h : c.lookup b = some e) :
    e.opcode = b := by
  have := List.find?_some h
  simp_all

/-- A decoder that is not strict takes the first entry of the opcode, whatever part it is for. -/
theorem lookup_lenient (p : Part) (b : UInt8) :
    (Config.mk p false).lookup b = (Catalog.entriesFor b).head? := by
  have hm (e : Entry) : e.parts.marker ∈ ['*', '0', '5'] := e.parts.marker_mem
  simp only [lookup, admits, Bool.false_eq_true, ↓reduceIte, hm, decide_true, Bool.and_true,
    Catalog.entriesFor, List.head?_filter]

end Config

end Am29000
