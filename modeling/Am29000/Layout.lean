import Am29000.Word
import Am29000.Operand

/-!
Layouts: the ways in which the three bytes after the opcode hold operands. Constructors are named
for their fields, where `Rc`, `Ra` and `Rb` are the registers of the first, second and third byte,
`Rbi` is `Rb` or an eight-bit immediate as the mode bit tells, and `Pair` is a pair of two-bit
selectors in the low half of the third byte.
-/
namespace Am29000

inductive Layout where
  | rcRaRbi
  | rcRaRb
  | raConstant
  | raTarget
  | target
  | access
  | raRb
  | rcRaSelector
  | rcRbi
  | convert
  | rcRa
  | rcSpecial
  | specialRb
  | accumulate
  | rcRb
  | rb
  | rcPair
  | raPair
  | bare
  deriving DecidableEq

namespace Layout

/-- The value of bits `low` to `low + width - 1` of a byte. -/
def bits (b : UInt8) (low width : Nat) : UInt32 :=
  UInt32.ofNat ((b.toNat >>> low) % (1 <<< width))

def field (b : UInt8) (low width : Nat) : Operand := .immediate (bits b low width)

/-- The third byte as a register, or as an immediate when the mode bit is set. -/
def lastByte (w : Word) : Operand := if w.mode then field w.third 0 8 else .register w.third

/-- The displacement counts from the instruction's address when the mode bit is `relative`, and
is an absolute address otherwise. -/
def jumpField (w : Word) (relative : Bool) : Operand :=
  if w.mode = relative then .displacement w.displacement else .immediate w.displacement

/-- The operands that a layout finds in a word, at most six. -/
def fields (w : Word) : Layout → List Operand
  | rcRaRbi => [.register w.first, .register w.second, lastByte w]
  | rcRaRb => [.register w.first, .register w.second, .register w.third]
  | raConstant => [.register w.second, .immediate (UInt32.ofNat w.constant)]
  | raTarget => [.register w.second, jumpField w false]
  | target => [jumpField w true]
  | access => [field w.first 7 1, field w.first 0 7, .register w.second, lastByte w]
  | raRb => [.register w.second, .register w.third]
  | rcRaSelector => [.register w.first, .register w.second, field w.third 0 2]
  | rcRbi => [.register w.first, lastByte w]
  | convert =>
      [.register w.first, .register w.second, field w.third 7 1, field w.third 4 3,
       field w.third 2 2, field w.third 0 2]
  | rcRa => [.register w.first, .register w.second]
  | rcSpecial => [.register w.first, .register w.second]
  | specialRb => [.register w.second, .register w.third]
  | accumulate => [field w.first 2 4, field w.first 0 2, .register w.first, .register w.second]
  | rcRb => [.register w.first, .register w.third]
  | rb => [.register w.third]
  | rcPair => [.register w.first, field w.third 2 2, field w.third 0 2]
  | raPair => [.register w.second, field w.third 2 2, field w.third 0 2]
  | bare => []

def slots (l : Layout) (w : Word) : Slots := .ofList (l.fields w)

theorem length_fields_le (l : Layout) (w : Word) : (l.fields w).length ≤ 6 := by
  cases l <;> simp [fields]

end Layout

end Am29000
