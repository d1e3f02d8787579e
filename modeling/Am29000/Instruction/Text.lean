import Am29000.Instruction
import Am29000.Text.Cut
import Am29000.Text.Numeral

/-!
The text of an instruction: its mnemonic, then one token per operand where the row of operand kinds
has a layout. The mnemonic never selects the layout.
-/
namespace Am29000

namespace Operand

/-- Registers from 128 on are local, and counted from one. -/
def registerName (v : UInt32) : String :=
  if v.toNat < 128 then "gr" ++ Numeral.decimal v.toNat
  else "lr" ++ Numeral.decimal (v.toNat - 127)

/-- The token of an operand in an instruction at `address`; `wide` rows write immediates in
decimal. -/
def token (wide : Bool) (address : UInt32) : Operand → String
  | ⟨.register, v⟩ => registerName v
  | ⟨.immediate, v⟩ => if wide then Numeral.signedDecimal v else Numeral.signedHex v
  | ⟨.displacement, d⟩ => Numeral.hexMarked (address + d).toNat
  | ⟨.unused, _⟩ => ""

end Operand

namespace Instruction

/-- The rows of operand kinds that are written out. -/
def laidOut : List (List Kind) :=
  [[.register], [.immediate], [.displacement],
   [.register, .register], [.register, .immediate], [.register, .displacement],
   [.register, .register, .register], [.register, .register, .immediate],
   [.immediate, .immediate, .register, .register],
   [.register, .register, .immediate, .immediate, .immediate, .immediate]]

/-- The tokens after the mnemonic; none for a row of kinds that is not laid out. -/
def tokens (i : Instruction) (address : UInt32) : List String :=
  match i.slots.operands? with
  | some os =>
      if os.map Operand.kind ∈ laidOut then os.map (Operand.token (4 ≤ os.length) address)
      else []
  | none => []

def text (i : Instruction) (address : UInt32) : String :=
  i.mnemonic ++ String.join ((i.tokens address).map (" " ++ ·))

/-- The text cut to at most `limit` bytes. -/
def render (limit : Nat) (i : Instruction) (address : UInt32) : String :=
  Cut.cut limit (i.text address)

end Instruction

end Am29000
