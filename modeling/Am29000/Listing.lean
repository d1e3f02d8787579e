import Am29000.Decode
import Am29000.Instruction.Text
import Am29000.Memory
import Am29000.Text.Address

/-!
Listings: one line per word of an address range, from its start up to the first word that is not
whole or not mapped. A word that does not decode has a line too.
-/
namespace Am29000

structure Line where
  address : UInt32
  word : Word
  text : String
  opClass? : Option OpClass
  target? : Option UInt32
  isReturn : Bool
  deriving DecidableEq

namespace Line

/-- The text of a word that the decoder rejects. -/
def illegal : String := "illegal"

def ofInstruction (address : UInt32) (w : Word) (i : Instruction) : Line :=
  ⟨address, w, i.text address, some i.opClass, i.target? address, i.isReturn⟩

def rejected (address : UInt32) (w : Word) : Line := ⟨address, w, illegal, none, none, false⟩

def ofWord (c : Config) (address : UInt32) (w : Word) : Line :=
  match c.decodeWord w with
  | .ok i => ofInstruction address w i
  | .error _ => rejected address w

@[simp] theorem address_ofWord (c : Config) (address : UInt32) (w : Word) :
    (ofWord c address w).address = address := by
  unfold ofWord
  split <;> rfl

@[simp] theorem word_ofWord (c : Config) (address : UInt32) (w : Word) :
    (ofWord c address w).word = w := by
  unfold ofWord
  split <;> rfl

/-- A byte as two hexadecimal digits. -/
def byteText (b : UInt8) : String := Numeral.hexWide 2 b.toNat

/-- The address, the bytes if wanted, and the text. -/
def write (showBytes : Bool) (l : Line) : String :=
  let bytes := String.intercalate " " (l.word.toList.map byteText) ++ "   "
  Address.write l.address.toNat ++ ": " ++ (if showBytes then bytes else "") ++ l.text

end Line

/-- Why a sweep ends: its range holds no further whole word, the next word is not mapped, or no
address follows the last word. -/
inductive Ending where
  | range
  | unmapped
  | top
  deriving DecidableEq

/-- What a sweep does at an address: list the word there and go on, list it as the last one, or
end. -/
inductive Turn where
  | more (w : Word) (next : UInt32)
  | last (w : Word)
  | done (e : Ending)
  deriving DecidableEq

namespace Image

/-- The range test is made on natural numbers, so that a range can reach the highest address. -/
def turn (m : Image) (stop address : UInt32) : Turn :=
  if address.toNat + 4 ≤ stop.toNat then
    match m.word? address with
    | none => .done .unmapped
    | some w => if address.toNat + 4 < UInt32.size then .more w (address + 4) else .last w
  else .done .range

/-- A sweep lists a word and goes on four bytes further exactly when the word is mapped and ends
within the range. -/
theorem turn_eq_more_iff {m : Image} {stop address next : UInt32} {w : Word} :
    m.turn stop address = .more w next ↔
      address.toNat + 4 ≤ stop.toNat ∧ m.word? address = some w ∧ next = address + 4 := by
  have := stop.toNat_lt_size
  unfold turn
  split
  next hstop =>
    have htop : address.toNat + 4 < UInt32.size := by omega
    simp only [htop, ↓reduceIte]
    cases m.word? address <;> simp [hstop, eq_comm]
  next hstop => simp [hstop]

theorem toNat_next {m : Image} {stop address next : UInt32} {w : Word}
    (h : m.turn stop address = .more w next) : next.toNat = address.toNat + 4 := by
  obtain ⟨hstop, -, rfl⟩ := turn_eq_more_iff.1 h
  have := stop.toNat_lt_size
  exact toNat_add_of_lt (show address.toNat + 4 < UInt32.size by omega)

/-- No word of a range is the last one before the top. -/
theorem turn_ne_last (m : Image) (stop address : UInt32) (w : Word) :
    m.turn stop address ≠ .last w := by
  have := stop.toNat_lt_size
  unfold turn
  split
  next hstop =>
    have htop : address.toNat + 4 < UInt32.size := by omega
    simp only [htop, ↓reduceIte]
    cases m.word? address <;> simp
  next => simp

theorem turn_eq_done_iff {m : Image} {stop address : UInt32} {e : Ending} :
    m.turn stop address = .done e ↔
      (e = .range ∧ stop.toNat < address.toNat + 4) ∨
        (e = .unmapped ∧ address.toNat + 4 ≤ stop.toNat ∧ m.word? address = none) := by
  unfold turn
  split
  next hstop =>
    have hrange : ¬stop.toNat < address.toNat + 4 := by omega
    cases m.word? address with
    | none => simp [hstop, hrange, eq_comm]
    | some w =>
      dsimp only
      split <;> simp [hrange]
  next hstop =>
    have hrange : stop.toNat < address.toNat + 4 := by omega
    simp [hstop, hrange, eq_comm]

/-- The lines from `address` on of a range that ends at `stop`, and why there are no more. -/
def sweepFrom (m : Image) (c : Config) (stop address : UInt32) : List Line × Ending :=
  match _h : m.turn stop address with
  | .more w next =>
      let rest := sweepFrom m c stop next
      (Line.ofWord c address w :: rest.1, rest.2)
  | .last w => ([Line.ofWord c address w], .top)
  | .done e => ([], e)
termination_by stop.toNat - address.toNat
decreasing_by
  have hstop := (turn_eq_more_iff.1 _h).1
  have hnext := toNat_next _h
  omega

/-- The lines from `start` up to `stop`. A last part that is no whole word is not read. -/
def sweep (m : Image) (c : Config) (start stop : UInt32) : List Line :=
  (m.sweepFrom c stop start).1

end Image

namespace Listing

/-- Every line ends with a line feed. -/
def write (showBytes : Bool) (ls : List Line) : String :=
  String.join (ls.map fun l => l.write showBytes ++ "\n")

end Listing

end Am29000
