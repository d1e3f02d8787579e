import Am29000.Text.Numeral
import Am29000.Text.Blank

/-!
Texts of addresses and of instruction words. An address is written with eight hexadecimal digits
after its marker and read in decimal or marked hexadecimal; a word is read in hexadecimal.
-/
namespace Am29000.Address

/-- Ten characters up to `2 ^ 32 - 1`, one more from there on. -/
def write (a : Nat) : String := "0x" ++ Numeral.hexWide 8 a

/-- White space around the numeral is dropped; a marker of either case makes it hexadecimal. -/
def read (s : String) : Except Numeral.Fault UInt32 :=
  match Blank.trim s.toList with
  | '0' :: 'x' :: digits => (Numeral.read 16 UInt32.size digits).map UInt32.ofNat
  | '0' :: 'X' :: digits => (Numeral.read 16 UInt32.size digits).map UInt32.ofNat
  | digits => (Numeral.read 10 UInt32.size digits).map UInt32.ofNat

/-- Drops the marker `0x` as often as it stands at the front. -/
def dropMarkers : List Char → List Char
  | '0' :: 'x' :: rest => dropMarkers rest
  | s => s

/-- An instruction word, always in hexadecimal, after any number of markers. -/
def readWord (s : String) : Except Numeral.Fault UInt32 :=
  (Numeral.read 16 UInt32.size (dropMarkers s.toList)).map UInt32.ofNat

end Am29000.Address
