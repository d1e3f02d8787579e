/-!
Numerals. Writing: decimal and lower-case hexadecimal digits of a natural number, and the signed
forms of a 32-bit word. Reading: an optional plus sign and digits of a base, with a bound on the
value and the cause of every refusal.
-/
namespace Am29000.Numeral

def decimal (n : Nat) : String := String.ofList (Nat.toDigits 10 n)

/-- Lower-case hexadecimal digits, without leading zeros. -/
def hex (n : Nat) : String := String.ofList (Nat.toDigits 16 n)

/-- Hexadecimal digits filled up with zeros on the left to at least `width` of them. -/
def hexWide (width n : Nat) : String :=
  String.ofList (List.leftpad width '0' (Nat.toDigits 16 n))

/-- Hexadecimal with its marker. -/
def hexMarked (n : Nat) : String := "0x" ++ hex n

/-- A word from `2 ^ 31` on stands for a negative number; `magnitude` is its distance from zero. -/
def isNegative (v : UInt32) : Bool := 0x80000000 ≤ v.toNat

def magnitude (v : UInt32) : Nat := if isNegative v then UInt32.size - v.toNat else v.toNat

def sign (v : UInt32) : String := if isNegative v then "-" else ""

def signedDecimal (v : UInt32) : String := sign v ++ decimal (magnitude v)

/-- The sign stands in front of the marker: `-0x4`. -/
def signedHex (v : UInt32) : String := sign v ++ hexMarked (magnitude v)

/-- Why a text is no numeral of the wanted base and range. -/
inductive Fault where
  | empty
  | invalidDigit
  | tooLarge
  deriving DecidableEq

def Fault.message : Fault → String
  | .empty => "cannot parse integer from empty string"
  | .invalidDigit => "invalid digit found in string"
  | .tooLarge => "number too large to fit in target type"

/-- The value of a digit or of a letter of either case after the digits. -/
def digitValue? (c : Char) : Option Nat :=
  if '0' ≤ c ∧ c ≤ '9' then some (c.toNat - '0'.toNat)
  else if 'a' ≤ c ∧ c ≤ 'z' then some (c.toNat - 'a'.toNat + 10)
  else if 'A' ≤ c ∧ c ≤ 'Z' then some (c.toNat - 'A'.toNat + 10)
  else none

/-- The value of a digit of the base. -/
def digit? (base : Nat) (c : Char) : Option Nat := (digitValue? c).filter (· < base)

/-- Reads digits from the left after a value already read. The first fault decides, and a
character that is no digit is noticed before the value it would overflow. -/
def readDigits (base limit : Nat) : Nat → List Char → Except Fault Nat
  | value, [] => .ok value
  | value, c :: rest =>
      match digit? base c with
      | none => .error .invalidDigit
      | some d =>
          if base * value + d < limit then readDigits base limit (base * value + d) rest
          else .error .tooLarge

/-- Reads digits, with or without one plus sign before them, as a number below `limit`. -/
def read (base limit : Nat) : List Char → Except Fault Nat
  | [] => .error .empty
  | c :: rest =>
      if c = '+' then
        if rest.isEmpty then .error .invalidDigit else readDigits base limit 0 rest
      else readDigits base limit 0 (c :: rest)

end Am29000.Numeral
