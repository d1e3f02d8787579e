import Am29000.Json.Basic
import Am29000.Text.Numeral

/-!
Reading JSON. Every reader takes what it needs from the front of the text and leaves the rest; a
text that is not JSON, or that goes on after its value, is refused.
-/
namespace Am29000

namespace Json

def isBlank (c : Char) : Bool := c = ' ' || c = '\t' || c = '\n' || c = '\r'

def skipBlank (s : List Char) : List Char := s.dropWhile isBlank

/-- What a string is made of before surrogate pairs are joined: characters, and the code units of
numeric escapes. -/
inductive Piece where
  | char (c : Char)
  | unit (n : Nat)
  deriving DecidableEq

/-- The character of a one-letter escape. -/
def shortEscape? (c : Char) : Option Char :=
  if c = '\"' ∨ c = '\\' ∨ c = '/' then some c
  else if c = 'b' then some '\x08'
  else if c = 't' then some '\t'
  else if c = 'n' then some '\n'
  else if c = 'f' then some '\x0c'
  else if c = 'r' then some '\r'
  else none

/-- The number that four hexadecimal digits stand for. -/
def codeUnit? (a b c d : Char) : Option Nat := do
  let a ← Numeral.digit? 16 a
  let b ← Numeral.digit? 16 b
  let c ← Numeral.digit? 16 c
  let d ← Numeral.digit? 16 d
  return 4096 * a + 256 * b + 16 * c + d

/-- The pieces up to the closing quote, and what follows it. Control characters are not allowed. -/
def readPieces : List Char → Option (List Piece × List Char)
  | [] => none
  | '\"' :: rest => some ([], rest)
  | '\\' :: 'u' :: a :: b :: c :: d :: rest => do
      let n ← codeUnit? a b c d
      let (ps, rest) ← readPieces rest
      return (.unit n :: ps, rest)
  | '\\' :: c :: rest => do
      let e ← shortEscape? c
      let (ps, rest) ← readPieces rest
      return (.char e :: ps, rest)
  | c :: rest =>
      if c.toNat < 0x20 ∨ c = '\\' then none
      else do
        let (ps, rest) ← readPieces rest
        return (.char c :: ps, rest)

def isHighHalf (n : Nat) : Bool := 0xD800 ≤ n && n < 0xDC00

def isLowHalf (n : Nat) : Bool := 0xDC00 ≤ n && n < 0xE000

/-- Joins the halves of surrogate pairs; there is no text when one stands alone. -/
def joinPieces : List Piece → Option (List Char)
  | [] => some []
  | .char c :: ps => (joinPieces ps).map (c :: ·)
  | .unit n :: ps =>
      if isHighHalf n then
        match ps with
        | .unit m :: ps =>
            if isLowHalf m then
              let c := Char.ofNat (0x10000 + 0x400 * (n - 0xD800) + (m - 0xDC00))
              (joinPieces ps).map (c :: ·)
            else none
        | _ => none
      else if isLowHalf n then none
      else (joinPieces ps).map (Char.ofNat n :: ·)

/-- A string after its opening quote. -/
def readText (s : List Char) : Option (JsonText × List Char) :=
  (readPieces s).map fun (ps, rest) => ((joinPieces ps).map String.ofList, rest)

/-- One digit or more. -/
def readDigits (s : List Char) : Option (List Char × List Char) :=
  match s.span Char.isDigit with
  | ([], _) => none
  | (ds, rest) => some (ds, rest)

/-- Digits that do not start with a zero, or a zero alone. -/
def readWhole (s : List Char) : Option (List Char × List Char) :=
  match readDigits s with
  | some ('0' :: _ :: _, _) => none
  | r => r

def readFraction : List Char → Option (List Char × List Char)
  | '.' :: s => (readDigits s).map fun (ds, rest) => ('.' :: ds, rest)
  | s => some ([], s)

/-- The sign of an exponent, which may be left out. -/
def readSign : List Char → List Char × List Char
  | '+' :: s => (['+'], s)
  | '-' :: s => (['-'], s)
  | s => ([], s)

def readExponent : List Char → Option (List Char × List Char)
  | c :: s =>
      if c = 'e' ∨ c = 'E' then
        let (sign, s) := readSign s
        (readDigits s).map fun (ds, rest) => (c :: sign ++ ds, rest)
      else some ([], c :: s)
  | [] => some ([], [])

/-- A numeral without its minus sign: the digits before the point, then all that follows them. -/
def readUnsigned (s : List Char) : Option (List Char × List Char × List Char) := do
  let (whole, s) ← readWhole s
  let (fraction, s) ← readFraction s
  let (exponent, s) ← readExponent s
  return (whole, fraction ++ exponent, s)

def readNumber : List Char → Option (Json × List Char)
  | '-' :: s =>
      (readUnsigned s).map fun (whole, more, rest) =>
        (number (String.ofList ('-' :: whole ++ more)), rest)
  | s =>
      (readUnsigned s).map fun (whole, more, rest) =>
        if more = [] then (natural (Nat.ofDigitChars 10 whole 0), rest)
        else (number (String.ofList (whole ++ more)), rest)

mutual

/-- A value, with the white space before it. Every level of nesting takes two from the count. -/
def readValue : Nat → List Char → Option (Json × List Char)
  | 0, _ => none
  | fuel + 1, s =>
      match skipBlank s with
      | 'n' :: 'u' :: 'l' :: 'l' :: rest => some (null, rest)
      | 't' :: 'r' :: 'u' :: 'e' :: rest => some (bool true, rest)
      | 'f' :: 'a' :: 'l' :: 's' :: 'e' :: rest => some (bool false, rest)
      | '\"' :: rest => (readText rest).map fun (t, rest) => (string t, rest)
      | '[' :: rest =>
          match skipBlank rest with
          | ']' :: rest => some (array [], rest)
          | rest => (readItems fuel rest).map fun (vs, rest) => (array vs, rest)
      | '\x7b' :: rest =>
          match skipBlank rest with
          | '\x7d' :: rest => some (object [], rest)
          | rest => (readMembers fuel rest).map fun (ms, rest) => (object ms, rest)
      | s => readNumber s

/-- The items of an array up to the closing bracket; there is one at least. -/
def readItems : Nat → List Char → Option (List Json × List Char)
  | 0, _ => none
  | fuel + 1, s =>
      match readValue fuel s with
      | none => none
      | some (v, s) =>
          match skipBlank s with
          | ']' :: rest => some ([v], rest)
          | ',' :: rest => (readItems fuel rest).map fun (vs, rest) => (v :: vs, rest)
          | _ => none

/-- The members of an object up to the closing brace; there is one at least. -/
def readMembers : Nat → List Char → Option (List (JsonText × Json) × List Char)
  | 0, _ => none
  | fuel + 1, s =>
      match skipBlank s with
      | '\"' :: rest =>
          match readText rest with
          | none => none
          | some (k, s) =>
              match skipBlank s with
              | ':' :: rest =>
                  match readValue fuel rest with
                  | none => none
                  | some (v, s) =>
                      match skipBlank s with
                      | '\x7d' :: rest => some ([(k, v)], rest)
                      | ',' :: rest =>
                          (readMembers fuel rest).map fun (ms, rest) => ((k, v) :: ms, rest)
                      | _ => none
              | _ => none
      | _ => none

end

/-- The value that a whole text stands for. -/
def parse? (s : String) : Option Json :=
  let cs := s.toList
  match readValue (2 * cs.length + 2) cs with
  | some (v, rest) => if skipBlank rest = [] then some v else none
  | none => none

end Json

end Am29000
