import Am29000.Json.Basic
import Am29000.Text.Numeral

/-!
Writing JSON. The compact and the indented form are one printer with two styles, which differ in
what stands between the items of an array or object and after a key.
-/
namespace Am29000

namespace Json

/-- The short escapes, then code points for the other control characters; everything else is
written as it is. -/
def escape (c : Char) : String :=
  if c = '\"' then "\\\""
  else if c = '\\' then "\\\\"
  else if c = '\x08' then "\\b"
  else if c = '\t' then "\\t"
  else if c = '\n' then "\\n"
  else if c = '\x0c' then "\\f"
  else if c = '\r' then "\\r"
  else if c.toNat < 0x20 then "\\u" ++ Numeral.hexWide 4 c.toNat
  else c.toString

/-- A missing text is written as a lone half of a surrogate pair, and so reads back as missing. -/
def writeText : JsonText → String
  | some s => "\"" ++ String.join (s.toList.map escape) ++ "\""
  | none => "\"\\ud800\""

structure Style where
  /-- Stands before an item at a depth, and before the bracket that closes it. -/
  lineBreak : Nat → String
  colon : String

namespace Style

def compact : Style := ⟨fun _ => "", ":"⟩

/-- One item a line, two spaces for every level. -/
def indented : Style :=
  ⟨fun depth => "\n" ++ String.ofList (List.replicate (2 * depth) ' '), ": "⟩

end Style

mutual

def write (s : Style) (depth : Nat) : Json → String
  | null => "null"
  | bool b => if b then "true" else "false"
  | natural n => Numeral.decimal n
  | number spelling => spelling
  | string t => writeText t
  | array [] => "[]"
  | array (v :: vs) =>
      "[" ++ s.lineBreak (depth + 1) ++ write s (depth + 1) v ++ writeItems s (depth + 1) vs ++
        s.lineBreak depth ++ "]"
  | object [] => "\x7b\x7d"
  | object ((k, v) :: ms) =>
      "\x7b" ++ s.lineBreak (depth + 1) ++ writeText k ++ s.colon ++ write s (depth + 1) v ++
        writeMembers s (depth + 1) ms ++ s.lineBreak depth ++ "\x7d"

/-- The items after the first, each with a comma before it. -/
def writeItems (s : Style) (depth : Nat) : List Json → String
  | [] => ""
  | v :: vs => "," ++ s.lineBreak depth ++ write s depth v ++ writeItems s depth vs

def writeMembers (s : Style) (depth : Nat) : List (JsonText × Json) → String
  | [] => ""
  | (k, v) :: ms =>
      "," ++ s.lineBreak depth ++ writeText k ++ s.colon ++ write s depth v ++
        writeMembers s depth ms

end

/-- The form without white space. -/
def compact (j : Json) : String := j.write .compact 0

/-- The form with one item a line. -/
def indented (j : Json) : String := j.write .indented 0

end Json

end Am29000
