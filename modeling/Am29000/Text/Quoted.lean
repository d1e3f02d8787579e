import Am29000.Text.Numeral
import Am29000.Text.Printable

/-!
Quotations: a text between double quotes, with escapes for the quote, the backslash, and every
character that would not show on its own.
-/
namespace Am29000.Quoted

/-- The short escapes come first; any other character that does not show as itself is written by
its code point in braces. -/
def escape (c : Char) : String :=
  if c = '\x00' then "\\0"
  else if c = '\t' then "\\t"
  else if c = '\n' then "\\n"
  else if c = '\r' then "\\r"
  else if c = '\"' then "\\\""
  else if c = '\\' then "\\\\"
  else if Printable.isPrintable c then c.toString
  else "\\u\x7b" ++ Numeral.hex c.toNat ++ "\x7d"

def quote (s : String) : String := "\"" ++ String.join (s.toList.map escape) ++ "\""

end Am29000.Quoted
