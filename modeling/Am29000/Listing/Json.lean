import Am29000.Listing
import Am29000.Instruction.Json
import Am29000.Json.Printer

/-! Listings as JSON: an array with one record a line. -/
namespace Am29000

def Word.toJson (w : Word) : Json := .array (w.toList.map fun b => .ofNat b.toNat)

def Line.toJson (l : Line) : Json :=
  .record [("addr", .ofNat l.address.toNat), ("bytes", l.word.toJson), ("text", .ofString l.text),
    ("class", .ofOption OpClass.toJson l.opClass?),
    ("target", .ofOption (fun t => .ofNat t.toNat) l.target?), ("is_ret", .bool l.isReturn)]

namespace Listing

def toJson (ls : List Line) : Json := .array (ls.map Line.toJson)

/-- The indented form, without a line feed at its end. -/
def writeJson (ls : List Line) : String := (toJson ls).indented

end Listing

end Am29000
