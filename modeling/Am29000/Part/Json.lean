import Am29000.Part.Flags
import Am29000.Json.Library

/-! The JSON forms of parts, sets of parts and configurations. -/
namespace Am29000

def Part.ofJson? : Json → Option Part := Json.Library.standard.name? Part.ofName?

namespace PartSet

def toJson (s : PartSet) : Json := .ofString s.write

def ofJson? (j : Json) : Option PartSet := j.string?.bind read?

end PartSet

def Config.ofJson? (j : Json) : Option Config :=
  (Json.Library.standard.fields? ("variant", Part.ofJson?) ("strict_family", Json.bool?) j).map
    fun p => ⟨p.1, p.2⟩

end Am29000
