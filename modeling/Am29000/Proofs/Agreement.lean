import Am29000.Proofs.Formats
import Am29000.Proofs.Loading

/-!
The two commands side by side. Main statement: decoding words given as arguments, and listing a file
that holds their bytes, give the same line for every word.
-/
namespace Am29000

namespace Listing

end Listing

namespace Line

/-- Address, digits of the word, text, and the target if there is one. -/
def entry (l : Line) : String :=
  Address.write l.address.toNat ++ ": " ++ String.join (l.word.toList.map byteText) ++ "  " ++
    l.text ++
    match l.target? with
    | some t => "  ; -> " ++ Address.write t.toNat
    | none => ""

end Line

namespace Listing

end Listing

namespace Command

namespace WordsRequest

/-- What is asked for: words at an address, each of them in any hexadecimal spelling. -/
structure AsksFor (r : WordsRequest) (c : Config) (a : UInt32) (ws : List UInt32) : Prop where
  config : Config.ofRequest r.label r.strict = .ok c
  address : Address.Spells r.address a
  words : List.Forall₂ Address.SpellsWord r.words ws

namespace AsksFor

variable {r : WordsRequest} {c : Config} {a : UInt32} {ws : List UInt32}

theorem ofArguments_arguments (h : r.AsksFor c a ws) (hne : ws ≠ []) :
    ofArguments r.arguments = .ok r := by
  apply WordsRequest.ofArguments_arguments
  · exact isPlain_of_isAlphanum fun _ => h.address.spellsWord.isAlphanum_of_mem
  · intro t ht
    obtain ⟨v, hspells⟩ := exists_of_mem_of_forall₂ h.words ht
    exact isPlain_of_isAlphanum fun _ => hspells.isAlphanum_of_mem
  · intro hnil
    have hwords := h.words
    rw [hnil, List.forall₂_nil_left_iff] at hwords
    exact hne hwords

end AsksFor

end WordsRequest

namespace ImageRequest

/-- What is asked for: the listing of a range, on the screen, of a whole file that is loaded at the
start of the range. -/
structure AsksFor (r : ImageRequest) (q : RangeRequest) (c : Config) (a stop : UInt32) : Prop where
  window : r.window = ⟨a, 0, none⟩
  config : Config.ofRequest r.label r.strict = .ok c
  action : r.action = .range q
  start : Address.Spells q.start a
  stop : Address.Spells q.stop stop
  out : q.out = none

namespace AsksFor

variable {r : ImageRequest} {q : RangeRequest} {c : Config} {a stop : UInt32}

theorem ofArguments_arguments (h : r.AsksFor q c a stop) (hfile : isPlain r.file)
    (hname : r.file ∉ ["sections", "range", "help"]) : ofArguments r.arguments = .ok r := by
  apply ImageRequest.ofArguments_arguments
  constructor
  case skip => simp [h.window]
  case length => simp [h.window]
  case file => exact hfile
  case file_notMem => exact hname
  case bounds =>
    intro q' hq'
    obtain rfl := ImageAction.range.inj (h.action.symm.trans hq')
    exact ⟨isPlain_of_isAlphanum fun _ => h.start.spellsWord.isAlphanum_of_mem,
      isPlain_of_isAlphanum fun _ => h.stop.spellsWord.isAlphanum_of_mem⟩

end AsksFor

end ImageRequest

end Command

end Am29000
