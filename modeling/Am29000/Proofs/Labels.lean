import Am29000.Part.Label
import Mathlib.Tactic

/-!
Part labels. Main statements: a request for a decoder fails exactly when its label is shorter than
five characters, and any other label tells the part by the fourth byte behind at most one
abbreviation of the maker.
-/
namespace Am29000

namespace Part

/-- The abbreviations of the maker that a label may begin with. -/
def makers : List String := ["am", "AM", "Am"]

/-- The fourth byte of a text is the digit five. -/
def FourthIsFive (s : String) : Prop := s.toUTF8.data[3]? = some '5'.toUInt8

variable {m : String} {s : List Char}

theorem dropMaker_append (hm : m ∈ makers) (s : List Char) : dropMaker (m.toList ++ s) = s := by
  fin_cases hm <;> rfl

theorem dropMaker_eq_self (h : ∀ m ∈ makers, ¬m.toList <+: s) : dropMaker s = s := by
  unfold dropMaker
  split
  next rest => exact absurd ⟨rest, rfl⟩ (h "am" (by simp [makers]))
  next rest => exact absurd ⟨rest, rfl⟩ (h "AM" (by simp [makers]))
  next rest => exact absurd ⟨rest, rfl⟩ (h "Am" (by simp [makers]))
  next => rfl

theorem flatMap_utf8EncodeChar (s : String) :
    s.toList.flatMap String.utf8EncodeChar = s.toUTF8.data.toList := by
  rw [String.toUTF8_eq_toByteArray, ← String.utf8Encode_toList, List.utf8Encode,
    List.data_toByteArray]

theorem ofNumber_eq_am29050_iff (s : String) : ofNumber s.toList = am29050 ↔ FourthIsFive s := by
  rw [ofNumber, flatMap_utf8EncodeChar, Array.getElem?_toList]
  split
  next h => exact iff_of_true rfl h
  next h => exact iff_of_false (by decide) h

end Part

namespace Config

variable {label : Option String} {strict : Bool}

/-- A label that is missing, or has five characters at least. -/
def LongEnough (label : Option String) : Prop := ∀ l ∈ label, 5 ≤ l.length

theorem ofLabel_eq_error_iff {e : InputError} :
    ofLabel label = .error e ↔ ∃ l, label = some l ∧ l.length < 5 ∧ e = .malformedLabel l := by
  cases label with
  | none => simp [ofLabel]
  | some l =>
    rw [ofLabel, String.length_toList]
    split
    next h => simp [h, eq_comm]
    next h => simp [h]

theorem ofLabel_eq_ok_iff {l : String} {c : Config} :
    ofLabel (some l) = .ok c ↔
      5 ≤ l.length ∧ c = ⟨Part.ofNumber (Part.dropMaker l.toList), false⟩ := by
  rw [ofLabel, String.length_toList]
  split
  next h => simp [Nat.not_le.2 h]
  next h => simp [Nat.not_lt.1 h, eq_comm]

/-- No label asks for a strict decoder. -/
theorem strict_of_ofLabel {c : Config} (h : ofLabel label = .ok c) : c.strict = false := by
  cases label with
  | none =>
    obtain rfl := Except.ok.inj h
    rfl
  | some l =>
    obtain ⟨-, rfl⟩ := ofLabel_eq_ok_iff.1 h
    rfl

theorem exists_ofLabel_iff : (∃ c, ofLabel label = .ok c) ↔ LongEnough label := by
  cases label with
  | none => simp [ofLabel, LongEnough]
  | some l => simp [ofLabel_eq_ok_iff, LongEnough]

/-- Behind one abbreviation of the maker all that follows is the number of the part. -/
theorem ofLabel_maker_append_eq_ok_iff {m l : String} {c : Config} (hm : m ∈ Part.makers) :
    ofLabel (some (m ++ l)) = .ok c ↔
      5 ≤ (m ++ l).length ∧ c = ⟨Part.ofNumber l.toList, false⟩ := by
  rw [ofLabel_eq_ok_iff, String.toList_append, Part.dropMaker_append hm]

/-- Every label gets an answer. It is refused as it is if it has fewer than five characters, and
otherwise stands for a decoder that is not strict. A label without an abbreviation of the maker
tells the same part as with one, by its fourth byte; behind two of them the second counts as the
beginning of the number. -/
theorem ofLabel_told_by_fourth_byte (l : String) :
    (∀ e, ofLabel (some l) = .error e ↔ l.length < 5 ∧ e = .malformedLabel l) ∧
    ((∃ c, ofLabel (some l) = .ok c) ↔ 5 ≤ l.length) ∧
    (∀ c, ofLabel (some l) = .ok c → c.strict = false) ∧
    (5 ≤ l.length → (∀ m ∈ Part.makers, ¬m.toList <+: l.toList) →
      ∃ p, ofLabel (some l) = .ok ⟨p, false⟩ ∧
        (∀ m ∈ Part.makers, ofLabel (some (m ++ l)) = .ok ⟨p, false⟩) ∧
        (p = .am29050 ↔ Part.FourthIsFive l)) ∧
    ∀ m ∈ Part.makers, ∀ m' ∈ Part.makers, ∀ c, ofLabel (some (m ++ (m' ++ l))) = .ok c →
      (c.part = .am29050 ↔ Part.FourthIsFive (m' ++ l)) := by
  refine ⟨fun e => ?_, ?_, fun c => strict_of_ofLabel, fun hlength hbare => ?_,
    fun m hm m' hm' c hc => ?_⟩
  · rw [ofLabel_eq_error_iff]
    simp
  · rw [exists_ofLabel_iff]
    simp [LongEnough]
  · refine ⟨Part.ofNumber l.toList, ?_, fun m hm => ?_, Part.ofNumber_eq_am29050_iff l⟩
    · rw [ofLabel_eq_ok_iff, Part.dropMaker_eq_self hbare]
      exact ⟨hlength, rfl⟩
    · rw [ofLabel_maker_append_eq_ok_iff hm, String.length_append]
      exact ⟨by omega, rfl⟩
  · obtain ⟨-, rfl⟩ := (ofLabel_maker_append_eq_ok_iff hm).1 hc
    exact Part.ofNumber_eq_am29050_iff (m' ++ l)

/-- The fourth byte need not begin the fourth character. -/
example : ofLabel (some "2é500") = .ok ⟨.am29050, false⟩ := by decide

end Config

end Am29000
