import Am29000.Proofs.Numerals
import Am29000.Text.Blank
import Mathlib.Data.List.DropRight

/-!
Texts without the white space around them. Main statement: trimming removes the white space at both
ends and nothing else.
-/
namespace Am29000.Blank

variable {s body : List Char}

theorem isBlank_of_isAlphanum {c : Char} (h : c.isAlphanum) : isBlank c = false := by
  have hrange := Numeral.isAlphanum_iff.1 h
  simp only [isBlank, ranges, List.any_cons, List.any_nil, Bool.or_false, Bool.or_eq_false_iff,
    Bool.and_eq_false_iff, decide_eq_false_iff_not]
  omega

/-- A text between white space, itself without any at its ends. -/
structure Trims (s body : List Char) : Prop where
  split : ∃ front back, s = front ++ body ++ back ∧ (∀ c ∈ front, isBlank c) ∧
    ∀ c ∈ back, isBlank c
  head : ∀ c ∈ body.head?, isBlank c = false
  last : ∀ c ∈ body.getLast?, isBlank c = false

theorem trimEnd_eq_rdropWhile (s : List Char) : trimEnd s = s.rdropWhile isBlank := rfl

theorem dropWhile_eq_self_of_head? (h : ∀ c ∈ body.head?, isBlank c = false) :
    body.dropWhile isBlank = body := by
  cases body with
  | nil => rfl
  | cons c rest => rw [List.dropWhile_cons_of_neg (by simp [h c rfl])]

theorem isBlank_of_mem_head?_dropWhile {c : Char} (h : c ∈ (s.dropWhile isBlank).head?) :
    isBlank c = false := by
  have hstop := List.head?_dropWhile_not isBlank s
  rwa [h] at hstop

theorem Trims.trim_eq (h : Trims s body) : trim s = body := by
  obtain ⟨front, back, rfl, hfront, hback⟩ := h.split
  have hstart : trimStart (front ++ body ++ back) = (body ++ back).dropWhile isBlank := by
    rw [trimStart, List.append_assoc, List.dropWhile_append_of_pos hfront]
  have hend : trimEnd (body ++ back) = body := by
    rw [trimEnd, List.reverse_append, List.dropWhile_append_of_pos (by simpa using hback),
      dropWhile_eq_self_of_head? (by simpa using h.last), List.reverse_reverse]
  rw [trim, hstart]
  cases body with
  | nil =>
    rw [List.nil_append, List.dropWhile_eq_nil_iff.2 hback]
    rfl
  | cons c rest =>
    rw [List.cons_append, List.dropWhile_cons_of_neg (by simp [h.head c rfl])]
    exact hend

theorem trims_trim (s : List Char) : Trims s (trim s) := by
  have hend : trim s ++ (trimStart s).rtakeWhile isBlank = trimStart s := by
    rw [trim, trimEnd_eq_rdropWhile, List.rdropWhile_append_rtakeWhile]
  constructor
  · refine ⟨s.takeWhile isBlank, (trimStart s).rtakeWhile isBlank, ?_, ?_, ?_⟩
    · rw [List.append_assoc, hend, trimStart, List.takeWhile_append_dropWhile]
    · exact fun c hc => List.mem_takeWhile_imp hc
    · exact fun c hc => List.mem_rtakeWhile_imp hc
  · intro c hc
    apply isBlank_of_mem_head?_dropWhile (s := s)
    rw [← trimStart, ← hend, List.head?_append, Option.mem_def.1 hc]
    rfl
  · intro c hc
    rw [trim, trimEnd, List.getLast?_reverse] at hc
    exact isBlank_of_mem_head?_dropWhile hc

/-- White space is removed at both ends and nowhere else. -/
theorem trims_iff : Trims s body ↔ trim s = body := by
  constructor
  · exact Trims.trim_eq
  · rintro rfl
    exact trims_trim s

/-- A text without white space is left as it is. -/
theorem trim_eq_self (h : ∀ c ∈ s, isBlank c = false) : trim s = s := by
  apply Trims.trim_eq
  constructor
  · exact ⟨[], [], by simp, by simp, by simp⟩
  · exact fun c hc => h c (List.mem_of_head? hc)
  · exact fun c hc => h c (List.mem_of_getLast? hc)

/-- A text keeps its first character unless that is white space. -/
theorem exists_trim_eq_cons {c : Char} (hc : isBlank c = false) (s : List Char) :
    ∃ t, trim (c :: s) = c :: t := by
  rw [trim, trimStart, List.dropWhile_cons_of_neg (by simp [hc]), trimEnd, List.reverse_cons,
    List.dropWhile_append]
  split
  next => exact ⟨[], by rw [List.dropWhile_cons_of_neg (by simp [hc])]; rfl⟩
  next => exact ⟨_, by rw [List.reverse_append]; rfl⟩

end Am29000.Blank
