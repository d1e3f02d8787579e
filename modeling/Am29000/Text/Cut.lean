/-!
Cutting a text to a limit in bytes of UTF-8, always between two characters. The search for the place
starts at the limit and goes back byte by byte.
-/
namespace Am29000.Cut

/-- Whether an offset in bytes lies between two characters: at the end of the text, or before a byte
that begins a character. -/
def isBoundary (s : String) (n : Nat) : Bool := String.Pos.Raw.isValid s ⟨n⟩

/-- The first boundary on the way back from an offset. From zero there is no way further back. -/
def stepBack? (s : String) : Nat → Option Nat
  | 0 => if isBoundary s 0 then some 0 else none
  | n + 1 => if isBoundary s (n + 1) then some (n + 1) else stepBack? s n

/-- The first `n` bytes, provided that they are a text. -/
def truncate? (s : String) (n : Nat) : Option String :=
  String.fromUTF8? (s.toByteArray.extract 0 n)

/-- A text within the limit stays as it is. -/
def cut? (limit : Nat) (s : String) : Option String :=
  if s.utf8ByteSize ≤ limit then some s else (stepBack? s limit).bind (truncate? s)

variable {s : String} {n k : Nat}

theorem isBoundary_iff : isBoundary s n ↔ String.Pos.Raw.IsValid s ⟨n⟩ :=
  String.Pos.Raw.isValid_eq_true_iff

theorem isBoundary_zero (s : String) : isBoundary s 0 := isBoundary_iff.2 String.Pos.Raw.isValid_zero

theorem isBoundary_of_stepBack? (h : stepBack? s n = some k) : isBoundary s k := by
  induction n with
  | zero =>
    unfold stepBack? at h
    split at h
    next hb => exact Option.some.inj h ▸ hb
    next => simp at h
  | succ n ih =>
    unfold stepBack? at h
    split at h
    next hb => exact Option.some.inj h ▸ hb
    next => exact ih h

/-- The search ends, at zero if not before. -/
theorem exists_stepBack? (s : String) (n : Nat) : ∃ k, stepBack? s n = some k := by
  induction n with
  | zero => exact ⟨0, by rw [stepBack?, if_pos (isBoundary_zero s)]⟩
  | succ n ih =>
    unfold stepBack?
    split
    next => exact ⟨n + 1, rfl⟩
    next => exact ih

/-- The bytes before a boundary are a text. -/
theorem exists_truncate? (h : isBoundary s n) :
    ∃ t, truncate? s n = some t ∧ t.toByteArray = s.toByteArray.extract 0 n := by
  have hvalid := (String.Pos.Raw.isValid_iff_isValidUTF8_extract_zero.1 (isBoundary_iff.1 h)).2
  exact ⟨String.fromUTF8 _ hvalid, dif_pos hvalid, rfl⟩

theorem isSome_cut? (limit : Nat) (s : String) : (cut? limit s).isSome := by
  unfold cut?
  split
  next => rfl
  next =>
    obtain ⟨k, hk⟩ := exists_stepBack? s limit
    obtain ⟨t, ht, -⟩ := exists_truncate? (isBoundary_of_stepBack? hk)
    rw [hk, Option.bind_some, ht]
    rfl

/-- The longest run of leading characters whose encoding has at most `limit` bytes. -/
def cut (limit : Nat) (s : String) : String := (cut? limit s).get (isSome_cut? limit s)

end Am29000.Cut
