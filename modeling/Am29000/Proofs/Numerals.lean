import Am29000.Text.Address
import Mathlib.Data.Nat.Digits.Defs
import Mathlib.Tactic

/-!
Numerals as lists of digits. Main statements: reading accepts exactly the digits of a number below
the limit, after an optional plus sign, the digits of any other number are refused as too large, and
what is written denotes the number written.
-/
namespace Am29000

/-- What stands on the left of related lists is related to something. -/
theorem exists_of_mem_of_forall₂ {α β : Type} {R : α → β → Prop} {xs : List α} {ys : List β}
    (h : List.Forall₂ R xs ys) {x : α} (hx : x ∈ xs) : ∃ y, R x y := by
  induction h with
  | nil => cases hx
  | @cons _ y _ _ hxy _ ih =>
    rcases List.mem_cons.1 hx with rfl | hx
    · exact ⟨y, hxy⟩
    · exact ih hx

/-- Where every member is related to its image, a list is related to its images in order. -/
theorem forall₂_map {α β : Type} {R : α → β → Prop} {f : α → β} {xs : List α}
    (h : ∀ x ∈ xs, R x (f x)) : List.Forall₂ R xs (xs.map f) := by
  rw [List.forall₂_map_right_iff, List.forall₂_same]
  exact h

namespace Numeral

variable {base limit n d : Nat} {c : Char} {s : List Char}

theorem digitValue?_digitChar (hd : d < 16) : digitValue? d.digitChar = some d := by
  interval_cases d <;> rfl

theorem digit?_digitChar (hd : d < base) (hbase : base ≤ 16) :
    digit? base d.digitChar = some d := by
  rw [digit?, digitValue?_digitChar (by omega), Option.filter_some, decide_eq_true hd, if_pos rfl]

theorem isAlphanum_iff : c.isAlphanum ↔
    (65 ≤ c.toNat ∧ c.toNat ≤ 90 ∨ 97 ≤ c.toNat ∧ c.toNat ≤ 122) ∨
      48 ≤ c.toNat ∧ c.toNat ≤ 57 := by
  delta Char.isAlphanum Char.isAlpha Char.isUpper Char.isLower Char.isDigit
  simp only [Bool.or_eq_true, Bool.and_eq_true, decide_eq_true_eq, ge_iff_le,
    UInt32.le_iff_toNat_le]
  exact Iff.rfl

/-- The digits of every base are letters and digits of the usual alphabet. -/
theorem isAlphanum_of_digit? (h : digit? base c = some d) : c.isAlphanum := by
  have hvalue := (Option.filter_eq_some_iff.1 h).1
  simp only [digitValue?, Char.le_def, UInt32.le_iff_toNat_le] at hvalue
  rw [isAlphanum_iff]
  split at hvalue
  next hdigit => exact .inr hdigit
  next =>
    split at hvalue
    next hlower => exact .inl (.inr hlower)
    next =>
      split at hvalue
      next hupper => exact .inl (.inl hupper)
      next => simp at hvalue

/-- A text that consists of digits, at least one, and the number that they denote, the first digit
being the most significant. -/
structure Denotes (base : Nat) (s : List Char) (n : Nat) : Prop where
  ne_nil : s ≠ []
  digits : ∃ ds, List.Forall₂ (fun c d => digit? base c = some d) s ds ∧
    Nat.ofDigits base ds.reverse = n

namespace Denotes

theorem digit?_of_mem (h : Denotes base s n) (hc : c ∈ s) : ∃ d, digit? base c = some d := by
  obtain ⟨ds, hds, -⟩ := h.digits
  exact exists_of_mem_of_forall₂ hds hc

theorem notMem (h : Denotes base s n) (hc : digit? base c = none) : c ∉ s := by
  intro hmem
  obtain ⟨d, hd⟩ := h.digit?_of_mem hmem
  simp [hc] at hd

theorem isAlphanum_of_mem (h : Denotes base s n) (hc : c ∈ s) : c.isAlphanum := by
  obtain ⟨d, hd⟩ := h.digit?_of_mem hc
  exact isAlphanum_of_digit? hd

theorem singleton (h : digit? base c = some d) : Denotes base [c] d :=
  ⟨by simp, [d], .cons h .nil, by simp⟩

theorem concat (h : Denotes base s n) (hc : digit? base c = some d) :
    Denotes base (s ++ [c]) (base * n + d) := by
  obtain ⟨ds, hds, rfl⟩ := h.digits
  refine ⟨by simp, ds ++ [d], List.rel_append hds (.cons hc .nil), ?_⟩
  rw [List.reverse_append, List.reverse_singleton, List.singleton_append, Nat.ofDigits_cons,
    Nat.add_comm]

/-- Zeros in front do not count. -/
theorem zeros (h : Denotes base s n) (hbase : 0 < base) (k : Nat) :
    Denotes base (List.replicate k '0' ++ s) n := by
  obtain ⟨ds, hds, rfl⟩ := h.digits
  have hzero : digit? base '0' = some 0 := by
    rw [digit?, show digitValue? '0' = some 0 from rfl, Option.filter_some, decide_eq_true hbase,
      if_pos rfl]
  refine ⟨by simp [h.ne_nil], List.replicate k 0 ++ ds, List.rel_append ?_ hds, ?_⟩
  · induction k with
    | zero => exact .nil
    | succ k ih => exact .cons hzero ih
  · rw [List.reverse_append, List.reverse_replicate, Nat.ofDigits_append_replicate_zero]

/-- Digits denote one number. -/
theorem unique {m : Nat} (h : Denotes base s n) (h' : Denotes base s m) : n = m := by
  obtain ⟨ds, hds, rfl⟩ := h.digits
  obtain ⟨ds', hds', rfl⟩ := h'.digits
  have hmap {ds : List Nat} (hds : List.Forall₂ (fun c d => digit? base c = some d) s ds) :
      s.map (digit? base) = ds.map some := by
    rwa [← List.forall₂_eq_eq_eq, List.forall₂_map_left_iff, List.forall₂_map_right_iff]
  rw [List.map_injective_iff.2 (Option.some_injective Nat) ((hmap hds).symm.trans (hmap hds'))]

end Denotes

/-- The digits written for a number denote it. -/
theorem denotes_toDigits (hbase : 1 < base) (h : base ≤ 16) (n : Nat) :
    Denotes base (Nat.toDigits base n) n := by
  induction n using Nat.strong_induction_on with
  | _ n ih =>
    rw [Nat.toDigits_eq_if hbase]
    split
    next hn => exact .singleton (digit?_digitChar hn h)
    next hn =>
      have hlast := digit?_digitChar (Nat.mod_lt n (by omega)) h
      have := (ih (n / base) (Nat.div_lt_self (by omega) hbase)).concat hlast
      rwa [Nat.div_add_mod] at this

theorem head?_toDigits_ne_zero (hbase : 1 < base) (h : base ≤ 16) (hn : 0 < n) :
    (Nat.toDigits base n).head? ≠ some '0' := by
  induction n using Nat.strong_induction_on with
  | _ n ih =>
    rw [Nat.toDigits_eq_if hbase]
    split
    next hlt =>
      have : n < 16 := by omega
      interval_cases n <;> decide
    next hge =>
      rw [List.head?_append_of_ne_nil _ Nat.toDigits_ne_nil]
      exact ih (n / base) (Nat.div_lt_self hn hbase) (Nat.div_pos (by omega) (by omega))

theorem exists_digitChar_of_mem_toDigits (hbase : 1 < base) (hc : c ∈ Nat.toDigits base n) :
    ∃ d < base, c = d.digitChar := by
  induction n using Nat.strong_induction_on with
  | _ n ih =>
    rw [Nat.toDigits_eq_if hbase] at hc
    split at hc
    next hlt => exact ⟨n, hlt, List.mem_singleton.1 hc⟩
    next hge =>
      rcases List.mem_append.1 hc with hc | hc
      · exact ih (n / base) (Nat.div_lt_self (by omega) hbase) hc
      · exact ⟨n % base, Nat.mod_lt n (by omega), List.mem_singleton.1 hc⟩

/-- No capital letters are written. -/
theorem not_isUpper_of_mem_toDigits (hbase : 1 < base) (h : base ≤ 16)
    (hc : c ∈ Nat.toDigits base n) : ¬c.isUpper := by
  obtain ⟨d, hd, rfl⟩ := exists_digitChar_of_mem_toDigits hbase hc
  have : d < 16 := by omega
  interval_cases d <;> decide

theorem denotes_decimal (n : Nat) : Denotes 10 (decimal n).toList n := by
  rw [decimal, String.toList_ofList]
  exact denotes_toDigits (by omega) (by omega) n

theorem denotes_hex (n : Nat) : Denotes 16 (hex n).toList n := by
  rw [hex, String.toList_ofList]
  exact denotes_toDigits (by omega) (by omega) n

theorem denotes_hexWide (width n : Nat) : Denotes 16 (hexWide width n).toList n := by
  rw [hexWide, String.toList_ofList]
  exact (denotes_toDigits (by omega) (by omega) n).zeros (by omega) _

/-- Digits are read one by one behind a value already read, and the result must stay below the
limit. -/
theorem readDigits_eq_ok_iff {value : Nat} (hbase : 0 < base) (hvalue : value < limit) :
    readDigits base limit value s = .ok n ↔
      n < limit ∧ ∃ ds, List.Forall₂ (fun c d => digit? base c = some d) s ds ∧
        n = value * base ^ ds.length + Nat.ofDigits base ds.reverse := by
  induction s generalizing value with
  | nil =>
    constructor
    · intro h
      obtain rfl : value = n := by simpa [readDigits] using h
      exact ⟨hvalue, [], .nil, by simp⟩
    · rintro ⟨-, ds, hds, rfl⟩
      cases hds
      simp [readDigits]
  | cons c s ih =>
    -- the value after one more digit, and what the digits behind it make of both
    have hshift (d : Nat) (ds : List Nat) :
        value * base ^ (d :: ds).length + Nat.ofDigits base (d :: ds).reverse =
          (base * value + d) * base ^ ds.length + Nat.ofDigits base ds.reverse := by
      rw [List.reverse_cons, Nat.ofDigits_append, List.length_reverse, Nat.ofDigits_singleton,
        List.length_cons, pow_succ]
      ring
    unfold readDigits
    cases hc : digit? base c with
    | none =>
      simp only [reduceCtorEq, false_iff]
      rintro ⟨-, ds, hds, -⟩
      cases hds with
      | cons hd => simp [hc] at hd
    | some d =>
      dsimp only
      split
      next hlt =>
        rw [ih hlt]
        constructor
        · rintro ⟨hn, ds, hds, rfl⟩
          exact ⟨hn, d :: ds, .cons hc hds, (hshift d ds).symm⟩
        · rintro ⟨hn, ds, hds, rfl⟩
          cases hds with
          | cons hd hds =>
            obtain rfl := Option.some.inj (hc.symm.trans hd)
            exact ⟨hn, _, hds, hshift _ _⟩
      next hlt =>
        simp only [reduceCtorEq, false_iff]
        rintro ⟨hn, ds, hds, rfl⟩
        cases hds with
        | @cons _ e _ es hd hds =>
          obtain rfl := Option.some.inj (hc.symm.trans hd)
          have hpos := Nat.pow_pos (n := es.length) hbase
          have hle := Nat.le_mul_of_pos_right (base * value + d) hpos
          rw [hshift] at hn
          omega

theorem readDigits_zero_eq_ok_iff (hbase : 0 < base) (hlimit : 0 < limit) (hs : s ≠ []) :
    readDigits base limit 0 s = .ok n ↔ n < limit ∧ Denotes base s n := by
  rw [readDigits_eq_ok_iff hbase hlimit]
  constructor
  · rintro ⟨hn, ds, hds, hvalue⟩
    rw [Nat.zero_mul, Nat.zero_add] at hvalue
    exact ⟨hn, hs, ds, hds, hvalue.symm⟩
  · rintro ⟨hn, -, ds, hds, rfl⟩
    exact ⟨hn, ds, hds, by rw [Nat.zero_mul, Nat.zero_add]⟩

/-- A numeral is digits of a number below the limit, with or without a plus sign before them. -/
theorem read_eq_ok_iff (hbase : 0 < base) (hlimit : 0 < limit) :
    read base limit s = .ok n ↔
      n < limit ∧ ∃ digits, (s = digits ∨ s = '+' :: digits) ∧ Denotes base digits n := by
  have hsign : digit? base '+' = none := rfl
  have hnoSign {digits : List Char} : ¬Denotes base ('+' :: digits) n :=
    fun h => h.notMem hsign List.mem_cons_self
  unfold read
  split
  next =>
    simp only [reduceCtorEq, false_iff]
    rintro ⟨-, digits, rfl | h, hdigits⟩
    · exact hdigits.ne_nil rfl
    · simp at h
  next c rest =>
    split
    next hc =>
      subst hc
      cases rest with
      | nil =>
        simp only [List.isEmpty_nil, ↓reduceIte, reduceCtorEq, false_iff]
        rintro ⟨-, digits, rfl | h, hdigits⟩
        · exact hnoSign hdigits
        · obtain rfl : [] = digits := by simpa using h
          exact hdigits.ne_nil rfl
      | cons d rest =>
        rw [List.isEmpty_cons, if_neg Bool.false_ne_true,
          readDigits_zero_eq_ok_iff hbase hlimit (by simp)]
        constructor
        · rintro ⟨hn, hdigits⟩
          exact ⟨hn, _, .inr rfl, hdigits⟩
        · rintro ⟨hn, digits, rfl | h, hdigits⟩
          · exact absurd hdigits hnoSign
          · obtain rfl : d :: rest = digits := by simpa using h
            exact ⟨hn, hdigits⟩
    next hc =>
      rw [readDigits_zero_eq_ok_iff hbase hlimit (by simp)]
      constructor
      · rintro ⟨hn, hdigits⟩
        exact ⟨hn, _, .inl rfl, hdigits⟩
      · rintro ⟨hn, digits, rfl | h, hdigits⟩
        · exact ⟨hn, hdigits⟩
        · exact absurd (List.cons.inj h).1 hc

/-- The digits of a number are read back, whatever their case and however many zeros lead them. -/
theorem read_of_denotes (hbase : 0 < base) (hn : n < limit) (h : Denotes base s n) :
    read base limit s = .ok n :=
  (read_eq_ok_iff hbase (by omega)).2 ⟨hn, s, .inl rfl, h⟩

/-- Digits that are not read denote too large a number. -/
theorem readDigits_eq_tooLarge {value : Nat} {ds : List Nat}
    (hds : List.Forall₂ (fun c d => digit? base c = some d) s ds)
    (h : ∀ n, readDigits base limit value s ≠ .ok n) :
    readDigits base limit value s = .error .tooLarge := by
  induction hds generalizing value with
  | nil => exact absurd rfl (h value)
  | cons hc _ ih =>
    simp only [readDigits, hc] at h ⊢
    split
    next hlt =>
      simp only [hlt, ↓reduceIte] at h
      exact ih h
    next => rfl

theorem read_of_le (hbase : 0 < base) (hlimit : 0 < limit) (hn : limit ≤ n)
    (h : Denotes base s n) : read base limit s = .error .tooLarge := by
  have hread : read base limit s = readDigits base limit 0 s := by
    cases s with
    | nil => exact absurd rfl h.ne_nil
    | cons c s =>
      rw [read, if_neg]
      rintro rfl
      exact absurd (h.isAlphanum_of_mem List.mem_cons_self) (by decide)
  obtain ⟨ds, hds, -⟩ := h.digits
  rw [hread]
  apply readDigits_eq_tooLarge hds
  intro m hm
  obtain ⟨hlt, hdenotes⟩ := (readDigits_zero_eq_ok_iff hbase hlimit h.ne_nil).1 hm
  obtain rfl := h.unique hdenotes
  omega

end Numeral

end Am29000
