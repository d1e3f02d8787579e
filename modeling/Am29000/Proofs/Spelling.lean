import Am29000.Proofs.Tokens

/-!
How operands are spelled. Main statements: the token of an operand is written by one rule for each
kind, in digits without capital letters and without zeros in front, and two operands of one kind
with the same token are equal.
-/
namespace Am29000

namespace Numeral

variable {base n : Nat} {v w : UInt32} {s t : String}

/-- Digits that denote the number, without capital letters and without a zero in front of others. -/
structure Plain (base : Nat) (s : String) (n : Nat) : Prop where
  denotes : Denotes base s.toList n
  lower : ∀ c ∈ s.toList, ¬c.isUpper
  leading : s.toList.head? = some '0' → s = "0"

theorem plain_toDigits (hbase : 1 < base) (h : base ≤ 16) (n : Nat) :
    Plain base (String.ofList (Nat.toDigits base n)) n where
  denotes := by
    rw [String.toList_ofList]
    exact denotes_toDigits hbase h n
  lower c hc := by
    rw [String.toList_ofList] at hc
    exact not_isUpper_of_mem_toDigits hbase h hc
  leading := by
    rw [String.toList_ofList]
    intro hzero
    rcases Nat.eq_zero_or_pos n with rfl | hn
    · rw [Nat.toDigits_zero]
    · exact absurd hzero (head?_toDigits_ne_zero hbase h hn)

theorem plain_decimal (n : Nat) : Plain 10 (decimal n) n :=
  plain_toDigits (by omega) (by omega) n

theorem plain_hex (n : Nat) : Plain 16 (hex n) n := plain_toDigits (by omega) (by omega) n

theorem Plain.ne_empty (h : Plain base s n) : s ≠ "" := by
  rintro rfl
  exact h.denotes.ne_nil rfl

theorem decimal_injective : Function.Injective decimal := by
  intro m n h
  exact (denotes_decimal m).unique (h ▸ denotes_decimal n)

theorem hexMarked_injective : Function.Injective hexMarked := by
  intro m n h
  have hdigits : hex m = hex n := (String.append_right_inj _).1 h
  exact (denotes_hex m).unique (hdigits ▸ denotes_hex n)

/-- A word from the upper half stands for itself less `2 ^ 32`. -/
theorem toInt_toInt32 (v : UInt32) :
    v.toInt32.toInt = if isNegative v then (v.toNat : Int) - 2 ^ 32 else (v.toNat : Int) := by
  have := v.toNat_lt
  rw [toInt_toInt32_eq_bmod, Int.bmod_def]
  simp only [isNegative, decide_eq_true_eq]
  split <;> split <;> omega

theorem sign_eq (v : UInt32) : sign v = if v.toInt32.toInt < 0 then "-" else "" := by
  have := v.toNat_lt
  simp only [toInt_toInt32, sign, isNegative, decide_eq_true_eq]
  split
  next => rw [if_pos (by omega)]
  next => rw [if_neg (by omega)]

theorem magnitude_eq (v : UInt32) : magnitude v = v.toInt32.toInt.natAbs := by
  have := v.toNat_lt
  rw [toInt_toInt32, magnitude, UInt32.size]
  split
  next => omega
  next => omega

/-- A number is told by its sign and its distance from zero. -/
theorem eq_of_magnitude_eq (hsign : isNegative v = isNegative w) (h : magnitude v = magnitude w) :
    v = w := by
  have := v.toNat_lt_size
  have := w.toNat_lt_size
  rw [magnitude, magnitude, hsign] at h
  apply UInt32.toNat_inj.1
  split at h <;> omega

/-- Where no dash is part of the rest, the sign can be told from it. -/
theorem sign_append_inj (hs : '-' ∉ s.toList) (ht : '-' ∉ t.toList)
    (h : sign v ++ s = sign w ++ t) : isNegative v = isNegative w ∧ s = t := by
  have hdash (r : String) : '-' ∈ ("-" ++ r).toList := by simp
  cases hv : isNegative v <;> cases hw : isNegative w <;>
    simp only [sign, hv, hw, Bool.false_eq_true, ↓reduceIte, String.empty_append] at h
  · exact ⟨rfl, h⟩
  · exact absurd (h ▸ hdash t) hs
  · exact absurd (h ▸ hdash s) ht
  · exact ⟨rfl, (String.append_right_inj _).1 h⟩

theorem dash_notMem_hexMarked (n : Nat) : '-' ∉ (hexMarked n).toList := by
  have hhex : '-' ∉ (hex n).toList := (denotes_hex n).notMem rfl
  simpa [hexMarked] using hhex

theorem signedDecimal_injective : Function.Injective signedDecimal := by
  intro v w h
  obtain ⟨hsign, hdigits⟩ := sign_append_inj ((denotes_decimal _).notMem rfl)
    ((denotes_decimal _).notMem rfl) h
  exact eq_of_magnitude_eq hsign (decimal_injective hdigits)

theorem signedHex_injective : Function.Injective signedHex := by
  intro v w h
  obtain ⟨hsign, hdigits⟩ :=
    sign_append_inj (dash_notMem_hexMarked _) (dash_notMem_hexMarked _) h
  exact eq_of_magnitude_eq hsign (hexMarked_injective hdigits)

end Numeral

namespace Operand

variable {wide : Bool} {a : UInt32} {o p : Operand} {s : String}

/-- How an operand is written in an instruction at `address`: a register by its name, a displacement
by the address that it leads to, and an immediate as a signed number, in decimal if `wide`. -/
inductive Shown (wide : Prop) (address : UInt32) : Operand → String → Prop where
  | globalRegister {v : UInt32} {s : String} (hv : v.toNat < 128)
      (hs : Numeral.Plain 10 s v.toNat) : Shown wide address ⟨.register, v⟩ ("gr" ++ s)
  | localRegister {v : UInt32} {s : String} (hv : 128 ≤ v.toNat)
      (hs : Numeral.Plain 10 s (v.toNat - 127)) : Shown wide address ⟨.register, v⟩ ("lr" ++ s)
  | target {d : UInt32} {s : String}
      (hs : Numeral.Plain 16 s ((address.toNat + d.toNat) % 2 ^ 32)) :
      Shown wide address ⟨.displacement, d⟩ ("0x" ++ s)
  | hexadecimal {v : UInt32} {s : String} (hwide : ¬wide)
      (hs : Numeral.Plain 16 s v.toInt32.toInt.natAbs) :
      Shown wide address ⟨.immediate, v⟩
        ((if v.toInt32.toInt < 0 then "-" else "") ++ "0x" ++ s)
  | decimal {v : UInt32} {s : String} (hwide : wide)
      (hs : Numeral.Plain 10 s v.toInt32.toInt.natAbs) :
      Shown wide address ⟨.immediate, v⟩ ((if v.toInt32.toInt < 0 then "-" else "") ++ s)

theorem Shown.ne_empty {q : Prop} (h : Shown q a o s) : s ≠ "" := by
  cases h with
  | globalRegister | localRegister | target | hexadecimal => simp
  | decimal hwide hs => simp [hs.ne_empty]

theorem shown_registerName {q : Prop} (a v : UInt32) :
    Shown q a ⟨.register, v⟩ (registerName v) := by
  unfold registerName
  split
  next hv => exact .globalRegister hv (Numeral.plain_decimal _)
  next hv => exact .localRegister (Nat.le_of_not_lt hv) (Numeral.plain_decimal _)

/-- Every used operand is written by the rule for its kind. -/
theorem shown_token (h : o.kind ≠ .unused) (wide : Bool) (a : UInt32) :
    Shown (wide = true) a o (o.token wide a) := by
  obtain ⟨kind, v⟩ := o
  cases kind with
  | register => exact shown_registerName a v
  | immediate =>
    cases wide with
    | false =>
      rw [token, if_neg Bool.false_ne_true, Numeral.signedHex, Numeral.sign_eq,
        Numeral.magnitude_eq, Numeral.hexMarked, ← String.append_assoc]
      exact .hexadecimal Bool.false_ne_true (Numeral.plain_hex _)
    | true =>
      rw [token, if_pos rfl, Numeral.signedDecimal, Numeral.sign_eq, Numeral.magnitude_eq]
      exact .decimal rfl (Numeral.plain_decimal _)
  | displacement =>
    rw [token, Numeral.hexMarked, UInt32.toNat_add]
    exact .target (Numeral.plain_hex _)
  | unused => exact absurd rfl h

theorem registerName_injective : Function.Injective registerName := by
  intro v w h
  have hnames (s t : String) : "gr" ++ s ≠ "lr" ++ t := by
    intro h
    simpa using congrArg String.toList h
  apply UInt32.toNat_inj.1
  unfold registerName at h
  split at h <;> split at h
  · exact Numeral.decimal_injective ((String.append_right_inj _).1 h)
  · exact absurd h (hnames _ _)
  · exact absurd h.symm (hnames _ _)
  · have := Numeral.decimal_injective ((String.append_right_inj _).1 h)
    omega

/-- The letter `r` stands in the names of registers and in no number. -/
theorem r_mem_token_iff : 'r' ∈ (o.token wide a).toList ↔ o.kind = .register := by
  have hhex (n : Nat) : 'r' ∉ (Numeral.hex n).toList := (Numeral.denotes_hex n).notMem rfl
  have hdecimal (n : Nat) : 'r' ∉ (Numeral.decimal n).toList :=
    (Numeral.denotes_decimal n).notMem rfl
  have hsign (v : UInt32) : 'r' ∉ (Numeral.sign v).toList := by
    unfold Numeral.sign
    split <;> decide
  obtain ⟨kind, v⟩ := o
  cases kind with
  | register =>
    rw [token, registerName]
    split <;> simp
  | immediate =>
    cases wide <;>
      simp [token, Numeral.signedHex, Numeral.signedDecimal, Numeral.hexMarked, hhex, hdecimal,
        hsign]
  | displacement => simp [token, Numeral.hexMarked, hhex]
  | unused => simp [token]

/-- Of operands of one kind the token tells the value. -/
theorem eq_of_token_eq (hkind : o.kind = p.kind) (hused : o.kind ≠ .unused)
    (h : o.token wide a = p.token wide a) : o = p := by
  obtain ⟨kind, v⟩ := o
  obtain ⟨_, w⟩ := p
  obtain rfl := hkind
  rw [mk.injEq]
  refine ⟨rfl, ?_⟩
  cases kind with
  | register => exact registerName_injective h
  | immediate =>
    cases wide with
    | false => exact Numeral.signedHex_injective h
    | true => exact Numeral.signedDecimal_injective h
  | displacement =>
    exact (UInt32.add_right_inj a).1 (UInt32.toNat_inj.1 (Numeral.hexMarked_injective h))
  | unused => exact absurd rfl hused

/-- Equal tokens in a row of the same kinds come from equal operands. -/
theorem eq_of_map_token_eq {os ps : List Operand} (hkinds : os.map kind = ps.map kind)
    (hused : ∀ o ∈ os, o.kind ≠ .unused) (h : os.map (token wide a) = ps.map (token wide a)) :
    os = ps := by
  induction os generalizing ps with
  | nil =>
    cases ps with
    | nil => rfl
    | cons p ps => simp at h
  | cons o os ih =>
    cases ps with
    | nil => simp at h
    | cons p ps =>
      rw [List.map_cons, List.map_cons, List.cons.injEq] at h hkinds
      rw [List.forall_mem_cons] at hused
      rw [eq_of_token_eq hkinds.1 hused.1 h.1, ih hkinds.2 hused.2 h.2]

end Operand

end Am29000
