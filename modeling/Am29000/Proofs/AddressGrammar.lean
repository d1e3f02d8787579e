import Am29000.Proofs.Addresses

/-!
The grammar of addresses. Main statement: a text is read as an address exactly if what stands
between white space is a number below `2 ^ 32`, in hexadecimal behind a marker or in decimal, and
every form in which an address is printed reads back.
-/
namespace Am29000

namespace Numeral

variable {base limit n d : Nat} {c : Char} {s : List Char}

/-- A character that stands for a digit of the base. A letter may be small or capital. -/
def StandsFor (base : Nat) (c : Char) (d : Nat) : Prop :=
  d < base ∧ (c = d.digitChar ∨ c = d.digitChar.toUpper)

/-- A number in digits of the base, one at least, the most significant first. -/
def Positional (base : Nat) (s : List Char) (n : Nat) : Prop :=
  s ≠ [] ∧ ∃ ds, List.Forall₂ (StandsFor base) s ds ∧ Nat.ofDigits base ds.reverse = n

/-- Digits with or without one plus sign before them. -/
def Signed (base : Nat) (s : List Char) (n : Nat) : Prop :=
  ∃ digits, (s = digits ∨ s = '+' :: digits) ∧ Positional base digits n

theorem digitValue?_toUpper_digitChar (hd : d < 16) :
    digitValue? d.digitChar.toUpper = some d := by
  interval_cases d <;> rfl

theorem eq_digitChar_of_digitValue? (h : digitValue? c = some d) (hd : d < 16) :
    c = d.digitChar ∨ c = d.digitChar.toUpper := by
  have hle (a b : Char) : a ≤ b ↔ a.toNat ≤ b.toNat := UInt32.le_iff_toNat_le
  simp only [digitValue?, hle, Char.reduceToNat] at h
  split at h
  next hdigit =>
    have hc : c.toNat = 48 + d := by
      have := Option.some.inj h
      omega
    have hten : d < 10 := by omega
    exact .inl (Char.toNat_inj.1 (hc.trans (Nat.toNat_digitChar_of_lt_ten hten).symm))
  next =>
    split at h
    next hlower =>
      have hvalue := Option.some.inj h
      have hc : c.toNat = 87 + d := by omega
      have hten : 10 ≤ d := by omega
      refine .inl (Char.toNat_inj.1 (hc.trans ?_))
      interval_cases d <;> rfl
    next =>
      split at h
      next hupper =>
        have hvalue := Option.some.inj h
        have hc : c.toNat = 55 + d := by omega
        have hten : 10 ≤ d := by omega
        refine .inr (Char.toNat_inj.1 (hc.trans ?_))
        interval_cases d <;> rfl
      next => simp at h

theorem digit?_eq_some_iff (hbase : base ≤ 16) : digit? base c = some d ↔ StandsFor base c d := by
  rw [digit?, Option.filter_eq_some_iff, decide_eq_true_iff, StandsFor, and_comm]
  apply and_congr_right
  intro hd
  constructor
  · intro h
    exact eq_digitChar_of_digitValue? h (by omega)
  · rintro (rfl | rfl)
    · exact digitValue?_digitChar (by omega)
    · exact digitValue?_toUpper_digitChar (by omega)

/-- The digits that are read are the characters that stand for one. -/
theorem denotes_iff (hbase : base ≤ 16) : Denotes base s n ↔ Positional base s n := by
  have hdigit : (fun c d => digit? base c = some d) = StandsFor base := by
    funext c d
    exact propext (digit?_eq_some_iff hbase)
  constructor
  · rintro ⟨hs, ds, hds, hn⟩
    exact ⟨hs, ds, hdigit ▸ hds, hn⟩
  · rintro ⟨hs, ds, hds, hn⟩
    exact ⟨hs, ds, hdigit ▸ hds, hn⟩

theorem StandsFor.toUpper (hbase : base ≤ 16) (h : StandsFor base c d) :
    StandsFor base c.toUpper d := by
  obtain ⟨hd, hc⟩ := h
  have hd16 : d < 16 := by omega
  have hupper : d.digitChar.toUpper.toUpper = d.digitChar.toUpper := by
    interval_cases d <;> rfl
  refine ⟨hd, .inr ?_⟩
  rcases hc with rfl | rfl
  · rfl
  · exact hupper

theorem Positional.map_toUpper (hbase : base ≤ 16) (h : Positional base s n) :
    Positional base (s.map Char.toUpper) n := by
  obtain ⟨hs, ds, hds, hn⟩ := h
  refine ⟨by simpa using hs, ds, ?_, hn⟩
  rw [List.forall₂_map_left_iff]
  exact hds.imp fun _ _ hc => hc.toUpper hbase

theorem read_eq_ok_iff_signed (hbase : 0 < base) (h : base ≤ 16) (hlimit : 0 < limit) :
    read base limit s = .ok n ↔ n < limit ∧ Signed base s n := by
  simp only [read_eq_ok_iff hbase hlimit, denotes_iff h, Signed]

end Numeral

namespace Address

variable {s : String} {v : UInt32} {body digits : List Char} {n : Nat}

/-- The numbers that a text without white space around it may be read as. -/
inductive Form : List Char → Nat → Prop where
  | marked {digits : List Char} {n : Nat} (h : Numeral.Signed 16 digits n) :
      Form ('0' :: 'x' :: digits) n
  | capitalMarked {digits : List Char} {n : Nat} (h : Numeral.Signed 16 digits n) :
      Form ('0' :: 'X' :: digits) n
  | decimal {digits : List Char} {n : Nat} (h : Numeral.Signed 10 digits n) : Form digits n

theorem not_signed_ten {x : Char} (hx : Numeral.digit? 10 x = none) :
    ¬Numeral.Signed 10 ('0' :: x :: digits) n := by
  rintro ⟨_, rfl | h, hdigits⟩
  · have hdenotes := (Numeral.denotes_iff (by omega)).2 hdigits
    exact hdenotes.notMem hx (List.mem_cons_of_mem _ List.mem_cons_self)
  · simp at h

/-- Behind a marker stands a hexadecimal number, since no decimal one begins in that way. -/
theorem form_marked_iff {x : Char} (hx : x = 'x' ∨ x = 'X') :
    Form ('0' :: x :: digits) n ↔ Numeral.Signed 16 digits n := by
  constructor
  · intro h
    generalize hbody : '0' :: x :: digits = body at h
    cases h with
    | marked h =>
      obtain ⟨-, rfl⟩ := List.cons.inj (List.cons.inj hbody).2
      exact h
    | capitalMarked h =>
      obtain ⟨-, rfl⟩ := List.cons.inj (List.cons.inj hbody).2
      exact h
    | decimal h =>
      have hnone : Numeral.digit? 10 x = none := by rcases hx with rfl | rfl <;> rfl
      exact absurd (hbody ▸ h) (not_signed_ten hnone)
  · intro h
    rcases hx with rfl | rfl
    · exact .marked h
    · exact .capitalMarked h

theorem map_ofNat_read_eq_ok_iff_signed {base : Nat} (hbase : 0 < base) (h : base ≤ 16) :
    (Numeral.read base UInt32.size digits).map UInt32.ofNat = .ok v ↔
      Numeral.Signed base digits v.toNat := by
  rw [map_ofNat_read_eq_ok_iff hbase, Numeral.read_eq_ok_iff_signed hbase h (by decide)]
  exact and_iff_right v.toNat_lt_size

/-- An address is read exactly from the spellings of its number. -/
theorem read_eq_ok_iff :
    read s = .ok v ↔ ∃ body, Blank.Trims s.toList body ∧ Form body v.toNat := by
  simp only [Blank.trims_iff, exists_eq_left']
  unfold read
  split
  next digits hs =>
    rw [hs, form_marked_iff (.inl rfl), map_ofNat_read_eq_ok_iff_signed (by omega) (by omega)]
  next digits hs =>
    rw [hs, form_marked_iff (.inr rfl), map_ofNat_read_eq_ok_iff_signed (by omega) (by omega)]
  next hsmall hcapital =>
    rw [map_ofNat_read_eq_ok_iff_signed (by omega) (by omega)]
    constructor
    · exact .decimal
    · intro h
      generalize Blank.trim s.toList = body at h hsmall hcapital
      cases h with
      | marked h => exact absurd rfl (hsmall _)
      | capitalMarked h => exact absurd rfl (hcapital _)
      | decimal h => exact h

example : read " 0X+0fF\n" = .ok 255 := by decide +kernel

/-- What is not read has no number, or too large a one. -/
theorem read_eq_error_iff :
    (∃ f, read s = .error f) ↔
      ∀ body n, Blank.Trims s.toList body → Form body n → 2 ^ 32 ≤ n := by
  constructor
  · rintro ⟨f, hf⟩ body n hbody hform
    by_contra hn
    have hnat : (UInt32.ofNat n).toNat = n := by
      rw [UInt32.toNat_ofNat', Nat.mod_eq_of_lt (by omega)]
    have hok : read s = .ok (UInt32.ofNat n) :=
      read_eq_ok_iff.2 ⟨body, hbody, by rwa [hnat]⟩
    simp [hf] at hok
  · intro h
    cases hread : read s with
    | error f => exact ⟨f, rfl⟩
    | ok v =>
      obtain ⟨body, hbody, hform⟩ := read_eq_ok_iff.1 hread
      exact absurd (h body v.toNat hbody hform) (Nat.not_le_of_lt v.toNat_lt)

theorem isBlank_of_signed {base : Nat} (hbase : base ≤ 16) (h : Numeral.Signed base digits n) :
    ∀ c ∈ digits, Blank.isBlank c = false := by
  obtain ⟨ds, hsign, hds⟩ := h
  have hdigit : ∀ c ∈ ds, Blank.isBlank c = false := fun c hc =>
    Blank.isBlank_of_isAlphanum (((Numeral.denotes_iff hbase).2 hds).isAlphanum_of_mem hc)
  rcases hsign with rfl | rfl
  · exact hdigit
  · exact List.forall_mem_cons.2 ⟨by decide, hdigit⟩

theorem Form.isBlank_of_mem (h : Form body n) : ∀ c ∈ body, Blank.isBlank c = false := by
  cases h with
  | marked h | capitalMarked h =>
    have hdigits := isBlank_of_signed (by omega) h
    exact List.forall_mem_cons.2 ⟨by decide, List.forall_mem_cons.2 ⟨by decide, hdigits⟩⟩
  | decimal h => exact isBlank_of_signed (by omega) h

/-- White space around a number does not count. -/
theorem Form.read_eq {t front back : String} (h : Form t.toList v.toNat)
    (hfront : ∀ c ∈ front.toList, Blank.isBlank c) (hback : ∀ c ∈ back.toList, Blank.isBlank c) :
    read (front ++ t ++ back) = .ok v := by
  refine read_eq_ok_iff.2 ⟨t.toList, ?_, h⟩
  constructor
  · refine ⟨front.toList, back.toList, ?_, hfront, hback⟩
    rw [String.toList_append, String.toList_append]
  · exact fun c hc => h.isBlank_of_mem c (List.mem_of_head? hc)
  · exact fun c hc => h.isBlank_of_mem c (List.mem_of_getLast? hc)

/-- The texts of an address: hexadecimal behind a marker, as it is or filled up to eight digits, and
all in capitals; decimal. -/
def printed (v : UInt32) : List String :=
  [Numeral.hexMarked v.toNat, write v.toNat, "0X" ++ (Numeral.hex v.toNat).toUpper,
    Numeral.decimal v.toNat]

theorem form_of_mem_printed {t : String} (h : t ∈ printed v) : Form t.toList v.toNat := by
  have hunsigned {base : Nat} {s : List Char} (hbase : base ≤ 16)
      (h : Numeral.Denotes base s v.toNat) : Numeral.Signed base s v.toNat :=
    ⟨s, .inl rfl, (Numeral.denotes_iff hbase).1 h⟩
  simp only [printed, List.mem_cons, List.not_mem_nil, or_false] at h
  rcases h with rfl | rfl | rfl | rfl
  · rw [Numeral.hexMarked, String.toList_append]
    exact .marked (hunsigned (by omega) (Numeral.denotes_hex _))
  · rw [toList_write]
    exact .marked (hunsigned (by omega) (Numeral.denotes_hexWide 8 _))
  · rw [String.toList_append, String.toUpper, String.toList_map]
    have hdigits := (Numeral.denotes_iff (by omega)).1 (Numeral.denotes_hex v.toNat)
    exact .capitalMarked ⟨_, .inl rfl, hdigits.map_toUpper (by omega)⟩
  · exact .decimal (hunsigned (by omega) (Numeral.denotes_decimal _))

/-- A text is read as an address exactly if what stands between white space is a number below
`2 ^ 32`: digits, with or without a plus sign before them, hexadecimal behind a marker of either case
and else decimal. Every other text is refused. Each form in which an address is printed is read as
that address again, whatever white space stands around it. -/
theorem read_follows_grammar :
    (∀ s v, read s = .ok v ↔ ∃ body, Blank.Trims s.toList body ∧ Form body v.toNat) ∧
    (∀ s, (∃ f, read s = .error f) ↔
      ∀ body n, Blank.Trims s.toList body → Form body n → 2 ^ 32 ≤ n) ∧
    ∀ v front back, (∀ c ∈ String.toList front, Blank.isBlank c) →
      (∀ c ∈ String.toList back, Blank.isBlank c) →
      ∀ t ∈ printed v, read (front ++ t ++ back) = .ok v :=
  ⟨fun _ _ => read_eq_ok_iff, fun _ => read_eq_error_iff,
    fun _ _ _ hfront hback _ ht => (form_of_mem_printed ht).read_eq hfront hback⟩

end Address

end Am29000
