import Am29000.Json.Printer
import Am29000.Json.Reader
import Am29000.Proofs.Addresses

/-!
Written JSON is read back. Main statement: a value whose numerals are natural numbers is what its
text stands for, in every style that breaks lines with white space only.
-/
namespace Am29000

namespace Numeral

/-- Four hexadecimal digits are those of the four quarters of a number. -/
theorem toList_hexWide_four {n : Nat} (hn : n < 16 ^ 4) :
    (hexWide 4 n).toList =
      [(n / 4096).digitChar, (n / 256 % 16).digitChar, (n / 16 % 16).digitChar,
        (n % 16).digitChar] := by
  have hsplit : n = 16 * (16 * (16 * (n / 4096) + n / 256 % 16) + n / 16 % 16) + n % 16 := by omega
  have hfirst : (hexWide 1 (n / 4096)).toList = [(n / 4096).digitChar] := by
    rw [hexWide, String.toList_ofList, Nat.toDigits_of_lt_base (by omega)]
    rfl
  conv_lhs => rw [hsplit]
  rw [toList_hexWide_succ (by omega) (by omega), toList_hexWide_succ (by omega) (by omega),
    toList_hexWide_succ (by omega) (by omega), hfirst]
  rfl

theorem exists_toDigits_eq_cons (n : Nat) : ∃ d ds, Nat.toDigits 10 n = d :: ds ∧ d.isDigit := by
  obtain ⟨d, ds, hcons⟩ := List.exists_cons_of_ne_nil (Nat.toDigits_ne_nil (n := n) (b := 10))
  refine ⟨d, ds, hcons, ?_⟩
  exact Nat.isDigit_of_mem_toDigits (by omega) (by omega) (hcons ▸ List.mem_cons_self)

/-- No zero is written in front of other digits. -/
theorem toDigits_ne_zero_cons (n : Nat) (c : Char) (cs : List Char) :
    Nat.toDigits 10 n ≠ '0' :: c :: cs := by
  intro h
  rcases Nat.eq_zero_or_pos n with rfl | hn
  · simp [Nat.toDigits_zero] at h
  · exact head?_toDigits_ne_zero (show 1 < 10 by omega) (by omega) hn (by rw [h, List.head?_cons])

end Numeral

namespace Json

variable {s rest : List Char}

theorem skipBlank_append {b : List Char} (h : ∀ c ∈ b, isBlank c) (s : List Char) :
    skipBlank (b ++ s) = skipBlank s :=
  List.dropWhile_append_of_pos h

theorem skipBlank_cons {c : Char} (h : isBlank c = false) (s : List Char) :
    skipBlank (c :: s) = c :: s :=
  List.dropWhile_cons_of_neg (by simp [h])

/-- The four digits of a code unit are read back. -/
theorem exists_codeUnit? {n : Nat} (hn : n < 16 ^ 4) :
    ∃ a b c d, (Numeral.hexWide 4 n).toList = [a, b, c, d] ∧ codeUnit? a b c d = some n := by
  refine ⟨_, _, _, _, Numeral.toList_hexWide_four hn, ?_⟩
  rw [codeUnit?]
  repeat rw [Numeral.digit?_digitChar (by omega) (by omega)]
  simp only [Option.bind_eq_bind, Option.bind_some, Option.pure_def, Option.some.injEq]
  omega

/-- What is written for a character is read as one piece, which stands for this character. -/
theorem exists_readPieces_escape (c : Char) :
    ∃ p, (∀ s ps rest, readPieces s = some (ps, rest) →
        readPieces ((escape c).toList ++ s) = some (p :: ps, rest)) ∧
      ∀ ps, joinPieces (p :: ps) = (joinPieces ps).map (c :: ·) := by
  by_cases hshort : c ∈ ['\"', '\\', '\x08', '\t', '\n', '\x0c', '\r']
  · refine ⟨.char c, fun s ps rest h => ?_, fun ps => rfl⟩
    fin_cases hshort <;> simp [escape, readPieces, shortEscape?, h]
  · simp only [List.mem_cons, List.not_mem_nil, or_false, not_or] at hshort
    obtain ⟨hquote, hslash, hback, htab, hline, hpage, hreturn⟩ := hshort
    simp only [escape, hquote, hslash, hback, htab, hline, hpage, hreturn, ↓reduceIte]
    by_cases hcontrol : c.toNat < 0x20
    · obtain ⟨d₁, d₂, d₃, d₄, hdigits, hunit⟩ := exists_codeUnit? (show c.toNat < 16 ^ 4 by omega)
      have hhigh : isHighHalf c.toNat = false := by
        simp [isHighHalf]
        omega
      have hlow : isLowHalf c.toNat = false := by
        simp [isLowHalf]
        omega
      refine ⟨.unit c.toNat, fun s ps rest h => ?_, fun ps => ?_⟩
      · simp [hcontrol, hdigits, readPieces, hunit, h]
      · rw [joinPieces.eq_def]
        simp [hhigh, hlow]
    · refine ⟨.char c, fun s ps rest h => ?_, fun ps => rfl⟩
      simp [hcontrol, readPieces, h, hslash]

theorem exists_readPieces_flatMap (cs rest : List Char) :
    ∃ ps, readPieces (cs.flatMap (fun c => (escape c).toList) ++ '\"' :: rest) = some (ps, rest) ∧
      joinPieces ps = some cs := by
  induction cs with
  | nil => exact ⟨[], by simp [readPieces], rfl⟩
  | cons c cs ih =>
    obtain ⟨ps, hread, hjoin⟩ := ih
    obtain ⟨p, hp, hfront⟩ := exists_readPieces_escape c
    refine ⟨p :: ps, ?_, by rw [hfront, hjoin]; rfl⟩
    rw [List.flatMap_cons, List.append_assoc]
    exact hp _ _ _ hread

/-- A text is read up to the quote that closes it. -/
theorem readText_writeText (t : JsonText) (rest : List Char) :
    ∃ s, (writeText t).toList = '\"' :: s ∧ readText (s ++ rest) = some (t, rest) := by
  cases t with
  | none =>
    refine ⟨['\\', 'u', 'd', '8', '0', '0', '\"'], by simp [writeText], ?_⟩
    have hunit : codeUnit? 'd' '8' '0' '0' = some 0xD800 := by decide
    simp [readText, readPieces, hunit, joinPieces, isHighHalf]
  | some t =>
    obtain ⟨ps, hread, hjoin⟩ := exists_readPieces_flatMap t.toList rest
    refine ⟨t.toList.flatMap (fun c => (escape c).toList) ++ ['\"'], ?_, ?_⟩
    · simp [writeText, String.toList_join, List.flatMap_map]
    · rw [readText, List.append_assoc, List.singleton_append, hread, Option.map_some]
      simp [hjoin]

/-- A text that cannot go on a numeral before it. -/
def EndsNumeral (s : List Char) : Prop :=
  ∀ c ∈ s.head?, c.isDigit = false ∧ c ≠ '.' ∧ c ≠ 'e' ∧ c ≠ 'E'

theorem readDigits_append {ds : List Char} (hne : ds ≠ []) (hds : ∀ c ∈ ds, c.isDigit)
    (hrest : ∀ c ∈ rest.head?, c.isDigit = false) : readDigits (ds ++ rest) = some (ds, rest) := by
  have hspan : (ds ++ rest).span Char.isDigit = (ds, rest) := by
    rw [List.span_eq_takeWhile_dropWhile, List.takeWhile_append_of_pos hds,
      List.dropWhile_append_of_pos hds]
    cases rest with
    | nil => simp
    | cons c rest =>
      have hc := hrest c rfl
      rw [List.takeWhile_cons_of_neg (by simp [hc]), List.dropWhile_cons_of_neg (by simp [hc]),
        List.append_nil]
  unfold readDigits
  rw [hspan]
  cases ds with
  | nil => exact absurd rfl hne
  | cons d ds => rfl

theorem readWhole_toDigits (n : Nat) (hrest : ∀ c ∈ rest.head?, c.isDigit = false) :
    readWhole (Nat.toDigits 10 n ++ rest) = some (Nat.toDigits 10 n, rest) := by
  have hdigits : ∀ c ∈ Nat.toDigits 10 n, c.isDigit := by
    intro c hc
    exact Nat.isDigit_of_mem_toDigits (by omega) (by omega) hc
  unfold readWhole
  rw [readDigits_append Nat.toDigits_ne_nil hdigits hrest]
  split
  next c cs _ heq =>
    exact absurd (Prod.mk.inj (Option.some.inj heq)).1 (Numeral.toDigits_ne_zero_cons n c cs)
  next => rfl

theorem EndsNumeral.readFraction_eq (h : EndsNumeral rest) :
    readFraction rest = some ([], rest) := by
  unfold readFraction
  split
  next => exact absurd rfl (h '.' rfl).2.1
  next => rfl

theorem EndsNumeral.readExponent_eq (h : EndsNumeral rest) :
    readExponent rest = some ([], rest) := by
  cases rest with
  | nil => rfl
  | cons c rest =>
    obtain ⟨-, -, hlower, hupper⟩ := h c rfl
    simp [readExponent, hlower, hupper]

/-- The digits of a number are read back when nothing goes on with them. -/
theorem readNumber_toDigits (n : Nat) (hrest : EndsNumeral rest) :
    readNumber (Nat.toDigits 10 n ++ rest) = some (natural n, rest) := by
  have hwhole := readWhole_toDigits n fun c hc => (hrest c hc).1
  have hunsigned :
      readUnsigned (Nat.toDigits 10 n ++ rest) = some (Nat.toDigits 10 n, [], rest) := by
    simp [readUnsigned, hwhole, hrest.readFraction_eq, hrest.readExponent_eq]
  unfold readNumber
  split
  next s heq =>
    -- digits have no sign in front
    obtain ⟨d, ds, hcons, hdigit⟩ := Numeral.exists_toDigits_eq_cons n
    rw [hcons, List.cons_append] at heq
    obtain rfl := (List.cons.inj heq).1
    exact absurd hdigit (by decide)
  next =>
    rw [hunsigned]
    simp [Nat.ofDigitChars_ten_toDigits]

mutual

/-- All numerals of a value are natural numbers. -/
def isWhole : Json → Bool
  | number _ => false
  | array vs => areWhole vs
  | object ms => areWholeMembers ms
  | _ => true

def areWhole : List Json → Bool
  | [] => true
  | v :: vs => v.isWhole && areWhole vs

def areWholeMembers : List (JsonText × Json) → Bool
  | [] => true
  | (_, v) :: ms => v.isWhole && areWholeMembers ms

end

theorem areWhole_iff {vs : List Json} : areWhole vs ↔ ∀ v ∈ vs, v.isWhole := by
  induction vs with
  | nil => simp [areWhole]
  | cons v vs ih => simp [areWhole, ih]

theorem areWholeMembers_iff {ms : List (JsonText × Json)} :
    areWholeMembers ms ↔ ∀ m ∈ ms, m.2.isWhole := by
  induction ms with
  | nil => simp [areWholeMembers]
  | cons m ms ih => rw [areWholeMembers, Bool.and_eq_true, ih, List.forall_mem_cons]

mutual

/-- How far the count of a reader goes down over a value, at most. -/
def size : Json → Nat
  | array vs => 1 + sizeItems vs
  | object ms => 1 + sizeMembers ms
  | _ => 1

def sizeItems : List Json → Nat
  | [] => 0
  | v :: vs => 1 + v.size + sizeItems vs

def sizeMembers : List (JsonText × Json) → Nat
  | [] => 0
  | (_, v) :: ms => 1 + v.size + sizeMembers ms

end

/-- Lines are broken with white space, and only white space follows the colon. -/
structure Style.Blank (s : Style) : Prop where
  lineBreak : ∀ depth, ∀ c ∈ (s.lineBreak depth).toList, isBlank c
  colon : ∃ b, s.colon.toList = ':' :: b ∧ ∀ c ∈ b, isBlank c

theorem Style.blank_compact : Style.compact.Blank where
  lineBreak _ := by simp [Style.compact]
  colon := ⟨[], rfl, by simp⟩

theorem Style.blank_indented : Style.indented.Blank where
  lineBreak depth c hc := by
    simp only [Style.indented, String.toList_append, String.toList_ofList, List.mem_append,
      List.mem_replicate] at hc
    rcases hc with hc | ⟨-, rfl⟩
    · obtain rfl : c = '\n' := by simpa using hc
      rfl
    · rfl
  colon := ⟨[' '], rfl, by simp [isBlank]⟩

theorem isBlank_of_isDigit {c : Char} (h : c.isDigit) : isBlank c = false := by
  rw [← Bool.not_eq_true]
  intro hblank
  simp only [isBlank, Bool.or_eq_true, decide_eq_true_eq] at hblank
  rcases hblank with ((rfl | rfl) | rfl) | rfl <;> exact absurd h (by decide)

/-- A written value begins with a character of its own, never with white space or a closing
bracket. -/
theorem exists_write_eq_cons (st : Style) (depth : Nat) {j : Json} (hj : j.isWhole) :
    ∃ c s, (j.write st depth).toList = c :: s ∧ isBlank c = false ∧ c ≠ ']' := by
  cases j with
  | null => exact ⟨'n', "ull".toList, by simp [write], by decide, by decide⟩
  | bool b =>
    cases b with
    | false => exact ⟨'f', "alse".toList, by simp [write], by decide, by decide⟩
    | true => exact ⟨'t', "rue".toList, by simp [write], by decide, by decide⟩
  | natural n =>
    obtain ⟨d, ds, hcons, hdigit⟩ := Numeral.exists_toDigits_eq_cons n
    refine ⟨d, ds, by rw [write, Numeral.decimal, String.toList_ofList, hcons],
      isBlank_of_isDigit hdigit, ?_⟩
    rintro rfl
    exact absurd hdigit (by decide)
  | number => simp [isWhole] at hj
  | string t =>
    obtain ⟨s, hs, -⟩ := readText_writeText t []
    exact ⟨'\"', s, by rw [write, hs], by decide, by decide⟩
  | array vs => cases vs <;> exact ⟨'[', _, by simp [write]; rfl, by decide, by decide⟩
  | object ms => cases ms <;> exact ⟨'\x7b', _, by simp [write]; rfl, by decide, by decide⟩

theorem readValue_append {b : List Char} (hb : ∀ c ∈ b, isBlank c) (fuel : Nat) (s : List Char) :
    readValue fuel (b ++ s) = readValue fuel s := by
  cases fuel with
  | zero => rfl
  | succ fuel => rw [readValue, readValue, skipBlank_append hb]

theorem readValue_of_isDigit {c : Char} (h : c.isDigit) (fuel : Nat) (s : List Char) :
    readValue (fuel + 1) (c :: s) = readNumber (c :: s) := by
  rw [readValue, skipBlank_cons (isBlank_of_isDigit h)]
  split
  all_goals try
    next heq =>
      obtain rfl := (List.cons.inj heq).1
      exact absurd h (by decide)
  rfl

theorem readValue_natural (n : Nat) (hrest : EndsNumeral rest) (fuel : Nat) :
    readValue (fuel + 1) ((Numeral.decimal n).toList ++ rest) = some (natural n, rest) := by
  rw [Numeral.decimal, String.toList_ofList, ← readNumber_toDigits n hrest]
  obtain ⟨d, ds, hcons, hdigit⟩ := Numeral.exists_toDigits_eq_cons n
  rw [hcons]
  exact readValue_of_isDigit hdigit fuel _

theorem EndsNumeral.append {b : List Char} (hb : ∀ c ∈ b, isBlank c) (hs : EndsNumeral s) :
    EndsNumeral (b ++ s) := by
  cases b with
  | nil => exact hs
  | cons c b =>
    rintro c' ⟨⟩
    have hc := hb c List.mem_cons_self
    refine ⟨?_, ?_, ?_, ?_⟩
    · by_contra hdigit
      rw [isBlank_of_isDigit (by simpa using hdigit)] at hc
      cases hc
    all_goals
      rintro rfl
      cases hc

theorem endsNumeral_cons {c : Char} (h : c = ',' ∨ c = ']' ∨ c = '\x7d') (s : List Char) :
    EndsNumeral (c :: s) := by
  rintro c' ⟨⟩
  rcases h with rfl | rfl | rfl <;> decide

variable {st : Style} {fuel : Nat} {b : List Char} {v : Json} {k : JsonText}

theorem toList_write_array (st : Style) (depth : Nat) (v : Json) (vs : List Json) :
    ((array (v :: vs)).write st depth).toList =
      '[' :: ((st.lineBreak (depth + 1)).toList ++ ((v.write st (depth + 1)).toList ++
        ((writeItems st (depth + 1) vs).toList ++ ((st.lineBreak depth).toList ++ [']'])))) := by
  simp [write]

theorem toList_writeItems_cons (st : Style) (depth : Nat) (v : Json) (vs : List Json) :
    (writeItems st depth (v :: vs)).toList =
      ',' :: ((st.lineBreak depth).toList ++ ((v.write st depth).toList ++
        (writeItems st depth vs).toList)) := by
  simp [writeItems]

theorem toList_write_object (st : Style) (depth : Nat) (k : JsonText) (v : Json)
    (ms : List (JsonText × Json)) :
    ((object ((k, v) :: ms)).write st depth).toList =
      '\x7b' :: ((st.lineBreak (depth + 1)).toList ++ ((writeText k).toList ++
        (st.colon.toList ++ ((v.write st (depth + 1)).toList ++
          ((writeMembers st (depth + 1) ms).toList ++
            ((st.lineBreak depth).toList ++ ['\x7d'])))))) := by
  simp [write]

theorem toList_writeMembers_cons (st : Style) (depth : Nat) (k : JsonText) (v : Json)
    (ms : List (JsonText × Json)) :
    (writeMembers st depth ((k, v) :: ms)).toList =
      ',' :: ((st.lineBreak depth).toList ++ ((writeText k).toList ++
        (st.colon.toList ++ ((v.write st depth).toList ++
          (writeMembers st depth ms).toList)))) := by
  simp [writeMembers]

theorem endsNumeral_writeItems (hb : ∀ c ∈ b, isBlank c) (st : Style) (depth : Nat)
    (vs : List Json) (rest : List Char) :
    EndsNumeral ((writeItems st depth vs).toList ++ (b ++ ']' :: rest)) := by
  cases vs with
  | nil => simpa [writeItems] using (endsNumeral_cons (.inr (.inl rfl)) rest).append hb
  | cons v vs =>
    rw [toList_writeItems_cons, List.cons_append]
    exact endsNumeral_cons (.inl rfl) _

theorem endsNumeral_writeMembers (hb : ∀ c ∈ b, isBlank c) (st : Style) (depth : Nat)
    (ms : List (JsonText × Json)) (rest : List Char) :
    EndsNumeral ((writeMembers st depth ms).toList ++ (b ++ '\x7d' :: rest)) := by
  cases ms with
  | nil => simpa [writeMembers] using (endsNumeral_cons (.inr (.inr rfl)) rest).append hb
  | cons m ms =>
    rw [toList_writeMembers_cons, List.cons_append]
    exact endsNumeral_cons (.inl rfl) _

theorem readValue_bracket (hb : ∀ c ∈ b, isBlank c) {c : Char} (hc : isBlank c = false)
    (hne : c ≠ ']') (fuel : Nat) (s : List Char) :
    readValue (fuel + 1) ('[' :: (b ++ c :: s)) =
      (readItems fuel (c :: s)).map fun (vs, rest) => (array vs, rest) := by
  rw [readValue, skipBlank_cons (by decide)]
  simp only [skipBlank_append hb, skipBlank_cons hc]
  split
  next heq => exact absurd (List.cons.inj heq).1 hne
  next => rfl

theorem readValue_brace (hb : ∀ c ∈ b, isBlank c) (fuel : Nat) (s : List Char) :
    readValue (fuel + 1) ('\x7b' :: (b ++ '\"' :: s)) =
      (readMembers fuel ('\"' :: s)).map fun (ms, rest) => (object ms, rest) := by
  have hquote : isBlank '\"' = false := by decide
  rw [readValue, skipBlank_cons (by decide)]
  simp only [skipBlank_append hb, skipBlank_cons hquote]
  rfl

theorem readValue_write_array (hst : st.Blank) (hv : v.isWhole) {vs : List Json} {depth : Nat}
    (h : readItems fuel ((v.write st (depth + 1)).toList ++
      ((writeItems st (depth + 1) vs).toList ++ ((st.lineBreak depth).toList ++ ']' :: rest))) =
        some (v :: vs, rest)) :
    readValue (fuel + 1) (((array (v :: vs)).write st depth).toList ++ rest) =
      some (array (v :: vs), rest) := by
  obtain ⟨c, s, hs, hc, hne⟩ := exists_write_eq_cons st (depth + 1) hv
  rw [hs, List.cons_append] at h
  rw [toList_write_array, hs]
  simp only [List.cons_append, List.append_assoc, List.nil_append]
  rw [readValue_bracket (hst.lineBreak _) hc hne, h]
  rfl

theorem readValue_write_object (hst : st.Blank) {ms : List (JsonText × Json)} {depth : Nat}
    (h : readMembers fuel ((writeText k).toList ++ (st.colon.toList ++
      ((v.write st (depth + 1)).toList ++ ((writeMembers st (depth + 1) ms).toList ++
        ((st.lineBreak depth).toList ++ '\x7d' :: rest))))) = some ((k, v) :: ms, rest)) :
    readValue (fuel + 1) (((object ((k, v) :: ms)).write st depth).toList ++ rest) =
      some (object ((k, v) :: ms), rest) := by
  obtain ⟨t, ht, -⟩ := readText_writeText k []
  rw [ht, List.cons_append] at h
  rw [toList_write_object, ht]
  simp only [List.cons_append, List.append_assoc, List.nil_append]
  rw [readValue_brace (hst.lineBreak _), h]
  rfl

/-- A member is read key first, and what follows its value tells whether it is the last. -/
theorem readMembers_writeText (hst : st.Blank) (hb : ∀ c ∈ b, isBlank c) {s s' : List Char}
    (h : readValue fuel s = some (v, s')) :
    (∀ rest, skipBlank s' = '\x7d' :: rest →
      readMembers (fuel + 1) (b ++ ((writeText k).toList ++ (st.colon.toList ++ s))) =
        some ([(k, v)], rest)) ∧
    ∀ rest ms rest', skipBlank s' = ',' :: rest → readMembers fuel rest = some (ms, rest') →
      readMembers (fuel + 1) (b ++ ((writeText k).toList ++ (st.colon.toList ++ s))) =
        some ((k, v) :: ms, rest') := by
  obtain ⟨b', hcolon, hb'⟩ := hst.colon
  obtain ⟨t, ht, hread⟩ := readText_writeText k (st.colon.toList ++ s)
  have hvalue : readValue fuel (b' ++ s) = some (v, s') := by rw [readValue_append hb', h]
  rw [readMembers, skipBlank_append hb, ht, List.cons_append, skipBlank_cons (by decide)]
  simp only [hread]
  rw [hcolon, List.cons_append, skipBlank_cons (by decide)]
  simp only [hvalue]
  constructor
  · intro rest hs'
    rw [hs']
    rfl
  · intro rest ms rest' hs' hms
    rw [hs']
    simp only [hms, Option.map_some]

-- The recursion is on the value; a reader goes down by one from a value to its items and from one
-- item to the next, which the size of the value allows for.
mutual

/-- A written value is read back, and what follows it is left. -/
theorem readValue_write (hst : st.Blank) (j : Json) (depth fuel : Nat) (rest : List Char)
    (hj : j.isWhole) (hfuel : j.size ≤ fuel) (hrest : EndsNumeral rest) :
    readValue fuel ((j.write st depth).toList ++ rest) = some (j, rest) := by
  cases fuel with
  | zero => cases j <;> simp [size] at hfuel
  | succ fuel =>
    cases j with
    | null => simp [write, readValue, skipBlank_cons, isBlank]
    | bool b => cases b <;> simp [write, readValue, skipBlank_cons, isBlank]
    | natural n => exact readValue_natural n hrest fuel
    | number => simp [isWhole] at hj
    | string t =>
      obtain ⟨s, hs, hread⟩ := readText_writeText t rest
      simp [write, hs, readValue, skipBlank_cons, isBlank, hread]
    | array vs =>
      cases vs with
      | nil => simp [write, readValue, skipBlank_cons, isBlank]
      | cons v vs =>
        simp only [isWhole, areWhole, Bool.and_eq_true] at hj
        simp only [size, sizeItems] at hfuel
        obtain ⟨fuel, rfl⟩ := Nat.exists_eq_succ_of_ne_zero (show fuel ≠ 0 by omega)
        have hblank := hst.lineBreak depth
        have hv := readValue_write hst v (depth + 1) fuel _ hj.1 (by omega)
          (endsNumeral_writeItems hblank st (depth + 1) vs rest)
        exact readValue_write_array hst hj.1
          (readItems_writeItems hst vs (depth + 1) fuel rest hj.2 (by omega) hblank hv)
    | object ms =>
      cases ms with
      | nil => simp [write, readValue, skipBlank_cons, isBlank]
      | cons m ms =>
        obtain ⟨k, v⟩ := m
        simp only [isWhole, areWholeMembers, Bool.and_eq_true] at hj
        simp only [size, sizeMembers] at hfuel
        obtain ⟨fuel, rfl⟩ := Nat.exists_eq_succ_of_ne_zero (show fuel ≠ 0 by omega)
        have hblank := hst.lineBreak depth
        have hv := readValue_write hst v (depth + 1) fuel _ hj.1 (by omega)
          (endsNumeral_writeMembers hblank st (depth + 1) ms rest)
        have hmembers := readMembers_writeMembers (k := k) hst ms (depth + 1) fuel rest hj.2
          (by omega) hblank (List.forall_mem_nil _) hv
        rw [List.nil_append] at hmembers
        exact readValue_write_object hst hmembers

/-- Behind a value the items that are left are read up to the closing bracket. -/
theorem readItems_writeItems (hst : st.Blank) (vs : List Json) (depth fuel : Nat)
    (rest : List Char) (hvs : areWhole vs) (hfuel : sizeItems vs ≤ fuel) {b s : List Char}
    {v : Json} (hb : ∀ c ∈ b, isBlank c)
    (hv : readValue fuel s = some (v, (writeItems st depth vs).toList ++ (b ++ ']' :: rest))) :
    readItems (fuel + 1) s = some (v :: vs, rest) := by
  rw [readItems, hv]
  cases vs with
  | nil =>
    dsimp only
    rw [writeItems, String.toList_empty, List.nil_append, skipBlank_append hb,
      skipBlank_cons (by decide)]
    rfl
  | cons v' vs =>
    simp only [areWhole, Bool.and_eq_true] at hvs
    simp only [sizeItems] at hfuel
    obtain ⟨fuel, rfl⟩ := Nat.exists_eq_succ_of_ne_zero (show fuel ≠ 0 by omega)
    have hv' := readValue_write hst v' depth fuel _ hvs.1 (by omega)
      (endsNumeral_writeItems hb st depth vs rest)
    rw [← readValue_append (hst.lineBreak depth)] at hv'
    have hitems := readItems_writeItems hst vs depth fuel rest hvs.2 (by omega) hb hv'
    dsimp only
    rw [toList_writeItems_cons, List.cons_append, skipBlank_cons (by decide)]
    simp only [List.append_assoc, hitems]
    rfl

theorem readMembers_writeMembers (hst : st.Blank) (ms : List (JsonText × Json))
    (depth fuel : Nat) (rest : List Char) (hms : areWholeMembers ms)
    (hfuel : sizeMembers ms ≤ fuel) {b b' s : List Char} {k : JsonText} {v : Json}
    (hb : ∀ c ∈ b, isBlank c) (hb' : ∀ c ∈ b', isBlank c)
    (hv : readValue fuel s =
      some (v, (writeMembers st depth ms).toList ++ (b ++ '\x7d' :: rest))) :
    readMembers (fuel + 1) (b' ++ ((writeText k).toList ++ (st.colon.toList ++ s))) =
      some ((k, v) :: ms, rest) := by
  obtain ⟨hlast, hmore⟩ := readMembers_writeText (k := k) hst hb' hv
  cases ms with
  | nil =>
    apply hlast
    rw [writeMembers, String.toList_empty, List.nil_append, skipBlank_append hb,
      skipBlank_cons (by decide)]
  | cons m ms =>
    obtain ⟨k', v'⟩ := m
    simp only [areWholeMembers, Bool.and_eq_true] at hms
    simp only [sizeMembers] at hfuel
    obtain ⟨fuel, rfl⟩ := Nat.exists_eq_succ_of_ne_zero (show fuel ≠ 0 by omega)
    have hv' := readValue_write hst v' depth fuel _ hms.1 (by omega)
      (endsNumeral_writeMembers hb st depth ms rest)
    have hmembers := readMembers_writeMembers (k := k') hst ms depth fuel rest hms.2 (by omega) hb
      (hst.lineBreak depth) hv'
    refine hmore _ _ _ ?_ hmembers
    rw [toList_writeMembers_cons, List.cons_append, skipBlank_cons (by decide)]
    simp only [List.append_assoc]

end

mutual

/-- The count that a reader starts from is large enough for every written value. -/
theorem size_le_length (st : Style) (j : Json) (depth : Nat) (hj : j.isWhole) :
    j.size ≤ (j.write st depth).toList.length := by
  obtain ⟨c, s, hs, -⟩ := exists_write_eq_cons st depth hj
  cases j with
  | null | bool | natural | string =>
    rw [hs]
    simp [size]
  | number => simp [isWhole] at hj
  | array vs =>
    cases vs with
    | nil => simp [size, sizeItems, write]
    | cons v vs =>
      simp only [isWhole, areWhole, Bool.and_eq_true] at hj
      have hv := size_le_length st v (depth + 1) hj.1
      have hvs := sizeItems_le_length st vs (depth + 1) hj.2
      rw [toList_write_array]
      simp only [size, sizeItems, List.length_cons, List.length_append, List.length_nil]
      omega
  | object ms =>
    cases ms with
    | nil => simp [size, sizeMembers, write]
    | cons m ms =>
      simp only [isWhole, areWholeMembers, Bool.and_eq_true] at hj
      have hv := size_le_length st m.2 (depth + 1) hj.1
      have hms := sizeMembers_le_length st ms (depth + 1) hj.2
      rw [toList_write_object]
      simp only [size, sizeMembers, List.length_cons, List.length_append, List.length_nil]
      omega

theorem sizeItems_le_length (st : Style) (vs : List Json) (depth : Nat) (hvs : areWhole vs) :
    sizeItems vs ≤ (writeItems st depth vs).toList.length := by
  cases vs with
  | nil => simp [sizeItems]
  | cons v vs =>
    simp only [areWhole, Bool.and_eq_true] at hvs
    have hv := size_le_length st v depth hvs.1
    have hvs := sizeItems_le_length st vs depth hvs.2
    rw [toList_writeItems_cons]
    simp only [sizeItems, List.length_cons, List.length_append]
    omega

theorem sizeMembers_le_length (st : Style) (ms : List (JsonText × Json)) (depth : Nat)
    (hms : areWholeMembers ms) :
    sizeMembers ms ≤ (writeMembers st depth ms).toList.length := by
  cases ms with
  | nil => simp [sizeMembers]
  | cons m ms =>
    simp only [areWholeMembers, Bool.and_eq_true] at hms
    have hv := size_le_length st m.2 depth hms.1
    have hms := sizeMembers_le_length st ms depth hms.2
    rw [toList_writeMembers_cons]
    simp only [sizeMembers, List.length_cons, List.length_append]
    omega

end

/-- A value whose numerals are natural numbers is what its text stands for. -/
theorem parse?_write (hst : st.Blank) {j : Json} (hj : j.isWhole) (depth : Nat) :
    parse? (j.write st depth) = some j := by
  have hsize := size_le_length st j depth hj
  have hread := readValue_write hst j depth (2 * (j.write st depth).toList.length + 2) [] hj
    (by omega) (by rintro c ⟨⟩)
  rw [List.append_nil] at hread
  unfold parse?
  simp only [hread]
  rfl

theorem parse?_compact {j : Json} (hj : j.isWhole) : parse? j.compact = some j :=
  parse?_write Style.blank_compact hj 0

theorem parse?_indented {j : Json} (hj : j.isWhole) : parse? j.indented = some j :=
  parse?_write Style.blank_indented hj 0

end Json

end Am29000
