import Am29000.Proofs.Rows
import Mathlib.Tactic

/-!
What a layout reads of a word: the bits that count, and the mode bit where it types a field. Main
statement: two words give the same operands exactly when they agree in these.
-/
namespace Am29000

/-- Two bytes agree in their `n` low bits. -/
def SameBits (n : Nat) (a b : UInt8) : Prop :=
  ∀ k < n, a.toNat.testBit k = b.toNat.testBit k

theorem sameBits_zero (a b : UInt8) : SameBits 0 a b := by
  intro k hk
  omega

theorem sameBits_eight {a b : UInt8} : SameBits 8 a b ↔ a = b := by
  constructor
  · intro h
    apply UInt8.toNat_inj.1
    apply Nat.eq_of_testBit_eq
    intro k
    by_cases hk : k < 8
    · exact h k hk
    · have hle : 2 ^ 8 ≤ 2 ^ k := Nat.pow_le_pow_right (by omega) (by omega)
      rw [Nat.testBit_lt_two_pow (a.toNat_lt.trans_le hle),
        Nat.testBit_lt_two_pow (b.toNat_lt.trans_le hle)]
  · rintro rfl k _
    rfl

namespace Operand

theorem register_inj {a b : UInt8} : register a = register b ↔ a = b := by
  simp only [register, mk.injEq, true_and]
  exact UInt8.toUInt32_inj

theorem immediate_ofNat_inj {m n : Nat} (hm : m < 2 ^ 32) (hn : n < 2 ^ 32) :
    immediate (UInt32.ofNat m) = immediate (UInt32.ofNat n) ↔ m = n := by
  simp only [immediate, mk.injEq, true_and, ← UInt32.toNat_inj, UInt32.toNat_ofNat']
  rw [Nat.mod_eq_of_lt hm, Nat.mod_eq_of_lt hn]

end Operand

namespace Word

theorem constant_lt (w : Word) : w.constant < 2 ^ 16 := by
  have := w.first.toNat_lt
  have := w.third.toNat_lt
  unfold constant
  omega

theorem constant_inj {w v : Word} :
    w.constant = v.constant ↔ w.first = v.first ∧ w.third = v.third := by
  have := w.third.toNat_lt
  have := v.third.toNat_lt
  rw [← UInt8.toNat_inj, ← UInt8.toNat_inj]
  unfold constant
  omega

theorem toNat_displacement (w : Word) :
    w.displacement.toNat =
      if w.constant < 0x8000 then 4 * w.constant else 0x100000000 + 4 * w.constant - 0x40000 := by
  have := w.constant_lt
  simp only [displacement, UInt32.toNat_ofNat', UInt32.size]
  apply Nat.mod_eq_of_lt
  split <;> omega

theorem displacement_inj {w v : Word} :
    w.displacement = v.displacement ↔ w.first = v.first ∧ w.third = v.third := by
  have := w.constant_lt
  have := v.constant_lt
  rw [← constant_inj, ← UInt32.toNat_inj, toNat_displacement, toNat_displacement]
  split <;> split <;> omega

end Word

namespace Layout

/-- The layouts that let the mode bit tell what one of their fields is. -/
def isModal : Layout → Bool
  | rcRaRbi | raTarget | target | access | rcRbi => true
  | _ => false

theorem kind_lastByte (w : Word) :
    (lastByte w).kind = if w.mode then .immediate else .register := by
  unfold lastByte
  split <;> rfl

theorem kind_jumpField (w : Word) (relative : Bool) :
    (jumpField w relative).kind = if w.mode = relative then .displacement else .immediate := by
  unfold jumpField
  split <;> rfl

/-- How many low bits of the first, the second and the third operand byte a layout reads. -/
def readBits : Layout → Nat × Nat × Nat
  | rcRaRbi | rcRaRb | raConstant | raTarget | access | convert => (8, 8, 8)
  | target | rcRbi | rcRb => (8, 0, 8)
  | raRb | specialRb => (0, 8, 8)
  | rcRa | rcSpecial | accumulate => (8, 8, 0)
  | rcRaSelector => (8, 8, 2)
  | rb => (0, 0, 8)
  | rcPair => (8, 0, 4)
  | raPair => (0, 8, 4)
  | bare => (0, 0, 0)

/-- Two words agree in every operand bit that a layout reads. -/
def Agree (l : Layout) (w v : Word) : Prop :=
  SameBits l.readBits.1 w.first v.first ∧ SameBits l.readBits.2.1 w.second v.second ∧
    SameBits l.readBits.2.2 w.third v.third

theorem toNat_bits (b : UInt8) (low width : Nat) :
    (bits b low width).toNat = b.toNat / 2 ^ low % 2 ^ width := by
  have := b.toNat_lt
  have := Nat.div_le_self b.toNat (2 ^ low)
  have := Nat.mod_le (b.toNat / 2 ^ low) (2 ^ width)
  rw [bits, UInt32.toNat_ofNat', Nat.shiftRight_eq_div_pow, Nat.one_shiftLeft]
  apply Nat.mod_eq_of_lt
  omega

theorem toNat_bits_lt (b : UInt8) (low width : Nat) : (bits b low width).toNat < 256 := by
  rw [toNat_bits]
  exact (Nat.mod_le _ _).trans_lt ((Nat.div_le_self _ _).trans_lt b.toNat_lt)

theorem field_eq_iff {a b : UInt8} {low width : Nat} :
    field a low width = field b low width ↔
      ∀ k < width, a.toNat.testBit (low + k) = b.toNat.testBit (low + k) := by
  simp only [field, Operand.immediate, Operand.mk.injEq, true_and, ← UInt32.toNat_inj, toNat_bits]
  constructor
  · intro h k hk
    have := congrArg (Nat.testBit · k) h
    simpa only [Nat.testBit_mod_two_pow, Nat.testBit_div_two_pow, hk, decide_true, Bool.true_and,
      Nat.add_comm k low] using this
  · intro h
    apply Nat.eq_of_testBit_eq
    intro k
    rw [Nat.testBit_mod_two_pow, Nat.testBit_mod_two_pow, Nat.testBit_div_two_pow,
      Nat.testBit_div_two_pow]
    by_cases hk : k < width
    · rw [Nat.add_comm k low, h k hk]
    · simp [hk]

theorem field_zero_eq_iff {a b : UInt8} {width : Nat} :
    field a 0 width = field b 0 width ↔ SameBits width a b := by
  simp only [field_eq_iff, Nat.zero_add, SameBits]

/-- A field right above agreeing low bits adds its own bits to them. -/
theorem sameBits_add (low width : Nat) {a b : UInt8} :
    SameBits (low + width) a b ↔ field a low width = field b low width ∧ SameBits low a b := by
  rw [field_eq_iff]
  constructor
  · intro h
    exact ⟨fun k hk => h (low + k) (by omega), fun k hk => h k (by omega)⟩
  · rintro ⟨hfield, hlow⟩ k hk
    by_cases hk' : k < low
    · exact hlow k hk'
    · have := hfield (k - low) (by omega)
      rwa [Nat.add_sub_cancel' (by omega)] at this

theorem register_ne_field (a b : UInt8) (low width : Nat) :
    Operand.register a ≠ field b low width := by
  intro h
  cases congrArg Operand.kind h

theorem lastByte_eq_iff {w v : Word} :
    lastByte w = lastByte v ↔ w.mode = v.mode ∧ w.third = v.third := by
  unfold lastByte
  cases w.mode <;> cases v.mode <;>
    simp [Operand.register_inj, field_zero_eq_iff, sameBits_eight, register_ne_field,
      (register_ne_field _ _ _ _).symm]

theorem jumpField_eq_iff {w v : Word} {relative : Bool} :
    jumpField w relative = jumpField v relative ↔
      w.mode = v.mode ∧ w.first = v.first ∧ w.third = v.third := by
  rw [← Word.displacement_inj]
  unfold jumpField
  cases w.mode <;> cases v.mode <;> cases relative <;>
    simp [Operand.displacement, Operand.immediate]

theorem raConstant_eq_iff {w v : Word} :
    Operand.immediate (UInt32.ofNat w.constant) = Operand.immediate (UInt32.ofNat v.constant) ↔
      w.first = v.first ∧ w.third = v.third := by
  have := w.constant_lt
  have := v.constant_lt
  rw [Operand.immediate_ofNat_inj (by omega) (by omega), Word.constant_inj]

/-- A pair of selectors covers the low half of a byte. -/
theorem selectors_eq_iff {a b : UInt8} :
    field a 2 2 = field b 2 2 ∧ field a 0 2 = field b 0 2 ↔ SameBits 4 a b := by
  rw [field_zero_eq_iff, ← sameBits_add 2 2]

/-- The flag of a memory access and the control field below it cover a byte. -/
theorem control_eq_iff {a b : UInt8} :
    field a 7 1 = field b 7 1 ∧ field a 0 7 = field b 0 7 ↔ a = b := by
  rw [field_zero_eq_iff, ← sameBits_add 7 1, sameBits_eight]

/-- The four fields of a conversion cover a byte. -/
theorem conversion_eq_iff {a b : UInt8} :
    field a 7 1 = field b 7 1 ∧ field a 4 3 = field b 4 3 ∧ field a 2 2 = field b 2 2 ∧
      field a 0 2 = field b 0 2 ↔ a = b := by
  rw [selectors_eq_iff, ← sameBits_add 4 3, ← sameBits_add 7 1, sameBits_eight]

/-- The operands of a word depend on the bits that the layout reads, all of them, and on the mode
bit exactly where it types a field. -/
theorem fields_eq_iff (l : Layout) (w v : Word) :
    l.fields w = l.fields v ↔ (l.isModal → w.mode = v.mode) ∧ l.Agree w v := by
  cases l with
  | access =>
    have hcontrol := @control_eq_iff w.first v.first
    simp only [fields, isModal, Agree, readBits, sameBits_eight, lastByte_eq_iff,
      Operand.register_inj, List.cons.injEq, forall_const, and_true]
    tauto
  | convert =>
    simp [fields, isModal, Agree, readBits, sameBits_eight, Operand.register_inj,
      conversion_eq_iff]
  | accumulate =>
    simp only [fields, isModal, Agree, readBits, sameBits_zero, sameBits_eight,
      Operand.register_inj, List.cons.injEq, and_true, Bool.false_eq_true, false_implies, true_and]
    -- both control fields repeat bits of the first byte, which its register already fixes
    constructor
    · rintro ⟨-, -, h⟩
      exact h
    · rintro ⟨hfirst, hsecond⟩
      exact ⟨by rw [hfirst], by rw [hfirst], hfirst, hsecond⟩
  | rcPair | raPair =>
    simp [fields, isModal, Agree, readBits, sameBits_zero, sameBits_eight, Operand.register_inj,
      selectors_eq_iff]
  | rcRaSelector =>
    simp [fields, isModal, Agree, readBits, sameBits_eight, Operand.register_inj,
      field_zero_eq_iff]
  | rcRaRbi | raTarget | rcRbi =>
    simp only [fields, isModal, Agree, readBits, sameBits_zero, sameBits_eight,
      Operand.register_inj, lastByte_eq_iff, jumpField_eq_iff, List.cons.injEq, forall_const,
      and_true, true_and]
    tauto
  | raConstant =>
    simp only [fields, isModal, Agree, readBits, sameBits_eight, Operand.register_inj,
      raConstant_eq_iff, List.cons.injEq, and_true, Bool.false_eq_true, false_implies, true_and]
    tauto
  | target =>
    simp [fields, isModal, Agree, readBits, sameBits_zero, sameBits_eight, jumpField_eq_iff]
  | rcRaRb | raRb | rcRa | rcSpecial | specialRb | rcRb | rb | bare =>
    simp [fields, isModal, Agree, readBits, sameBits_zero, sameBits_eight, Operand.register_inj]

end Layout

end Am29000
