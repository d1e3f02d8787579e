import Am29000.Proofs.Encoding

/-!
The mode bit, the low bit of the opcode. Main statement: flipping it leaves the values and the arity
of a row as they are and changes the kind of one operand at most, and no other bit of the opcode
counts. The two rows with a displacement take the bit the other way round.
-/
namespace Am29000

namespace Word

/-- Another opcode in front of the same operand bytes. -/
def withOpcode (w : Word) (b : UInt8) : Word := { w with opcode := b }

def flipMode (w : Word) : Word := w.withOpcode (w.opcode ^^^ 1)

theorem withOpcode_self (w : Word) : w.withOpcode w.opcode = w := rfl

theorem mode_flipMode (w : Word) : w.flipMode.mode = !w.mode := by
  have hbit : (w.opcode ^^^ 1).toNat % 2 = 1 ↔ ¬w.opcode.toNat % 2 = 1 := by
    rw [UInt8.toNat_xor, Nat.xor_mod_two_eq_one]
    simp
  simp only [flipMode, withOpcode, mode, hbit, decide_not]

end Word

namespace Layout

variable {l : Layout} {k : Nat} {even odd : Kind}

/-- The operand that the mode bit types, if there is one: its slot, then its kind where the bit is
clear and its kind where the bit is set. -/
def modal? : Layout → Option (Nat × Kind × Kind)
  | rcRaRbi => some (2, .register, .immediate)
  | rcRbi => some (1, .register, .immediate)
  | access => some (3, .register, .immediate)
  | raTarget => some (1, .displacement, .immediate)
  | target => some (0, .immediate, .displacement)
  | _ => none

theorem ne_of_modal? (h : l.modal? = some (k, even, odd)) : even ≠ odd := by
  cases l <;> cases h <;> decide

theorem isModal_of_modal? (h : l.modal? = none) : ¬l.isModal := by
  cases l <;> simp [modal?, isModal] at h ⊢

theorem lastByte_eq (w : Word) :
    lastByte w = ⟨if w.mode then .immediate else .register, w.third.toUInt32⟩ := by
  unfold lastByte
  split
  next =>
    have hvalue : bits w.third 0 8 = w.third.toUInt32 := by
      have := w.third.toNat_lt
      rw [← UInt32.toNat_inj, toNat_bits, UInt8.toNat_toUInt32]
      omega
    rw [field, hvalue]
    rfl
  next => rfl

theorem jumpField_eq (w : Word) (relative : Bool) :
    jumpField w relative =
      ⟨if w.mode = relative then .displacement else .immediate, w.displacement⟩ := by
  unfold jumpField
  split <;> rfl

/-- Words with the same operand bytes and the same mode bit have the same operands. -/
theorem fields_withOpcode {w : Word} {b : UInt8} (h : l.isModal → (w.withOpcode b).mode = w.mode) :
    l.fields (w.withOpcode b) = l.fields w :=
  (l.fields_eq_iff _ _).2 ⟨h, l.agree_refl w⟩

/-- The typed operand is the last one, and it depends on the opcode by its kind alone. -/
theorem exists_fields_eq (h : l.modal? = some (k, even, odd)) (w : Word) :
    ∃ front v, front.length = k ∧ ∀ b, l.fields (w.withOpcode b) =
      front ++ [⟨if (w.withOpcode b).mode then odd else even, v⟩] := by
  cases l with
  | rcRaRbi =>
    cases h
    refine ⟨[.register w.first, .register w.second], w.third.toUInt32, rfl, fun b => ?_⟩
    rw [fields, lastByte_eq]
    rfl
  | rcRbi =>
    cases h
    refine ⟨[.register w.first], w.third.toUInt32, rfl, fun b => ?_⟩
    rw [fields, lastByte_eq]
    rfl
  | access =>
    cases h
    refine ⟨[field w.first 7 1, field w.first 0 7, .register w.second], w.third.toUInt32, rfl,
      fun b => ?_⟩
    rw [fields, lastByte_eq]
    rfl
  | raTarget =>
    cases h
    refine ⟨[.register w.second], w.displacement, rfl, fun b => ?_⟩
    rw [fields, jumpField_eq]
    cases (w.withOpcode b).mode <;> rfl
  | target =>
    cases h
    refine ⟨[], w.displacement, rfl, fun b => ?_⟩
    rw [fields, jumpField_eq]
    cases (w.withOpcode b).mode <;> rfl
  | _ => cases h

/-- The values that a layout finds do not depend on the opcode. -/
theorem map_value_fields_withOpcode (l : Layout) (w : Word) (b : UInt8) :
    (l.fields (w.withOpcode b)).map Operand.value = (l.fields w).map Operand.value := by
  cases h : l.modal? with
  | none => rw [fields_withOpcode fun hl => absurd hl (isModal_of_modal? h)]
  | some t =>
    obtain ⟨k, even, odd⟩ := t
    obtain ⟨front, v, -, hfields⟩ := exists_fields_eq h w
    have hself := hfields w.opcode
    rw [Word.withOpcode_self] at hself
    rw [hfields, hself, List.map_append, List.map_append]
    rfl

theorem values_slots_withOpcode (l : Layout) (w : Word) (b : UInt8) :
    (l.slots (w.withOpcode b)).values = (l.slots w).values := by
  have hvalues := l.map_value_fields_withOpcode w b
  have hlength : (l.fields (w.withOpcode b)).length = (l.fields w).length := by
    simpa only [List.length_map] using congrArg List.length hvalues
  rw [slots, slots, (l.leading_fields _).values_ofList, (l.leading_fields w).values_ofList,
    hvalues, hlength]

theorem arity_slots_withOpcode (l : Layout) (w : Word) (b : UInt8) :
    (l.slots (w.withOpcode b)).arity = (l.slots w).arity := by
  rw [arity_slots, arity_slots, ← List.length_map Operand.value,
    map_value_fields_withOpcode, List.length_map]

/-- Before and behind the typed operand the kinds of the row do not depend on the opcode. -/
theorem exists_kinds_eq (h : l.modal? = some (k, even, odd)) (w : Word) :
    ∃ front rest, front.length = k ∧ ∀ b, (l.slots (w.withOpcode b)).kinds =
      front ++ (if (w.withOpcode b).mode then odd else even) :: rest := by
  obtain ⟨front, v, hlength, hfields⟩ := exists_fields_eq h w
  refine ⟨front.map Operand.kind, List.replicate (6 - (k + 1)) .unused, ?_, fun b => ?_⟩
  · rw [List.length_map, hlength]
  · rw [slots, (l.leading_fields _).kinds_ofList, hfields, List.length_append, hlength]
    simp

/-- The kinds before and after a flip differ at the typed operand and nowhere else. -/
theorem kinds_flipMode (h : l.modal? = some (k, even, odd)) (w : Word) :
    (l.slots w).kinds[k]? = some (if w.mode then odd else even) ∧
      (l.slots w.flipMode).kinds[k]? = some (if w.mode then even else odd) ∧
      ∀ j, (l.slots w.flipMode).kinds[j]? ≠ (l.slots w).kinds[j]? ↔ j = k := by
  obtain ⟨front, rest, rfl, hkinds⟩ := exists_kinds_eq h w
  have hbefore : (l.slots w).kinds = front ++ (if w.mode then odd else even) :: rest :=
    hkinds w.opcode
  have hafter : (l.slots w.flipMode).kinds = front ++ (if w.mode then even else odd) :: rest := by
    have hflip := w.mode_flipMode
    rw [Word.flipMode] at hflip ⊢
    rw [hkinds, hflip]
    cases w.mode <;> rfl
  have hne : (if w.mode then even else odd) ≠ if w.mode then odd else even := by
    cases w.mode
    · exact (ne_of_modal? h).symm
    · exact ne_of_modal? h
  rw [hbefore, hafter]
  refine ⟨by simp, by simp, fun j => ?_⟩
  rcases Nat.lt_trichotomy j front.length with hj | rfl | hj
  · simp [List.getElem?_append_left hj, hj.ne]
  · simpa using hne
  · obtain ⟨i, rfl⟩ := Nat.exists_eq_add_of_lt hj
    simp [List.getElem?_append_right, Nat.add_assoc]

/-- The row with a register and the one without hold one displacement, and whichever value the mode
bit has, one of them counts it from the instruction and the other one from zero. -/
theorem opposite_displacements (w : Word) :
    ∃ v s t, (raTarget.slots w).get? 1 = some ⟨s, v⟩ ∧ (target.slots w).get? 0 = some ⟨t, v⟩ ∧
      (s = .displacement ↔ t ≠ .displacement) := by
  have hra : (raTarget.slots w).get? 1 = some (jumpField w false) := rfl
  have htarget : (target.slots w).get? 0 = some (jumpField w true) := rfl
  rw [hra, htarget, jumpField_eq, jumpField_eq]
  refine ⟨w.displacement, _, _, rfl, rfl, ?_⟩
  cases w.mode <;> simp

/-- Flipping the mode bit changes no value of a row and not its arity. In five layouts it changes
the kind of one operand, in the others nothing, and no other bit of the opcode ever does. A register
and an immediate, or a displacement and an immediate, change places; the displacement stands with a
clear bit behind a register and with a set bit alone. -/
theorem mode_types_one_operand (l : Layout) (w : Word) :
    (l.slots w.flipMode).values = (l.slots w).values ∧
    (l.slots w.flipMode).arity = (l.slots w).arity ∧
    (∀ k even odd, l.modal? = some (k, even, odd) →
      (l.slots w).kinds[k]? = some (if w.mode then odd else even) ∧
      (l.slots w.flipMode).kinds[k]? = some (if w.mode then even else odd) ∧
      ∀ j, (l.slots w.flipMode).kinds[j]? ≠ (l.slots w).kinds[j]? ↔ j = k) ∧
    (l.modal? = none → l.slots w.flipMode = l.slots w) ∧
    (∀ b : UInt8, b.toNat % 2 = w.opcode.toNat % 2 → l.slots (w.withOpcode b) = l.slots w) ∧
    ∃ v s t, (raTarget.slots w).get? 1 = some ⟨s, v⟩ ∧ (target.slots w).get? 0 = some ⟨t, v⟩ ∧
      (s = .displacement ↔ t ≠ .displacement) := by
  refine ⟨l.values_slots_withOpcode w _, l.arity_slots_withOpcode w _,
    fun k even odd h => kinds_flipMode h w, fun h => ?_, fun b hb => ?_,
    opposite_displacements w⟩
  · have hfields := fields_withOpcode (b := w.opcode ^^^ 1) (w := w)
      fun hl => absurd hl (isModal_of_modal? h)
    rw [slots, slots, Word.flipMode, hfields]
  · have hmode : (w.withOpcode b).mode = w.mode := by
      simp only [Word.withOpcode, Word.mode, hb]
    rw [slots, slots, fields_withOpcode fun _ => hmode]

end Layout

end Am29000
