import Am29000.Proofs.ControlFlow
import Am29000.Proofs.Rendering

/-!
Returns and the operands that tell them. Main statement: a return is recognised by the values of its
first two operands. Where both are registers, as in every decoded call, that is the call through the
return register which saves into it; an operand of another kind is taken for a register.
-/
namespace Am29000

namespace Instruction

variable {i : Instruction}

/-- A call through the return register that saves the address of the next instruction there too. -/
structure Returns (i : Instruction) : Prop where
  mnemonic : i.mnemonic = "calli"
  link : i.slots.get? 0 = some ⟨.register, 128⟩
  target : i.slots.get? 1 = some ⟨.register, 128⟩

/-- An instruction whose first two operands are registers. -/
def StartsWithRegisters (i : Instruction) : Prop :=
  i.slots.kinds[0]? = some .register ∧ i.slots.kinds[1]? = some .register

theorem isReturn_iff_values :
    i.isReturn ↔ i.mnemonic = "calli" ∧ i.slots.values[0]? = some 128 ∧
      i.slots.values[1]? = some 128 := by
  have hvalue (k : Nat) (hk : k < 6) : i.slots.values[k]? = some i.slots.row[k].value := by
    rw [Slots.getElem?_values, Slots.get?, Vector.getElem?_eq_getElem hk, Option.map_some]
  rw [hvalue 0 (by omega), hvalue 1 (by omega), Option.some.injEq, Option.some.injEq]
  simp only [isReturn, Bool.and_eq_true, decide_eq_true_iff, and_assoc]
  exact Iff.rfl

/-- What is recognised is a return exactly if it starts with registers. -/
theorem returns_iff : i.Returns ↔ i.isReturn ∧ i.StartsWithRegisters := by
  rw [isReturn_iff_values, StartsWithRegisters]
  constructor
  · rintro ⟨hname, hlink, htarget⟩
    obtain ⟨hkind, hvalue⟩ := Slots.get?_eq_some_iff.1 hlink
    obtain ⟨hkind', hvalue'⟩ := Slots.get?_eq_some_iff.1 htarget
    exact ⟨⟨hname, hvalue, hvalue'⟩, hkind, hkind'⟩
  · rintro ⟨⟨hname, hvalue, hvalue'⟩, hkind, hkind'⟩
    exact ⟨hname, Slots.get?_eq_some_iff.2 ⟨hkind, hvalue⟩,
      Slots.get?_eq_some_iff.2 ⟨hkind', hvalue'⟩⟩

/-- A displacement that counts is one of the first two operands. -/
theorem target?_eq_none_of_registers (h : i.StartsWithRegisters) (a : UInt32) :
    i.target? a = none := by
  obtain ⟨hfirst, hsecond⟩ := h
  have hnone : ¬i.displacement?.isSome := by
    rw [isSome_displacement?_iff]
    rintro (hkinds | hkinds)
    · rw [hkinds] at hfirst
      exact absurd hfirst (by decide)
    · rw [hkinds] at hsecond
      exact absurd hsecond (by decide)
  rw [target?_eq_map, Option.not_isSome_iff_eq_none.1 hnone, Option.map_none]

/-- Where what is recognised starts with registers, it is a return and has no target. -/
theorem isReturn_iff_returns (h : i.isReturn → i.StartsWithRegisters) :
    (i.isReturn ↔ i.Returns) ∧ ∀ a, ¬((i.target? a).isSome ∧ i.isReturn) := by
  constructor
  · rw [returns_iff]
    exact ⟨fun hreturn => ⟨hreturn, h hreturn⟩, And.left⟩
  · rintro a ⟨htarget, hreturn⟩
    rw [target?_eq_none_of_registers (h hreturn)] at htarget
    cases htarget

theorem startsWithRegisters_ofEntry {e : Entry} (h : e.layout = .raRb) (w : Word) :
    (ofEntry e w).StartsWithRegisters := by
  rw [StartsWithRegisters, ofEntry, h]
  exact ⟨rfl, rfl⟩

theorem startsWithRegisters_of_decodeWord {c : Config} {w : Word} (h : c.decodeWord w = .ok i)
    (hreturn : i.isReturn) : i.StartsWithRegisters := by
  have hname := (isReturn_iff_values.1 hreturn).1
  rcases Config.decodeWord_eq_ok_iff.1 h with ⟨-, rfl⟩ | ⟨-, e, he, rfl⟩
  · exact absurd hname (by decide)
  · exact startsWithRegisters_ofEntry
      (Catalog.layout_of_calli e (Config.mem_of_lookup he) hname) w

/-- A call of the return instruction's name is recognised by the values of its first two operands,
whatever their kinds. If both are registers this is what a return is, and it has no target; every
return is recognised, and of decoded instructions nothing else. -/
theorem isReturn_told_by_values (i : Instruction) :
    (i.isReturn ↔ i.mnemonic = "calli" ∧ i.slots.values[0]? = some 128 ∧
      i.slots.values[1]? = some 128) ∧
    (i.Returns → i.isReturn) ∧
    (i.StartsWithRegisters →
      (i.isReturn ↔ i.Returns) ∧ ∀ a, ¬((i.target? a).isSome ∧ i.isReturn)) ∧
    ∀ (c : Config) w, c.decodeWord w = .ok i →
      (i.isReturn ↔ i.Returns) ∧ ∀ a, ¬((i.target? a).isSome ∧ i.isReturn) := by
  refine ⟨isReturn_iff_values, fun h => (returns_iff.1 h).1, fun h => ?_, fun c w hi => ?_⟩
  · exact isReturn_iff_returns fun _ => h
  · exact isReturn_iff_returns (startsWithRegisters_of_decodeWord hi)

/-- A relative displacement with the number of the return register is taken for that register, so
that an instruction with a target is recognised as a return. -/
theorem isReturn_of_displacement :
    let i : Instruction := ⟨"calli", .indirectCall, .ofList [.register 128, .displacement 128]⟩
    i.isReturn ∧ ¬i.Returns ∧ i.target? 0 = some 128 := by
  intro i
  refine ⟨by decide, fun h => ?_, by decide⟩
  exact absurd h.target (by decide)

end Instruction

end Am29000
