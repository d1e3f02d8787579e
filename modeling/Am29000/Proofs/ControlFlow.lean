import Am29000.Proofs.Targets

/-!
The control flow of decoded words. Main statement: five opcodes have a target, a whole number of
words from the instruction and told by two of its bytes, and one word in the form of a call returns.
-/
namespace Am29000

/-- Distances are taken modulo `2 ^ 32`, so that a negative one wraps around. -/
theorem Word.toNat_add_displacement (w : Word) (a : UInt32) :
    ((a + w.displacement).toNat : Int) =
      (a.toNat + 4 * (w.constant : Int).bmod (2 ^ 16)) % 2 ^ 32 := by
  have := w.constant_lt
  rw [UInt32.toNat_add, toNat_displacement, Int.bmod_def]
  split <;> split <;> omega

/-- The displacement of these entries counts from the address of the instruction. -/
def Entry.isRelative (e : Entry) : Bool :=
  match e.layout with
  | .target => e.opcode.toNat % 2 = 1
  | .raTarget => e.opcode.toNat % 2 = 0
  | _ => false

namespace Instruction

variable {e : Entry} {w : Word}

/-- Only a field that counts from the address of the instruction is a displacement. -/
theorem displacement?_ofEntry (h : e.opcode = w.opcode) :
    (ofEntry e w).displacement? = if e.isRelative then some w.displacement else none := by
  have hmode : w.mode = decide (e.opcode.toNat % 2 = 1) := by rw [h, Word.mode]
  unfold displacement? Entry.isRelative
  rw [ofEntry, Layout.operands?_slots]
  cases e.layout with
  | target | raTarget =>
    rcases Nat.mod_two_eq_zero_or_one e.opcode.toNat with hbit | hbit <;>
      simp [Layout.fields, Layout.jumpField, hmode, hbit, Operand.displacement,
        Operand.immediate, Operand.register]
  | rcRbi =>
    unfold Layout.fields Layout.lastByte
    cases w.mode <;> rfl
  | _ => rfl

/-- The values of the two registers of a call decide whether it returns. -/
theorem isReturn_ofEntry (h : e.layout = .raRb) :
    (ofEntry e w).isReturn ↔ e.mnemonic = "calli" ∧ w.second = 0x80 ∧ w.third = 0x80 := by
  have hvalue (b : UInt8) : b.toUInt32 = returnRegister ↔ b = 0x80 := by
    rw [← UInt8.toUInt32_inj]
    rfl
  simp [isReturn, ofEntry, Layout.slots, Slots.ofList, h, Layout.fields, Operand.register, hvalue,
    and_assoc]

end Instruction

namespace Catalog

/-- The opcodes of relative jumps and calls. -/
def relativeOpcodes : List UInt8 := [0xA1, 0xA4, 0xA8, 0xAC, 0xB4]

theorem isRelative_iff : ∀ e ∈ catalog, e.isRelative ↔ e.opcode ∈ relativeOpcodes := by
  decide +kernel

theorem opClass_of_relative : ∀ e ∈ catalog, e.opcode ∈ relativeOpcodes →
    e.opClass =
      if e.opcode = 0xA1 then .jump else if e.opcode = 0xA8 then .call else .condJump := by
  decide +kernel

/-- One opcode calls through a register, and its word names two of them. -/
theorem mnemonic_eq_calli_iff : ∀ e ∈ catalog, e.mnemonic = "calli" ↔ e.opcode = 0xC8 := by
  decide +kernel

theorem layout_of_calli : ∀ e ∈ catalog, e.mnemonic = "calli" → e.layout = .raRb := by
  decide +kernel

end Catalog

namespace Config

variable {c : Config} {w : Word} {i : Instruction}

/-- The displacement of a decoded word is told by its opcode and two of its bytes. -/
theorem displacement?_of_decodeWord (h : c.decodeWord w = .ok i) :
    i.displacement? =
      if w.opcode ∈ Catalog.relativeOpcodes then some w.displacement else none := by
  rcases decodeWord_eq_ok_iff.1 h with ⟨rfl, rfl⟩ | ⟨-, e, he, rfl⟩
  · rfl
  · rw [Instruction.displacement?_ofEntry (opcode_of_lookup he), ← opcode_of_lookup he]
    simp only [Catalog.isRelative_iff e (mem_of_lookup he)]

theorem target?_of_decodeWord (h : c.decodeWord w = .ok i) (a : UInt32) :
    i.target? a =
      if w.opcode ∈ Catalog.relativeOpcodes then some (a + w.displacement) else none := by
  rw [Instruction.target?_eq_map, displacement?_of_decodeWord h]
  split <;> rfl

theorem isSome_target?_iff (h : c.decodeWord w = .ok i) (a : UInt32) :
    (i.target? a).isSome ↔ w.opcode ∈ Catalog.relativeOpcodes := by
  rw [target?_of_decodeWord h]
  split <;> simp [*]

theorem target?_eq_some_iff (h : c.decodeWord w = .ok i) {a t : UInt32} :
    i.target? a = some t ↔ w.opcode ∈ Catalog.relativeOpcodes ∧ a + w.displacement = t := by
  rw [target?_of_decodeWord h]
  split <;> simp [*]

theorem opClass_of_relative (h : c.decodeWord w = .ok i)
    (hw : w.opcode ∈ Catalog.relativeOpcodes) :
    i.opClass =
      if w.opcode = 0xA1 then .jump else if w.opcode = 0xA8 then .call else .condJump := by
  rcases decodeWord_eq_ok_iff.1 h with ⟨rfl, -⟩ | ⟨-, e, he, rfl⟩
  · exact absurd hw (by decide)
  · rw [← opcode_of_lookup he] at hw ⊢
    exact Catalog.opClass_of_relative e (mem_of_lookup he) hw

theorem isReturn_iff (h : c.decodeWord w = .ok i) :
    i.isReturn ↔ w.opcode = 0xC8 ∧ w.second = 0x80 ∧ w.third = 0x80 := by
  rcases decodeWord_eq_ok_iff.1 h with ⟨rfl, rfl⟩ | ⟨-, e, he, rfl⟩
  · decide
  · have hmem := mem_of_lookup he
    rw [← opcode_of_lookup he, ← Catalog.mnemonic_eq_calli_iff e hmem]
    by_cases hcalli : e.mnemonic = "calli"
    · exact Instruction.isReturn_ofEntry (Catalog.layout_of_calli e hmem hcalli)
    · simp [Instruction.isReturn, Instruction.ofEntry, hcalli]

/-- The relative jumps and calls are those whose opcode is one of five; they lead four times a
signed sixteen-bit number away, modulo `2 ^ 32`, and two of them meet only if they agree in that
number. A return is a call through the return register that saves into it, and has no target. -/
theorem flow_of_decodeWord (h : c.decodeWord w = .ok i) :
    (∀ a, (i.target? a).isSome ↔ w.opcode ∈ Catalog.relativeOpcodes) ∧
    (∀ a t, i.target? a = some t →
      (t.toNat : Int) =
          (a.toNat + 4 * (256 * w.first.toNat + w.third.toNat : Int).bmod (2 ^ 16)) % 2 ^ 32 ∧
        t.toNat % 4 = a.toNat % 4 ∧
        i.opClass =
          if w.opcode = 0xA1 then .jump else if w.opcode = 0xA8 then .call else .condJump) ∧
    (∀ (c' : Config) w' i' a t, c'.decodeWord w' = .ok i' → i.target? a = some t →
      i'.target? a = some t → w.first = w'.first ∧ w.third = w'.third) ∧
    (i.isReturn ↔ w.opcode = 0xC8 ∧ w.second = 0x80 ∧ w.third = 0x80) ∧
    ∀ a, ¬((i.target? a).isSome ∧ i.isReturn) := by
  refine ⟨isSome_target?_iff h, ?_, ?_, isReturn_iff h, ?_⟩
  · intro a t ht
    obtain ⟨hw, rfl⟩ := (target?_eq_some_iff h).1 ht
    have hsum := w.toNat_add_displacement a
    rw [Word.constant] at hsum
    push_cast at hsum
    exact ⟨hsum, by omega, opClass_of_relative h hw⟩
  · intro c' w' i' a t h' ht ht'
    obtain ⟨-, hsum⟩ := (target?_eq_some_iff h).1 ht
    obtain ⟨-, hsum'⟩ := (target?_eq_some_iff h').1 ht'
    rw [← hsum'] at hsum
    exact Word.displacement_inj.1 (UInt32.add_right_inj a |>.1 hsum)
  · rintro a ⟨htarget, hreturn⟩
    have hw := (isSome_target?_iff h a).1 htarget
    rw [((isReturn_iff h).1 hreturn).1] at hw
    exact absurd hw (by decide)

/-- A call two words back from address 4 goes to the last word of the address space. -/
theorem flow_of_call_below_zero :
    let c : Config := ⟨.am29000, true⟩
    let i : Instruction := ⟨"call", .call, .ofList [.register 0x80, .displacement 0xFFFFFFF8]⟩
    c.decodeWord ⟨0xA8, 0xFF, 0x80, 0xFE⟩ = .ok i ∧ i.target? 4 = some 0xFFFFFFFC ∧
      (0xFFFFFFFC : Int) = (4 + 4 * (256 * 0xFF + 0xFE : Int).bmod (2 ^ 16)) % 2 ^ 32 ∧
      i.opClass = .call ∧ ¬i.isReturn := by
  intro c i
  have hi : c.decodeWord ⟨0xA8, 0xFF, 0x80, 0xFE⟩ = .ok i := by decide +kernel
  have ht : i.target? 4 = some 0xFFFFFFFC := by decide +kernel
  obtain ⟨-, htarget, -, -, hexclusive⟩ := flow_of_decodeWord hi
  obtain ⟨hsum, -, hclass⟩ := htarget 4 0xFFFFFFFC ht
  exact ⟨hi, ht, hsum, hclass, fun hreturn => hexclusive 4 ⟨by rw [ht]; rfl, hreturn⟩⟩

end Config

end Am29000
