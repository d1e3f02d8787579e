import Am29000.Proofs.Sweep
import Am29000.Proofs.WellFormed

/-!
Targets of branches. A target is a displacement from the address of its instruction, and every
displacement of a decoded word is a whole number of words. Main statement: a target within the words
that a sweep lists is the address of one of its lines.
-/
namespace Am29000

namespace Instruction

/-- What the target of an instruction adds to its own address. -/
def displacement? (i : Instruction) : Option UInt32 :=
  match i.slots.operands? with
  | some [⟨.displacement, d⟩] => some d
  | some [⟨.register, _⟩, ⟨.displacement, d⟩] => some d
  | _ => none

theorem target?_eq_map (i : Instruction) (a : UInt32) :
    i.target? a = i.displacement?.map (a + ·) := by
  unfold target? displacement?
  split <;> simp [*]

theorem target?_eq_some_iff {i : Instruction} {a t : UInt32} :
    i.target? a = some t ↔ ∃ d, i.displacement? = some d ∧ a + d = t := by
  rw [target?_eq_map, Option.map_eq_some_iff]

theorem exists_operands_of_displacement? {i : Instruction} {d : UInt32}
    (h : i.displacement? = some d) :
    ∃ os, i.slots.operands? = some os ∧ Operand.displacement d ∈ os := by
  unfold displacement? at h
  split at h
  next hos =>
    obtain rfl := Option.some.inj h
    exact ⟨_, hos, by simp [Operand.displacement]⟩
  next hos =>
    obtain rfl := Option.some.inj h
    exact ⟨_, hos, by simp [Operand.displacement]⟩
  next => simp at h

end Instruction

namespace Config

variable {c : Config} {w : Word} {i : Instruction} {d : UInt32}

/-- The displacement of a decoded word is a multiple of four within reach. -/
theorem inReach_of_displacement? (h : c.decodeWord w = .ok i) (hd : i.displacement? = some d) :
    InReach d := by
  obtain ⟨os, hos, hmem⟩ := Instruction.exists_operands_of_displacement? hd
  rcases decodeWord_eq_ok_iff.1 h with ⟨-, rfl⟩ | ⟨-, e, -, rfl⟩
  · obtain rfl : [] = os := Option.some.inj hos
    simp at hmem
  · rw [Instruction.ofEntry, Layout.operands?_slots] at hos
    obtain rfl := Option.some.inj hos
    exact e.layout.within_fields w _ hmem

end Config

namespace Line

theorem target?_ofWord_eq_some_iff {c : Config} {a t : UInt32} {w : Word} :
    (ofWord c a w).target? = some t ↔ ∃ i, c.decodeWord w = .ok i ∧ i.target? a = some t := by
  unfold ofWord
  cases c.decodeWord w <;> simp [ofInstruction, rejected]

/-- A target lies a whole number of words before or after its instruction, even if it wrapped
around. -/
theorem target?_mod_four {c : Config} {a t : UInt32} {w : Word}
    (h : (ofWord c a w).target? = some t) : t.toNat % 4 = a.toNat % 4 := by
  obtain ⟨i, hi, ht⟩ := target?_ofWord_eq_some_iff.1 h
  obtain ⟨d, hd, rfl⟩ := Instruction.target?_eq_some_iff.1 ht
  obtain ⟨q, hq⟩ := (Config.inReach_of_displacement? hi hd).1
  rw [UInt32.toNat_add, hq]
  omega

end Line

namespace Image

variable {m : Image} {c : Config} {start stop t : UInt32} {l : Line}

theorem address_mod_four_of_mem_sweep (h : l ∈ m.sweep c start stop) :
    l.address.toNat % 4 = start.toNat % 4 := by
  obtain ⟨k, hk⟩ := List.mem_iff_getElem?.1 h
  have := toNat_address_sweep hk
  omega

theorem target_mod_four_of_mem_sweep (h : l ∈ m.sweep c start stop) (ht : l.target? = some t) :
    t.toNat % 4 = start.toNat % 4 := by
  rw [← address_mod_four_of_mem_sweep h]
  obtain ⟨a, w, rfl⟩ := exists_ofWord_of_mem_sweep h
  rw [Line.address_ofWord]
  exact Line.target?_mod_four ht

/-- A branch into the words that a sweep lists lands on the line of one of them, the one that the
distance from the start tells, and never inside a word. -/
theorem sweep_lists_target (hl : l ∈ m.sweep c start stop) (ht : l.target? = some t)
    (hstart : start ≤ t) (hstop : t.toNat < start.toNat + 4 * (m.sweep c start stop).length) :
    (∃ l', (m.sweep c start stop)[(t.toNat - start.toNat) / 4]? = some l' ∧ l'.address = t) ∧
      ∀ l' ∈ m.sweep c start stop,
        ¬(l'.address.toNat < t.toNat ∧ t.toNat < l'.address.toNat + 4) := by
  have hmod := target_mod_four_of_mem_sweep hl ht
  have hle := UInt32.le_iff_toNat_le.1 hstart
  constructor
  · have hlt : (t.toNat - start.toNat) / 4 < (m.sweep c start stop).length := by omega
    have hl' := List.getElem?_eq_getElem hlt
    have haddress := toNat_address_sweep hl'
    exact ⟨_, hl', UInt32.toNat_inj.1 (by omega)⟩
  · intro l' hl'
    have := address_mod_four_of_mem_sweep hl'
    omega

/-- A jump back by one word, in a listing that starts at an odd multiple of two. -/
theorem sweep_lists_target_backwards :
    let m : Image := ⟨[⟨"loop", 0x102, #[0x70, 0x40, 0x01, 0x01, 0xA1, 0xFF, 0x00, 0xFF], "r-x",
      "raw"⟩]⟩
    let c : Config := ⟨.am29050, true⟩
    let l := Line.ofWord c 0x106 ⟨0xA1, 0xFF, 0x00, 0xFF⟩
    l ∈ m.sweep c 0x102 0x10B ∧ l.target? = some 0x102 ∧
      (∃ l', (m.sweep c 0x102 0x10B)[0]? = some l' ∧ l'.address = 0x102) ∧
        ∀ l' ∈ m.sweep c 0x102 0x10B,
          ¬(l'.address.toNat < 0x102 ∧ 0x102 < l'.address.toNat + 4) := by
  intro m c l
  have hwords : m.words 0x102 0x10B =
      [(0x102, Instruction.reservedNop), (0x106, ⟨0xA1, 0xFF, 0x00, 0xFF⟩)] := by decide +kernel
  have hl : l ∈ m.sweep c 0x102 0x10B := by simp [sweep_eq_map, hwords, l]
  have ht : l.target? = some 0x102 := by decide +kernel
  have hlength : (m.sweep c 0x102 0x10B).length = 2 := by simp [hwords]
  exact ⟨hl, ht, sweep_lists_target hl ht (by decide) (by rw [hlength]; decide)⟩

end Image

end Am29000
