import Am29000.Proofs.Selection

/-!
Encodings are faithful: decoding drops no bit that its layout reads, and no two encodings are
merged. Main statement: two words that decode give the same instruction exactly when they have the
same opcode and agree in the operand bits that the layout of its entry reads.
-/
namespace Am29000

namespace Layout

theorem agree_refl (l : Layout) (w : Word) : l.Agree w w :=
  ⟨fun _ _ => rfl, fun _ _ => rfl, fun _ _ => rfl⟩

/-- A layout that reads every operand bit leaves only the opcode open. -/
theorem eq_of_agree {w v : Word} (hopcode : w.opcode = v.opcode) (h : rcRaRbi.Agree w v) :
    w = v := by
  obtain ⟨hfirst, hsecond, hthird⟩ := h
  have hfirst := sameBits_eight.1 hfirst
  have hsecond := sameBits_eight.1 hsecond
  have hthird := sameBits_eight.1 hthird
  cases w
  cases v
  simp_all

end Layout

namespace Instruction

variable {e f : Entry} {w v : Word}

theorem ofEntry_ne_nop (he : e ∈ catalog) : ofEntry e w ≠ nop := by
  intro h
  exact Catalog.mnemonic_ne_nop e he (congrArg mnemonic h)

/-- What two entries make of two words is the same only for one opcode, although some names stand
in the catalog twice. -/
theorem opcode_eq_of_ofEntry_eq (he : e ∈ catalog) (hf : f ∈ catalog) (hw : e.opcode = w.opcode)
    (hv : f.opcode = v.opcode) (h : ofEntry e w = ofEntry f v) : w.opcode = v.opcode := by
  obtain ⟨hname, hclass, hslots⟩ := Instruction.mk.inj h
  by_contra hne
  have hef : e ≠ f := by
    rintro rfl
    exact hne (hw.symm.trans hv)
  obtain ⟨hlayout, hmodal, hbit⟩ := Catalog.apart_of_mem he hf hclass hef hname
  rw [← hlayout] at hslots
  have hmode := ((e.layout.fields_eq_iff w v).1 ((e.layout.slots_inj _ w v).1 hslots)).1 hmodal
  rw [hw, hv] at hbit
  unfold Word.mode at hmode
  simp only [decide_eq_decide] at hmode
  omega

theorem ofEntry_eq_iff (hopcode : w.opcode = v.opcode) :
    ofEntry e w = ofEntry e v ↔ e.layout.Agree w v := by
  have hmode : w.mode = v.mode := by simp only [Word.mode, hopcode]
  simp only [ofEntry, mk.injEq, true_and, Layout.slots_inj, Layout.fields_eq_iff, hmode,
    implies_true]

end Instruction

namespace Config

/-- Two words that decode give the same instruction exactly when their opcodes are the same and
they agree in the bits that the layout of the opcode's entry reads. -/
theorem decodeWord_eq_decodeWord_iff {c : Config} {w v : Word} {i j : Instruction}
    (hw : c.decodeWord w = .ok i) (hv : c.decodeWord v = .ok j) :
    c.decodeWord w = c.decodeWord v ↔
      w.opcode = v.opcode ∧ ∃ e, c.lookup w.opcode = some e ∧ e.layout.Agree w v := by
  obtain ⟨r, hr, hlayout⟩ := c.lookup_reservedNop
  rw [hw, hv, Except.ok.injEq]
  rcases decodeWord_eq_ok_iff.1 hw with ⟨rfl, rfl⟩ | ⟨hw', e, he, rfl⟩ <;>
    rcases decodeWord_eq_ok_iff.1 hv with ⟨rfl, rfl⟩ | ⟨hv', f, hf, rfl⟩
  · exact ⟨fun _ => ⟨rfl, r, hr, r.layout.agree_refl _⟩, fun _ => rfl⟩
  -- the entry for the opcode of the reserved word reads every bit, so no other word agrees with it
  · constructor
    · intro h
      exact absurd h.symm (Instruction.ofEntry_ne_nop (mem_of_lookup hf))
    · rintro ⟨hopcode, e, he, hagree⟩
      obtain rfl := Option.some.inj (he.symm.trans hr)
      exact absurd (Layout.eq_of_agree hopcode (hlayout ▸ hagree)).symm hv'
  · constructor
    · intro h
      exact absurd h (Instruction.ofEntry_ne_nop (mem_of_lookup he))
    · rintro ⟨hopcode, f, hf, hagree⟩
      rw [hopcode] at hf
      obtain rfl := Option.some.inj (hf.symm.trans hr)
      exact absurd (Layout.eq_of_agree hopcode (hlayout ▸ hagree)) hw'
  · constructor
    · intro h
      have hopcode := Instruction.opcode_eq_of_ofEntry_eq (mem_of_lookup he) (mem_of_lookup hf)
        (opcode_of_lookup he) (opcode_of_lookup hf) h
      obtain rfl := Option.some.inj ((hopcode ▸ he).symm.trans hf)
      exact ⟨hopcode, e, he, (Instruction.ofEntry_eq_iff hopcode).1 h⟩
    · rintro ⟨hopcode, g, hg, hagree⟩
      obtain rfl := Option.some.inj (hg.symm.trans he)
      obtain rfl := Option.some.inj ((hopcode ▸ hg).symm.trans hf)
      exact (Instruction.ofEntry_eq_iff hopcode).2 hagree

/-- The first operand byte and the high half of the third do not count for `mtacc`. -/
theorem mtacc_ignores_unread_bits :
    let c : Config := ⟨.am29050, true⟩
    let i : Instruction := ⟨"mtacc", .unclassified,
      .ofList [.register 5, .immediate 3, .immediate 1]⟩
    c.decodeWord ⟨0xE8, 0x00, 0x05, 0x0D⟩ = .ok i ∧ c.decodeWord ⟨0xE8, 0xFF, 0x05, 0xFD⟩ = .ok i ∧
      (c.decodeWord ⟨0xE8, 0x00, 0x05, 0x0D⟩ = c.decodeWord ⟨0xE8, 0xFF, 0x05, 0xFD⟩ ↔
        (0xE8 : UInt8) = 0xE8 ∧ ∃ e, c.lookup 0xE8 = some e ∧
          e.layout.Agree ⟨0xE8, 0x00, 0x05, 0x0D⟩ ⟨0xE8, 0xFF, 0x05, 0xFD⟩) := by
  intro c i
  have hw : c.decodeWord ⟨0xE8, 0x00, 0x05, 0x0D⟩ = .ok i := by decide +kernel
  have hv : c.decodeWord ⟨0xE8, 0xFF, 0x05, 0xFD⟩ = .ok i := by decide +kernel
  exact ⟨hw, hv, decodeWord_eq_decodeWord_iff hw hv⟩

end Config

end Am29000
