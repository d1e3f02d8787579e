import Am29000.Decode
import Am29000.Proofs.Fields

/-!
Which catalog entry a decoder takes: facts about the catalog as a whole, the choice of strict and of
other decoders, and what decoding a word can give.
-/
namespace Am29000

namespace Catalog

/-- Entries of one name have one layout, in which the mode bit types a field, and their opcodes
differ in that bit. -/
def Apart (e f : Entry) : Prop :=
  e.mnemonic = f.mnemonic →
    e.layout = f.layout ∧ e.layout.isModal ∧ e.opcode.toNat % 2 ≠ f.opcode.toNat % 2

instance (e f : Entry) : Decidable (Apart e f) := by
  unfold Apart
  infer_instance

instance : Std.Symm Apart where
  symm e f h hname := by
    obtain ⟨hlayout, hmodal, hmode⟩ := h hname.symm
    exact ⟨hlayout.symm, hlayout ▸ hmodal, hmode.symm⟩

/-- The catalog is taken class by class, which leaves few pairs of names to compare. -/
theorem pairwise_apart : ∀ k ∈ OpClass.all,
    (catalog.filter fun e => e.opClass = k).Pairwise Apart := by
  decide +kernel

theorem apart_of_mem {e f : Entry} (he : e ∈ catalog) (hf : f ∈ catalog)
    (hclass : e.opClass = f.opClass) (hne : e ≠ f) : Apart e f := by
  have hpairs := (pairwise_apart e.opClass (OpClass.mem_all e.opClass)).forall
  exact hpairs (by simpa using he) (by simpa using ⟨hf, hclass.symm⟩) hne

theorem mnemonic_ne_nop : ∀ e ∈ catalog, e.mnemonic ≠ Instruction.nop.mnemonic := by
  decide +kernel

/-- Every entry belongs to a part. -/
theorem exists_part : ∀ e ∈ catalog, ∃ p ∈ [Part.am29000, .am29050], e.parts.contains p.toSet := by
  decide +kernel

end Catalog

namespace Config

variable {c : Config} {w : Word} {i : Instruction} {b : UInt8} {e : Entry}

theorem lookup_eq_find? (c : Config) (b : UInt8) :
    c.lookup b = (Catalog.entriesFor b).find? c.admits := by
  simp only [lookup, Catalog.entriesFor, List.find?_filter, decide_eq_true_eq, Bool.decide_and,
    Bool.decide_eq_true]

theorem mem_of_lookup (h : c.lookup b = some e) : e ∈ catalog := List.mem_of_find?_eq_some h

/-- The opcode of the reserved word names an instruction of every part. -/
theorem lookup_reservedNop (c : Config) :
    ∃ e, c.lookup Instruction.reservedNop.opcode = some e ∧ e.layout = .rcRaRbi := by
  obtain ⟨p, s⟩ := c
  refine ⟨.common "aseq" .compare 0x70 .rcRaRbi, ?_, rfl⟩
  cases p <;> cases s <;> decide +kernel

/-- Some strict decoder takes the same entry as a decoder that is not strict. -/
theorem exists_lookup_strict (p : Part) (b : UInt8) :
    ∃ q, (Config.mk q true).lookup b = (Config.mk p false).lookup b := by
  rw [lookup_lenient]
  cases hentries : Catalog.entriesFor b with
  | nil => exact ⟨p, by rw [lookup_eq_find?, hentries]; rfl⟩
  | cons e rest =>
    have hmem : e ∈ catalog := by
      have : e ∈ Catalog.entriesFor b := by simp [hentries]
      exact List.mem_of_mem_filter this
    obtain ⟨q, -, hq⟩ := Catalog.exists_part e hmem
    refine ⟨q, ?_⟩
    rw [lookup_eq_find?, hentries, List.find?_cons_of_pos (by simpa [admits] using hq)]
    rfl

/-- What a decoder that is not strict does not know, no decoder knows. -/
theorem lookup_eq_none_of_lenient {p : Part} (h : (Config.mk p false).lookup b = none)
    (c : Config) : c.lookup b = none := by
  rw [lookup_lenient, List.head?_eq_none_iff] at h
  rw [lookup_eq_find?, h]
  rfl

/-- A word decodes as the reserved one, or as its entry says. -/
theorem decodeWord_eq_ok_iff :
    c.decodeWord w = .ok i ↔
      (w = Instruction.reservedNop ∧ i = .nop) ∨
        (w ≠ Instruction.reservedNop ∧ ∃ e, c.lookup w.opcode = some e ∧ i = .ofEntry e w) := by
  unfold decodeWord
  split
  next hw => simp [hw, eq_comm]
  next hw =>
    cases hl : c.lookup w.opcode with
    | none => simp [hw]
    | some e => simp [hw, eq_comm]

theorem decodeWord_eq_error_iff {d : DecodeError} :
    c.decodeWord w = .error d ↔
      w ≠ Instruction.reservedNop ∧ c.lookup w.opcode = none ∧ d = .unknownOpcode w.opcode := by
  unfold decodeWord
  split
  next hw => simp [hw]
  next hw =>
    cases hl : c.lookup w.opcode with
    | none => simp [hw, eq_comm]
    | some e => simp

theorem decode_eq_ok_iff {bytes : List UInt8} :
    c.decode bytes = .ok i ↔
      ∃ w, Word.ofList? (bytes.take 4) = some w ∧ c.decodeWord w = .ok i := by
  unfold decode
  cases Word.ofList? (bytes.take 4) <;> simp

end Config

end Am29000
