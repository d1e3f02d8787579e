import Am29000.Proofs.Encoding
import Am29000.Proofs.Labels
import Am29000.Proofs.Strictness

/-!
What decoding answers. Main statement: which of its answers a buffer and a label get. A label that
is long enough has no say in the answer, and neither has what follows the first word.
-/
namespace Am29000

namespace Word

variable {bytes : List UInt8}

theorem exists_eq_toList_append (h : 4 ≤ bytes.length) :
    ∃ (w : Word) (rest : List UInt8), bytes = w.toList ++ rest := by
  match bytes, h with
  | b0 :: b1 :: b2 :: b3 :: rest, _ => exact ⟨⟨b0, b1, b2, b3⟩, rest, rfl⟩

theorem ofList?_take_eq_none (h : bytes.length < 4) : ofList? (bytes.take 4) = none := by
  rw [List.take_of_length_le h.le]
  unfold ofList?
  split
  next => simp at h
  next => rfl

end Word

namespace Config

variable {c : Config} {bytes bytes' : List UInt8} {w : Word} {i : Instruction} {b : UInt8}

/-- Without a label every opcode of the catalog is known. -/
theorem lookup_unlabelled_eq_none_iff :
    unlabelled.lookup b = none ↔ ∀ e ∈ catalog, e.opcode ≠ b := by
  rw [unlabelled, lookup_lenient, List.head?_eq_none_iff, Catalog.entriesFor,
    List.filter_eq_nil_iff]
  simp

theorem decodeWord_unlabelled_eq_error_iff {d : DecodeError} :
    unlabelled.decodeWord w = .error d ↔
      (∀ e ∈ catalog, e.opcode ≠ w.opcode) ∧ d = .unknownOpcode w.opcode := by
  rw [decodeWord_eq_error_iff, lookup_unlabelled_eq_none_iff]
  constructor
  · exact fun h => h.2
  · rintro ⟨hnone, rfl⟩
    refine ⟨?_, hnone, rfl⟩
    rintro rfl
    obtain ⟨e, he, -⟩ := unlabelled.lookup_reservedNop
    exact hnone e (mem_of_lookup he) (opcode_of_lookup he)

theorem exists_decodeWord_unlabelled_iff :
    (∃ i, unlabelled.decodeWord w = .ok i) ↔ ∃ e ∈ catalog, e.opcode = w.opcode := by
  constructor
  · rintro ⟨i, hi⟩
    by_contra hnone
    push Not at hnone
    rw [decodeWord_unlabelled_eq_error_iff.2 ⟨hnone, rfl⟩] at hi
    cases hi
  · rintro ⟨e, he, hopcode⟩
    cases hw : unlabelled.decodeWord w with
    | ok i => exact ⟨i, rfl⟩
    | error d => exact absurd hopcode ((decodeWord_unlabelled_eq_error_iff.1 hw).1 e he)

/-- Only the reserved word decodes to the instruction that does nothing. -/
theorem eq_nop_iff_of_decodeWord (h : c.decodeWord w = .ok i) :
    i = .nop ↔ w = Instruction.reservedNop := by
  rcases decodeWord_eq_ok_iff.1 h with ⟨rfl, rfl⟩ | ⟨hw, e, he, rfl⟩
  · simp
  · simp [hw, Instruction.ofEntry_ne_nop (mem_of_lookup he)]

section Buffer

theorem decode_of_length_lt (c : Config) (h : bytes.length < 4) :
    c.decode bytes = .error (.input (.shortBuffer bytes.length)) := by
  rw [decode, Word.ofList?_take_eq_none h]

theorem decode_toList_append (c : Config) (w : Word) (rest : List UInt8) :
    c.decode (w.toList ++ rest) = c.decodeWord w := rfl

/-- Only the first word of a buffer counts. -/
theorem decode_eq_decode (c : Config) (h : 4 ≤ bytes.length) (h' : 4 ≤ bytes'.length)
    (htake : bytes.take 4 = bytes'.take 4) : c.decode bytes = c.decode bytes' := by
  obtain ⟨w, rest, rfl⟩ := Word.exists_eq_toList_append h
  obtain ⟨w', rest', rfl⟩ := Word.exists_eq_toList_append h'
  have hw : some w = some w' := congrArg Word.ofList? htake
  rw [decode_toList_append, decode_toList_append, Option.some.inj hw]

theorem decode_eq_input_iff {e : InputError} :
    c.decode bytes = .error (.input e) ↔ bytes.length < 4 ∧ e = .shortBuffer bytes.length := by
  rcases Nat.lt_or_ge bytes.length 4 with hshort | hlong
  · simp [decode_of_length_lt c hshort, hshort, eq_comm]
  · have hnot : ¬bytes.length < 4 := Nat.not_lt.2 hlong
    obtain ⟨w, rest, rfl⟩ := Word.exists_eq_toList_append hlong
    rw [decode_toList_append, decodeWord_eq_error_iff]
    simp only [reduceCtorEq, and_false, hnot, false_and]

theorem decode_unlabelled_eq_unknownOpcode_iff :
    unlabelled.decode bytes = .error (.unknownOpcode b) ↔
      4 ≤ bytes.length ∧ bytes.head? = some b ∧ ∀ e ∈ catalog, e.opcode ≠ b := by
  rcases Nat.lt_or_ge bytes.length 4 with hshort | hlong
  · simp [decode_of_length_lt unlabelled hshort, Nat.not_le.2 hshort]
  · obtain ⟨w, rest, rfl⟩ := Word.exists_eq_toList_append hlong
    have hhead : (w.toList ++ rest).head? = some w.opcode := rfl
    rw [decode_toList_append, decodeWord_unlabelled_eq_error_iff, hhead]
    constructor
    · rintro ⟨hnone, hb⟩
      obtain rfl := DecodeError.unknownOpcode.inj hb
      exact ⟨hlong, rfl, hnone⟩
    · rintro ⟨-, hb, hnone⟩
      obtain rfl := Option.some.inj hb
      exact ⟨hnone, rfl⟩

theorem exists_decode_unlabelled_iff :
    (∃ i, unlabelled.decode bytes = .ok i) ↔
      4 ≤ bytes.length ∧ ∃ e ∈ catalog, bytes.head? = some e.opcode := by
  rcases Nat.lt_or_ge bytes.length 4 with hshort | hlong
  · simp [decode_of_length_lt unlabelled hshort, Nat.not_le.2 hshort]
  · obtain ⟨w, rest, rfl⟩ := Word.exists_eq_toList_append hlong
    have hhead : (w.toList ++ rest).head? = some w.opcode := rfl
    rw [decode_toList_append, exists_decodeWord_unlabelled_iff, hhead]
    simp only [hlong, true_and, Option.some.injEq, eq_comm]

theorem eq_nop_iff_of_decode (h : c.decode bytes = .ok i) :
    i = .nop ↔ bytes.take 4 = Instruction.reservedNop.toList := by
  rcases Nat.lt_or_ge bytes.length 4 with hshort | hlong
  · rw [decode_of_length_lt c hshort] at h
    cases h
  · obtain ⟨w, rest, rfl⟩ := Word.exists_eq_toList_append hlong
    rw [decode_toList_append] at h
    rw [eq_nop_iff_of_decodeWord h]
    constructor
    · rintro rfl
      rfl
    · intro htake
      exact Option.some.inj (congrArg Word.ofList? htake)

end Buffer

end Config

section Label

variable {bytes : List UInt8} {label : Option String}

/-- A label that is long enough has no say in the answer. -/
theorem decode_of_longEnough (h : Config.LongEnough label) (bytes : List UInt8) :
    decode bytes label = Config.unlabelled.decode bytes := by
  obtain ⟨c, hc⟩ := Config.exists_ofLabel_iff.2 h
  have hlenient : c = ⟨c.part, false⟩ := by rw [← Config.strict_of_ofLabel hc]
  rw [decode, hc]
  exact hlenient ▸ Config.decode_lenient c.part .am29000 bytes

theorem decode_of_short {l : String} (h : l.length < 5) (bytes : List UInt8) :
    decode bytes (some l) = .error (.input (.malformedLabel l)) := by
  rw [decode, Config.ofLabel_eq_error_iff.2 ⟨l, rfl, h, rfl⟩]

/-- Every buffer and label get one answer. A label that is too short is reported whatever the buffer
is, then a buffer without a whole word, then an opcode that is not in the catalog; all else decodes,
and only the reserved word to the instruction that does nothing. Two labels that are long enough
make no difference, and neither does what follows the first word. -/
theorem decode_classified (bytes : List UInt8) (label : Option String) :
    (∀ l, decode bytes label = .error (.input (.malformedLabel l)) ↔
      label = some l ∧ l.length < 5) ∧
    (∀ n, decode bytes label = .error (.input (.shortBuffer n)) ↔
      Config.LongEnough label ∧ bytes.length < 4 ∧ n = bytes.length) ∧
    (∀ b, decode bytes label = .error (.unknownOpcode b) ↔
      Config.LongEnough label ∧ 4 ≤ bytes.length ∧ bytes.head? = some b ∧
        ∀ e ∈ catalog, e.opcode ≠ b) ∧
    ((∃ i, decode bytes label = .ok i) ↔
      Config.LongEnough label ∧ 4 ≤ bytes.length ∧ ∃ e ∈ catalog, bytes.head? = some e.opcode) ∧
    (∀ i, decode bytes label = .ok i →
      (i.mnemonic = "nop" ∧ i.opClass = .nop ∧ i.slots = .empty ↔
        bytes.take 4 = [0x70, 0x40, 0x01, 0x01])) ∧
    ∀ bytes' label', Config.LongEnough label → Config.LongEnough label' →
      4 ≤ bytes.length → 4 ≤ bytes'.length → bytes.take 4 = bytes'.take 4 →
        decode bytes label = decode bytes' label' := by
  by_cases hlabel : Config.LongEnough label
  · have hnot (l : String) : ¬(label = some l ∧ l.length < 5) := by
      rintro ⟨hl, hshort⟩
      have := hlabel l hl
      omega
    simp only [decode_of_longEnough hlabel, hlabel, true_and]
    refine ⟨?_, ?_, ?_, ?_, ?_, ?_⟩
    · intro l
      simp [Config.decode_eq_input_iff, hnot]
    · intro n
      simp [Config.decode_eq_input_iff]
    · intro b
      exact Config.decode_unlabelled_eq_unknownOpcode_iff
    · exact Config.exists_decode_unlabelled_iff
    · intro i hi
      have hnop := Config.eq_nop_iff_of_decode hi
      obtain ⟨mnemonic, opClass, slots⟩ := i
      simp only [Instruction.nop, Instruction.mk.injEq] at hnop
      exact hnop
    · intro bytes' label' _ hlabel' h h' htake
      rw [decode_of_longEnough hlabel']
      exact Config.unlabelled.decode_eq_decode h h' htake
  · obtain ⟨l, rfl, hshort⟩ : ∃ l, label = some l ∧ l.length < 5 := by
      simpa [Config.LongEnough] using hlabel
    simp only [decode_of_short hshort, hlabel, false_and]
    refine ⟨?_, ?_, ?_, ?_, ?_, ?_⟩
    · intro l'
      constructor
      · rintro ⟨⟩
        exact ⟨rfl, hshort⟩
      · rintro ⟨⟨⟩, -⟩
        rfl
    all_goals simp

end Label

end Am29000
