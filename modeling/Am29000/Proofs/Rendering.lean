import Am29000.Proofs.Spelling

/-!
What the text of an instruction shows. Main statements: text and target agree at every address, as
the text ends in the target exactly where there is one; the text of a decoded word shows each of its
operands in turn, but for the rows of operands that have no layout.
-/
namespace Am29000

namespace Layout

/-- Layouts that leave their operands out of the text: the selector pairs, and a memory access whose
last operand is an immediate. -/
def Unwritten (l : Layout) (w : Word) : Prop :=
  l = .access ∧ w.opcode.toNat % 2 = 1 ∨ l = .rcPair ∨ l = .raPair

instance (l : Layout) (w : Word) : Decidable (l.Unwritten w) := by
  unfold Unwritten
  infer_instance

theorem map_kind_mem_laidOut_iff {l : Layout} (hl : l ≠ .bare) (w : Word) :
    (l.fields w).map Operand.kind ∈ Instruction.laidOut ↔ ¬l.Unwritten w := by
  have hmode : w.mode = decide (w.opcode.toNat % 2 = 1) := rfl
  rcases Nat.mod_two_eq_zero_or_one w.opcode.toNat with hbit | hbit <;>
    cases l <;>
      simp [fields, kind_lastByte, kind_jumpField, field, Operand.register, Operand.immediate,
        hmode, hbit, Unwritten, Instruction.laidOut] at hl ⊢

/-- The longer rows are those of four and of six operands. -/
theorem four_le_length_fields_iff (l : Layout) (w : Word) :
    4 ≤ (l.fields w).length ↔ (l.fields w).length = 4 ∨ (l.fields w).length = 6 := by
  cases l <;> simp [fields]

end Layout

namespace Instruction

variable {i : Instruction} {e : Entry} {w : Word} {a : UInt32}

/-- The mnemonic and the tokens stand with one space between them. -/
theorem text_eq_intercalate (i : Instruction) (a : UInt32) :
    i.text a = String.intercalate " " (i.mnemonic :: i.tokens a) := by
  have hjoin (ts : List String) (s : String) :
      s ++ String.join (ts.map (" " ++ ·)) = String.intercalate " " (s :: ts) := by
    induction ts generalizing s with
    | nil => simp
    | cons t ts ih =>
      rw [List.map_cons, String.join_cons, String.intercalate_cons_cons, ← ih t]
      simp only [String.append_assoc]
  exact hjoin (i.tokens a) i.mnemonic

theorem tokens_ofEntry (e : Entry) (w : Word) (a : UInt32) :
    (ofEntry e w).tokens a =
      if e.layout.Unwritten w then []
      else (e.layout.fields w).map (Operand.token (4 ≤ (e.layout.fields w).length) a) := by
  unfold tokens
  rw [ofEntry, Layout.operands?_slots]
  dsimp only
  by_cases hbare : e.layout = .bare
  · simp [hbare, Layout.fields, laidOut, Layout.Unwritten]
  · simp only [Layout.map_kind_mem_laidOut_iff hbare, ite_not]

/-- The tokens of an entry's row are those of its operands, or none at all. -/
theorem forall₂_shown_tokens (h : ¬e.layout.Unwritten w) (a : UInt32) :
    List.Forall₂ (Operand.Shown ((ofEntry e w).arity = 4 ∨ (ofEntry e w).arity = 6) a)
      (ofEntry e w).slots.populated ((ofEntry e w).tokens a) := by
  have hwide : (decide (4 ≤ (e.layout.fields w).length) = true) =
      ((ofEntry e w).arity = 4 ∨ (ofEntry e w).arity = 6) := by
    rw [arity, ofEntry, Layout.arity_slots, decide_eq_true_eq]
    exact propext (e.layout.four_le_length_fields_iff w)
  rw [tokens_ofEntry, if_neg h, ← hwide, ofEntry, Layout.populated_slots]
  refine forall₂_map fun o ho => ?_
  exact Operand.shown_token ((e.layout.leading_fields w).used o ho) _ a

/-- A displacement counts alone or behind one register, with nothing but unused slots after it. -/
theorem isSome_displacement?_iff (i : Instruction) :
    i.displacement?.isSome ↔
      i.slots.kinds = Slots.fullRow [.displacement] ∨
        i.slots.kinds = Slots.fullRow [.register, .displacement] := by
  constructor
  · intro h
    unfold displacement? at h
    split at h
    next hos => exact .inl (Slots.kinds_of_operands? hos)
    next hos => exact .inr (Slots.kinds_of_operands? hos)
    next => simp at h
  · have hrow {ks : List Kind} (hlaid : ks ∈ laidOut) (hused : .unused ∉ ks)
        (hmem : .displacement ∈ ks) (h : i.slots.kinds = Slots.fullRow ks) :
        i.displacement?.isSome := by
      have hkinds := Slots.map_kind_take_of_kinds h
      rw [← hkinds] at hlaid hmem
      obtain ⟨d, hd⟩ := exists_displacement? (Slots.operands?_of_kinds hused h) hlaid hmem
      rw [hd]
      rfl
    rintro (h | h)
    · exact hrow (by decide) (by decide) (by decide) h
    · exact hrow (by decide) (by decide) (by decide) h

/-- A text that ends in a space and an address, which is written in lower-case hexadecimal with its
marker and without zeros in front. -/
def EndsIn (s front : String) (t : UInt32) : Prop :=
  ∃ digits, s = front ++ " 0x" ++ digits ∧ Numeral.Plain 16 digits t.toNat

/-- With a displacement a text ends in the target, behind a front that does not depend on the
address. -/
theorem exists_endsIn {d : UInt32} (h : i.displacement? = some d) :
    ∃ front, ∀ a, EndsIn (i.text a) front (a + d) := by
  obtain ⟨front, hfront⟩ := exists_text_eq h
  refine ⟨front, fun a => ⟨Numeral.hex (a + d).toNat, ?_, Numeral.plain_hex _⟩⟩
  rw [hfront, Numeral.hexMarked, show " 0x" = " " ++ "0x" from rfl]
  simp only [String.append_assoc]

/-- A displacement alone or behind one register has a target. Where an instruction has one, its text
ends in it, at this address and at every other, and what stands in front does not depend on the
address. Where it has none, it has none at any address, and its text is the same at all of them. -/
theorem text_agrees_with_target (i : Instruction) (a : UInt32) :
    ((i.target? a).isSome ↔ i.slots.kinds = Slots.fullRow [.displacement] ∨
      i.slots.kinds = Slots.fullRow [.register, .displacement]) ∧
    (∀ t, i.target? a = some t →
      ∃ front, EndsIn (i.text a) front t ∧
        ∀ b, ∃ u, i.target? b = some u ∧ EndsIn (i.text b) front u) ∧
    (i.target? a = none → ∀ b, i.target? b = none ∧ i.text b = i.text a) := by
  refine ⟨?_, ?_, ?_⟩
  · rw [target?_eq_map, Option.isSome_map, isSome_displacement?_iff]
  · intro t ht
    obtain ⟨d, hd, rfl⟩ := target?_eq_some_iff.1 ht
    obtain ⟨front, hends⟩ := exists_endsIn hd
    exact ⟨front, hends a, fun b => ⟨b + d, target?_eq_some_iff.2 ⟨d, hd, rfl⟩, hends b⟩⟩
  · intro ht b
    have hnone : i.displacement? = none := by
      rwa [target?_eq_map, Option.map_eq_none_iff] at ht
    refine ⟨?_, text_eq_text hnone b a⟩
    rw [target?_eq_map, hnone, Option.map_none]

end Instruction

namespace Config

variable {c : Config} {w : Word} {i : Instruction}

theorem space_notMem_of_decodeWord (h : c.decodeWord w = .ok i) (a : UInt32) :
    ∀ t ∈ i.mnemonic :: i.tokens a, ' ' ∉ t.toList := by
  rw [List.forall_mem_cons]
  refine ⟨(isToken_mnemonic_of_decodeWord h).notMem (by decide), fun t ht => ?_⟩
  exact (Instruction.isToken_of_mem_tokens ht).notMem (by decide)

/-- The reserved word has no operands, and every other word those of its entry. -/
theorem tokens_of_decodeWord (h : c.decodeWord w = .ok i) :
    ∃ e, c.lookup w.opcode = some e ∧ i.slots.populated.length = i.arity ∧ ∀ a,
      (e.layout.Unwritten w → i.tokens a = []) ∧
      (¬e.layout.Unwritten w →
        List.Forall₂ (Operand.Shown (i.arity = 4 ∨ i.arity = 6) a) i.slots.populated
          (i.tokens a)) := by
  rcases decodeWord_eq_ok_iff.1 h with ⟨rfl, rfl⟩ | ⟨-, e, he, rfl⟩
  · obtain ⟨e, he, -⟩ := c.lookup_reservedNop
    exact ⟨e, he, rfl, fun a => ⟨fun _ => rfl, fun _ => .nil⟩⟩
  · refine ⟨e, he, ?_, fun a => ⟨fun hun => ?_, fun hun => ?_⟩⟩
    · rw [Instruction.arity, Instruction.ofEntry, Layout.populated_slots, Layout.arity_slots]
    · rw [Instruction.tokens_ofEntry, if_pos hun]
    · exact Instruction.forall₂_shown_tokens hun a

/-- The text of a decoded word is its mnemonic and, in the order of the slots, one token for each
used operand, written by the rule for its kind and set apart by single spaces; immediates are decimal
in the rows of four and of six. The only texts without the operands are those of unwritten rows. -/
theorem text_of_decodeWord (h : c.decodeWord w = .ok i) :
    ∃ e, c.lookup w.opcode = some e ∧ ∀ a,
      (e.layout.Unwritten w → i.text a = i.mnemonic) ∧
      (¬e.layout.Unwritten w →
        ∃ ts, i.text a = String.intercalate " " (i.mnemonic :: ts) ∧ ts.length = i.arity ∧
          (∀ t ∈ ts, t ≠ "") ∧ (∀ t ∈ i.mnemonic :: ts, ' ' ∉ t.toList) ∧
          List.Forall₂ (Operand.Shown (i.arity = 4 ∨ i.arity = 6) a) i.slots.populated ts) := by
  obtain ⟨e, he, hlength, htokens⟩ := tokens_of_decodeWord h
  refine ⟨e, he, fun a => ⟨fun hun => ?_, fun hun => ?_⟩⟩
  · rw [Instruction.text_eq_intercalate, (htokens a).1 hun, String.intercalate_singleton]
  · have hshown := (htokens a).2 hun
    refine ⟨i.tokens a, i.text_eq_intercalate a, ?_, ?_, space_notMem_of_decodeWord h a, hshown⟩
    · rw [← hshown.length_eq, hlength]
    · intro t ht
      obtain ⟨o, ho⟩ := exists_of_mem_of_forall₂ hshown.flip ht
      exact ho.ne_empty

/-- A conversion shows two registers and its four fields, in decimal. -/
theorem text_of_convert :
    let c : Config := ⟨.am29050, true⟩
    let i : Instruction := ⟨"convert", .unclassified, .ofList [.register 0x80, .register 0x81,
      .immediate 1, .immediate 3, .immediate 2, .immediate 1]⟩
    c.decodeWord ⟨0xE4, 0x80, 0x81, 0xB9⟩ = .ok i ∧ i.arity = 6 ∧
      i.text 0 = "convert lr1 lr2 1 3 2 1" ∧
      ∃ e, c.lookup 0xE4 = some e ∧ ∀ a,
        (e.layout.Unwritten ⟨0xE4, 0x80, 0x81, 0xB9⟩ → i.text a = i.mnemonic) ∧
        (¬e.layout.Unwritten ⟨0xE4, 0x80, 0x81, 0xB9⟩ →
          ∃ ts, i.text a = String.intercalate " " (i.mnemonic :: ts) ∧ ts.length = i.arity ∧
            (∀ t ∈ ts, t ≠ "") ∧ (∀ t ∈ i.mnemonic :: ts, ' ' ∉ t.toList) ∧
            List.Forall₂ (Operand.Shown (i.arity = 4 ∨ i.arity = 6) a) i.slots.populated ts) := by
  intro c i
  have h : c.decodeWord ⟨0xE4, 0x80, 0x81, 0xB9⟩ = .ok i := by decide +kernel
  exact ⟨h, by decide +kernel, by decide +kernel, text_of_decodeWord h⟩

end Config

end Am29000
