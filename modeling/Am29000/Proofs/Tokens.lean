import Am29000.Instruction.Text
import Am29000.Proofs.Numerals
import Am29000.Proofs.Targets

/-!
Tokens of instruction texts. Main statements: the text of an instruction without a target is the
same at every address; any other ends in a token that is its target, and the rest of the text does
not depend on the address.
-/
namespace Am29000

/-- Letters, digits and dashes only, so that neither a blank nor a line feed is part of it. -/
def IsToken (s : String) : Prop := ∀ c ∈ s.toList, c.isAlphanum ∨ c = '-'

namespace IsToken

variable {s t : String}

/-- Decided along the characters of the text, not over all characters there are. -/
instance (s : String) : Decidable (IsToken s) :=
  List.decidableBAll (fun c : Char => c.isAlphanum ∨ c = '-') s.toList

theorem append (hs : IsToken s) (ht : IsToken t) : IsToken (s ++ t) := by
  intro c hc
  rw [String.toList_append, List.mem_append] at hc
  exact hc.elim (hs c) (ht c)

theorem of_denotes {base n : Nat} (h : Numeral.Denotes base s.toList n) : IsToken s :=
  fun _ hc => .inl (h.isAlphanum_of_mem hc)

theorem notMem {c : Char} (h : IsToken s) (hc : ¬(c.isAlphanum ∨ c = '-')) : c ∉ s.toList :=
  fun hmem => hc (h c hmem)

end IsToken

namespace Numeral

theorem isToken_decimal (n : Nat) : IsToken (decimal n) := .of_denotes (denotes_decimal n)

theorem isToken_hexMarked (n : Nat) : IsToken (hexMarked n) :=
  .append (by decide) (.of_denotes (denotes_hex n))

theorem isToken_sign (v : UInt32) : IsToken (sign v) := by
  unfold sign
  split <;> decide

theorem isToken_hexWide (width n : Nat) : IsToken (hexWide width n) :=
  .of_denotes (denotes_hexWide width n)

theorem isToken_signedDecimal (v : UInt32) : IsToken (signedDecimal v) :=
  (isToken_sign v).append (isToken_decimal _)

theorem isToken_signedHex (v : UInt32) : IsToken (signedHex v) :=
  (isToken_sign v).append (isToken_hexMarked _)

end Numeral

theorem Address.isToken_write (n : Nat) : IsToken (Address.write n) :=
  .append (by decide) (Numeral.isToken_hexWide 8 n)

namespace Operand

theorem isToken_registerName (v : UInt32) : IsToken (registerName v) := by
  unfold registerName
  split
  · exact .append (by decide) (Numeral.isToken_decimal _)
  · exact .append (by decide) (Numeral.isToken_decimal _)

theorem isToken_token (wide : Bool) (a : UInt32) (o : Operand) : IsToken (o.token wide a) := by
  obtain ⟨kind, v⟩ := o
  cases kind with
  | register => exact isToken_registerName v
  | immediate =>
    cases wide with
    | false => exact Numeral.isToken_signedHex v
    | true => exact Numeral.isToken_signedDecimal v
  | displacement => exact Numeral.isToken_hexMarked _
  | unused => exact (by decide : IsToken "")

/-- Only the token of a displacement depends on the address. -/
theorem token_eq_token {o : Operand} (h : o.kind ≠ .displacement) (wide : Bool) (a b : UInt32) :
    o.token wide a = o.token wide b := by
  obtain ⟨kind, v⟩ := o
  cases kind with
  | displacement => exact absurd rfl h
  | register | immediate | unused => rfl

end Operand

namespace Instruction

variable {i : Instruction} {d : UInt32}

theorem isToken_of_mem_tokens {a : UInt32} {t : String} (h : t ∈ i.tokens a) : IsToken t := by
  unfold tokens at h
  split at h
  next os =>
    split at h
    next =>
      obtain ⟨o, -, rfl⟩ := List.mem_map.1 h
      exact o.isToken_token _ a
    next => simp at h
  next => simp at h

theorem eq_displacement_of_mem_laidOut :
    ∀ ks ∈ laidOut, Kind.displacement ∈ ks →
      ks = [.displacement] ∨ ks = [.register, .displacement] := by
  decide

/-- A row that is laid out holds a displacement only as the one that its target counts. -/
theorem exists_displacement? {os : List Operand} (hos : i.slots.operands? = some os)
    (hlaid : os.map Operand.kind ∈ laidOut) (h : Kind.displacement ∈ os.map Operand.kind) :
    ∃ d, i.displacement? = some d := by
  unfold displacement?
  rw [hos]
  rcases eq_displacement_of_mem_laidOut _ hlaid h with hkinds | hkinds
  · obtain ⟨⟨_, d⟩, rfl, rfl⟩ := List.map_eq_singleton_iff.1 hkinds
    exact ⟨d, rfl⟩
  · match os, hkinds with
    | [⟨.register, _⟩, ⟨.displacement, d⟩], _ => exact ⟨d, rfl⟩

/-- Without a target the text does not depend on the address. -/
theorem text_eq_text (h : i.displacement? = none) (a b : UInt32) : i.text a = i.text b := by
  have htokens : i.tokens a = i.tokens b := by
    unfold tokens
    split
    next os hos =>
      split
      next hlaid =>
        apply List.map_congr_left
        intro o ho
        apply Operand.token_eq_token
        intro hkind
        obtain ⟨d, hd⟩ := exists_displacement? hos hlaid (List.mem_map.2 ⟨o, ho, hkind⟩)
        simp [h] at hd
      next => rfl
    next => rfl
  rw [text, text, htokens]

/-- With a target the text ends in it, and what stands before that does not depend on the
address. -/
theorem exists_text_eq (h : i.displacement? = some d) :
    ∃ front, ∀ a, i.text a = front ++ " " ++ Numeral.hexMarked (a + d).toNat := by
  unfold displacement? at h
  split at h
  next hos =>
    obtain rfl := Option.some.inj h
    refine ⟨i.mnemonic, fun a => ?_⟩
    simp [text, tokens, hos, laidOut, Operand.token, String.append_assoc]
  next v _ hos =>
    obtain rfl := Option.some.inj h
    refine ⟨i.mnemonic ++ " " ++ Operand.registerName v, fun a => ?_⟩
    simp [text, tokens, hos, laidOut, Operand.token, String.append_assoc]
  next => simp at h

/-- A text is made of its mnemonic, tokens and the spaces between them. -/
theorem mem_text {a : UInt32} {c : Char} (h : IsToken i.mnemonic) (hc : c ∈ (i.text a).toList) :
    c = ' ' ∨ c.isAlphanum ∨ c = '-' := by
  rw [text, String.toList_append, String.toList_join, List.mem_append, List.mem_flatMap] at hc
  rcases hc with hc | ⟨s, hs, hc⟩
  · exact .inr (h c hc)
  · obtain ⟨t, ht, rfl⟩ := List.mem_map.1 hs
    rw [String.toList_append, List.mem_append] at hc
    rcases hc with hc | hc
    · exact .inl (by simpa using hc)
    · exact .inr (isToken_of_mem_tokens ht c hc)

end Instruction

theorem Catalog.isToken_mnemonic : ∀ e ∈ catalog, IsToken e.mnemonic := by
  decide +kernel

theorem Config.isToken_mnemonic_of_decodeWord {c : Config} {w : Word} {i : Instruction}
    (h : c.decodeWord w = .ok i) : IsToken i.mnemonic := by
  rcases decodeWord_eq_ok_iff.1 h with ⟨-, rfl⟩ | ⟨-, e, he, rfl⟩
  · decide
  · exact Catalog.isToken_mnemonic e (mem_of_lookup he)

namespace Line

theorem isToken_byteText (b : UInt8) : IsToken (byteText b) := Numeral.isToken_hexWide 2 b.toNat

/-- The text of a line holds neither a line feed nor anything else outside of tokens and spaces. -/
theorem mem_text_ofWord {c : Config} {a : UInt32} {w : Word} {x : Char}
    (hx : x ∈ (ofWord c a w).text.toList) : x = ' ' ∨ x.isAlphanum ∨ x = '-' := by
  unfold ofWord at hx
  split at hx
  next i hi => exact Instruction.mem_text (Config.isToken_mnemonic_of_decodeWord hi) hx
  next => exact .inr ((by decide : IsToken illegal) x hx)

theorem newline_notMem_text (c : Config) (a : UInt32) (w : Word) :
    '\n' ∉ (ofWord c a w).text.toList := by
  intro h
  exact absurd (mem_text_ofWord h) (by decide)

/-- With or without its bytes, what is written for a word is one line. -/
theorem newline_notMem_write (c : Config) (a : UInt32) (w : Word) (showBytes : Bool) :
    '\n' ∉ ((ofWord c a w).write showBytes).toList := by
  have haddress (n : Nat) : '\n' ∉ (Address.write n).toList :=
    (Address.isToken_write n).notMem (by decide)
  have hbyte (b : UInt8) : '\n' ∉ (byteText b).toList := (isToken_byteText b).notMem (by decide)
  cases showBytes with
  | false => simp [write, haddress, newline_notMem_text]
  | true => simp [write, haddress, newline_notMem_text, hbyte, Word.toList]

end Line

end Am29000
