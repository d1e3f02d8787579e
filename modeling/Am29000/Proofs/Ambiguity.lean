import Am29000.Proofs.Rendering

/-!
Instructions with the same text. Main statement: among the rows that a text shows, it tells the
operands, kinds and values; only a target can be taken for an immediate in its place.
-/
namespace Am29000

/-- Texts with one space between words that hold none are the same only word by word. -/
theorem intercalate_space_inj {s : String} {ts us : List String}
    (hts : ∀ t ∈ ts, ' ' ∉ t.toList) (hus : ∀ u ∈ us, ' ' ∉ u.toList) :
    String.intercalate " " (s :: ts) = String.intercalate " " (s :: us) ↔ ts = us := by
  -- the words behind the first one do not depend on it, which may hold spaces
  have hrest (ts : List String) :
      String.intercalate " " (s :: ts) = s ++ String.intercalate " " ("" :: ts) := by
    rw [← String.intercalate_cons_append, String.append_empty]
  have hsplit {ts : List String} (h : ∀ t ∈ ts, ' ' ∉ t.toList) :
      (String.intercalate " " ("" :: ts)).toList.splitOn ' ' = [] :: ts.map String.toList := by
    rw [String.toList_intercalate]
    apply List.splitOn_intercalate
    · simpa using h
    · simp
  constructor
  · intro h
    rw [hrest, hrest, String.append_right_inj] at h
    have hwords := congrArg (fun r => r.toList.splitOn ' ') h
    simp only [hsplit hts, hsplit hus, List.cons.injEq, true_and] at hwords
    exact List.map_injective_iff.2 (fun _ _ => String.toList_inj.1) hwords
  · rintro rfl
    rfl

namespace Slots

/-- The rows of operand kinds that a text shows, without the unused ones. -/
def shownKinds : List (List Kind) :=
  [[.register], [.immediate], [.displacement],
   [.register, .register], [.register, .immediate], [.register, .displacement],
   [.register, .register, .register], [.register, .register, .immediate],
   [.immediate, .immediate, .register, .register],
   [.register, .register, .immediate, .immediate, .immediate, .immediate]]

theorem lt_length_of_fullRow {s : Slots} {ks : List Kind} (h : fullRow ks = s.kinds) {k : Nat}
    {o : Operand} (ho : s.toList[k]? = some o) (hused : o.kind ≠ .unused) : k < ks.length := by
  by_contra hk
  have hkind : (fullRow ks)[k]? = some o.kind := by
    rw [h, kinds, List.getElem?_map, ho, Option.map_some]
  rw [fullRow, List.getElem?_append_right (Nat.le_of_not_lt hk)] at hkind
  exact hused (List.eq_of_mem_replicate (List.mem_of_getElem? hkind))

end Slots

namespace Instruction

/-- The laid-out rows that differ in one kind only, a target in place of an immediate. -/
def lookalikes : List (List Kind × List Kind) :=
  [(Slots.fullRow [.displacement], Slots.fullRow [.immediate]),
   (Slots.fullRow [.register, .displacement], Slots.fullRow [.register, .immediate])]

/-- They are those that are laid out. -/
theorem laidOut_eq : laidOut = Slots.shownKinds := rfl

/-- Where the registers of a row stand tells the row, but for lookalikes. -/
theorem eq_or_lookalikes : ∀ ks ∈ laidOut, ∀ ls ∈ laidOut,
    ks.map (fun k => decide (k = .register)) = ls.map (fun k => decide (k = .register)) →
      ks = ls ∨ (Slots.fullRow ks, Slots.fullRow ls) ∈ lookalikes ∨
        (Slots.fullRow ls, Slots.fullRow ks) ∈ lookalikes := by
  decide

theorem fullRow_inj_of_mem_laidOut : ∀ ks ∈ laidOut, ∀ ls ∈ laidOut,
    Slots.fullRow ks = Slots.fullRow ls → ks = ls := by
  decide

theorem unused_notMem_of_mem_laidOut : ∀ ks ∈ laidOut, Kind.unused ∉ ks := by
  decide

variable {i j : Instruction} {a : UInt32} {ks ls : List Kind}

/-- A laid-out row has a token for each of its operands. -/
theorem tokens_of_fullRow (hks : ks ∈ laidOut) (hi : Slots.fullRow ks = i.slots.kinds)
    (a : UInt32) :
    (i.slots.toList.take ks.length).map Operand.kind = ks ∧
      i.tokens a = (i.slots.toList.take ks.length).map (Operand.token (4 ≤ ks.length) a) := by
  have hkinds := Slots.map_kind_take_of_kinds hi.symm
  have hlength := congrArg List.length hkinds
  rw [List.length_map] at hlength
  refine ⟨hkinds, ?_⟩
  rw [tokens, Slots.operands?_of_kinds (unused_notMem_of_mem_laidOut ks hks) hi.symm]
  dsimp only
  rw [hkinds, if_pos hks, hlength]

theorem tokens_eq_of_text_eq (hname : i.mnemonic = j.mnemonic) (htext : i.text a = j.text a) :
    i.tokens a = j.tokens a := by
  have hspace (i : Instruction) : ∀ t ∈ i.tokens a, ' ' ∉ t.toList :=
    fun t ht => (isToken_of_mem_tokens ht).notMem (by decide)
  rw [text_eq_intercalate, text_eq_intercalate, hname] at htext
  exact (intercalate_space_inj (hspace i) (hspace j)).1 htext

/-- Tokens tell which operands are registers. -/
theorem map_register_eq {os ps : List Operand} {wide : Bool}
    (h : os.map (Operand.token wide a) = ps.map (Operand.token wide a)) :
    (os.map Operand.kind).map (fun k => decide (k = .register)) =
      (ps.map Operand.kind).map (fun k => decide (k = .register)) := by
  have hletter (os : List Operand) :
      (os.map Operand.kind).map (fun k => decide (k = .register)) =
        (os.map (Operand.token wide a)).map fun t => decide ('r' ∈ t.toList) := by
    simp only [List.map_map, Function.comp_def, Operand.r_mem_token_iff]
  rw [hletter, hletter, h]

/-- Tokens tell the row, but for lookalikes. -/
theorem eq_or_lookalikes_of_tokens_eq (hks : ks ∈ laidOut) (hls : ls ∈ laidOut)
    (hi : Slots.fullRow ks = i.slots.kinds) (hj : Slots.fullRow ls = j.slots.kinds)
    (h : i.tokens a = j.tokens a) :
    ks = ls ∨ (Slots.fullRow ks, Slots.fullRow ls) ∈ lookalikes ∨
      (Slots.fullRow ls, Slots.fullRow ks) ∈ lookalikes := by
  obtain ⟨hikinds, hitokens⟩ := tokens_of_fullRow hks hi a
  obtain ⟨hjkinds, hjtokens⟩ := tokens_of_fullRow hls hj a
  rw [hitokens, hjtokens] at h
  have hlength : ks.length = ls.length := by
    rw [← hikinds, ← hjkinds, List.length_map, List.length_map]
    simpa only [List.length_map] using congrArg List.length h
  rw [hlength] at h hikinds
  have hregisters := map_register_eq h
  rw [hikinds, hjkinds] at hregisters
  exact eq_or_lookalikes ks hks ls hls hregisters

/-- In one row tokens tell the operands. -/
theorem take_eq_of_tokens_eq (hks : ks ∈ laidOut) (hi : Slots.fullRow ks = i.slots.kinds)
    (hj : Slots.fullRow ks = j.slots.kinds) (h : i.tokens a = j.tokens a) :
    i.slots.toList.take ks.length = j.slots.toList.take ks.length := by
  obtain ⟨hikinds, hitokens⟩ := tokens_of_fullRow hks hi a
  obtain ⟨hjkinds, hjtokens⟩ := tokens_of_fullRow hks hj a
  rw [hitokens, hjtokens] at h
  refine Operand.eq_of_map_token_eq (hikinds.trans hjkinds.symm) ?_ h
  intro o ho hkind
  apply unused_notMem_of_mem_laidOut ks hks
  rw [← hikinds, ← hkind]
  exact List.mem_map_of_mem ho

/-- Of two instructions of one name that show their operands in the same text at some address, the
kinds of the operands are the same, or a target stands in one where the other has an immediate; and
where the kinds are the same, so is the operand of every used slot. -/
theorem text_tells_operands (hname : i.mnemonic = j.mnemonic)
    (hi : i.slots.kinds ∈ Slots.shownKinds.map Slots.fullRow)
    (hj : j.slots.kinds ∈ Slots.shownKinds.map Slots.fullRow) (htext : i.text a = j.text a) :
    (i.slots.kinds = j.slots.kinds ∨ (i.slots.kinds, j.slots.kinds) ∈ lookalikes ∨
        (j.slots.kinds, i.slots.kinds) ∈ lookalikes) ∧
      (i.slots.kinds = j.slots.kinds →
        ∀ k o, i.slots.get? k = some o → o.kind ≠ .unused → j.slots.get? k = some o) := by
  rw [← laidOut_eq, List.mem_map] at hi hj
  obtain ⟨ks, hks, hi⟩ := hi
  obtain ⟨ls, hls, hj⟩ := hj
  have htokens := tokens_eq_of_text_eq hname htext
  rw [← hi, ← hj]
  constructor
  · rcases eq_or_lookalikes_of_tokens_eq hks hls hi hj htokens with rfl | hlook
    · exact .inl rfl
    · exact .inr hlook
  · intro hrows k o ho hused
    obtain rfl := fullRow_inj_of_mem_laidOut ks hks ls hls hrows
    rw [Slots.get?_eq_getElem?] at ho ⊢
    have hk := Slots.lt_length_of_fullRow hi ho hused
    rw [← List.getElem?_take_of_lt hk, ← take_eq_of_tokens_eq hks hi hj htokens,
      List.getElem?_take_of_lt hk, ho]

/-- A relative jump reads like an absolute one at the address from which both lead to one place. The
value that an unused slot keeps does not show. -/
theorem text_of_lookalikes :
    let i : Instruction := ⟨"jmp", .jump, ⟨#v[⟨.displacement, 4⟩, ⟨.unused, 7⟩, .unused, .unused,
      .unused, .unused]⟩⟩
    let j : Instruction := ⟨"jmp", .jump, .ofList [.immediate 0x10]⟩
    i.mnemonic = j.mnemonic ∧ i.slots.kinds ∈ Slots.shownKinds.map Slots.fullRow ∧
      j.slots.kinds ∈ Slots.shownKinds.map Slots.fullRow ∧ i.text 0xC = j.text 0xC ∧
      i.slots.kinds ≠ j.slots.kinds ∧
      (i.slots.kinds = j.slots.kinds ∨ (i.slots.kinds, j.slots.kinds) ∈ lookalikes ∨
        (j.slots.kinds, i.slots.kinds) ∈ lookalikes) ∧
      (i.slots.kinds = j.slots.kinds →
        ∀ k o, i.slots.get? k = some o → o.kind ≠ .unused → j.slots.get? k = some o) := by
  intro i j
  have hi : i.slots.kinds ∈ Slots.shownKinds.map Slots.fullRow := by decide
  have hj : j.slots.kinds ∈ Slots.shownKinds.map Slots.fullRow := by decide
  have htext : i.text 0xC = j.text 0xC := by decide +kernel
  exact ⟨rfl, hi, hj, htext, by decide, text_tells_operands rfl hi hj htext⟩

end Instruction

end Am29000
