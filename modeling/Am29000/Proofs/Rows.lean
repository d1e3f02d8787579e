import Am29000.Layout

/-!
Rows of operand slots without gaps: a row made of used operands gives them back, and so do the
slots that a layout fills.
-/
namespace Am29000

namespace Slots

/-- Operands that can lead a row: at most six, and none of them unused. -/
structure Leading (os : List Operand) : Prop where
  length_le : os.length ≤ 6
  used : ∀ o ∈ os, o.kind ≠ .unused

/-- The used operands, in the order of their slots. -/
def populated (s : Slots) : List Operand := s.toList.filter fun o => !o.isUnused

/-- The first six operands of a list in order, and unused slots behind them. -/
theorem toList_ofList_eq_take (os : List Operand) :
    (ofList os).toList = os.take 6 ++ List.replicate (6 - os.length) .unused := by
  apply List.ext_getElem?
  intro k
  by_cases hk : k < 6
  · rw [getElem?_toList_ofList os k hk, List.getD_eq_getElem?_getD]
    by_cases ho : k < os.length
    · have hlt : k < (os.take 6).length := by rw [List.length_take]; omega
      simp [List.getElem?_append_left hlt, ho, hk]
    · have hlength : (os.take 6).length = os.length := by rw [List.length_take]; omega
      have hr : k - os.length < 6 - os.length := by omega
      rw [List.getElem?_append_right (by omega), hlength, List.getElem?_replicate, if_pos hr,
        List.getElem?_eq_none (by omega), Option.getD_none]
  · rw [List.getElem?_eq_none (by simpa using hk), List.getElem?_eq_none]
    simp only [List.length_append, List.length_take, List.length_replicate]
    omega

theorem toList_ofList {os : List Operand} (h : os.length ≤ 6) :
    (ofList os).toList = os ++ List.replicate (6 - os.length) .unused := by
  rw [toList_ofList_eq_take, List.take_of_length_le h]

theorem getElem?_kinds (s : Slots) (k : Nat) : s.kinds[k]? = (s.get? k).map Operand.kind := by
  rw [kinds, List.getElem?_map, get?_eq_getElem?]

theorem getElem?_values (s : Slots) (k : Nat) : s.values[k]? = (s.get? k).map Operand.value := by
  rw [values, List.getElem?_map, get?_eq_getElem?]

/-- An operand is its kind and its value. -/
theorem get?_eq_some_iff {s : Slots} {k : Nat} {o : Operand} :
    s.get? k = some o ↔ s.kinds[k]? = some o.kind ∧ s.values[k]? = some o.value := by
  rw [getElem?_kinds, getElem?_values]
  cases s.get? k with
  | none => simp
  | some p =>
    obtain ⟨kind, value⟩ := p
    obtain ⟨kind', value'⟩ := o
    simp

variable {s : Slots} {ks : List Kind} {n : Nat}

/-- Kinds with the unused slots that fill the row behind them. -/
def fullRow (ks : List Kind) : List Kind := ks ++ List.replicate (6 - ks.length) .unused

/-- Used kinds with only unused ones behind them are those of the operands that count. -/
theorem arity_of_kinds (hused : .unused ∉ ks) (h : s.kinds = ks ++ List.replicate n .unused) :
    s.arity = ks.length := by
  have hkinds : s.arity = s.kinds.findIdx fun k => decide (k = .unused) := by
    rw [kinds, List.findIdx_map]
    rfl
  have hlead : ks.findIdx (fun k => decide (k = .unused)) = ks.length := by
    apply List.findIdx_eq_length_of_false
    intro k hk
    exact decide_eq_false (ne_of_mem_of_not_mem hk hused)
  have hrest : (List.replicate n Kind.unused).findIdx (fun k => decide (k = .unused)) = 0 := by
    cases n with
    | zero => rfl
    | succ n => rfl
  rw [hkinds, h, List.findIdx_append, hlead, if_neg (Nat.lt_irrefl _), hrest, Nat.zero_add]

theorem map_kind_take_of_kinds (h : s.kinds = ks ++ List.replicate n .unused) :
    (s.toList.take ks.length).map Operand.kind = ks := by
  rw [List.map_take, ← kinds, h, List.take_left]

theorem operands?_of_kinds (hused : .unused ∉ ks) (h : s.kinds = ks ++ List.replicate n .unused) :
    s.operands? = some (s.toList.take ks.length) := by
  have hrest : ∀ o ∈ s.toList.drop ks.length, o.isUnused := by
    intro o ho
    have hkind : o.kind ∈ s.kinds.drop ks.length := by
      rw [kinds, ← List.map_drop]
      exact List.mem_map.2 ⟨o, ho, rfl⟩
    rw [h, List.drop_left] at hkind
    exact decide_eq_true (List.eq_of_mem_replicate hkind)
  rw [operands?, arity_of_kinds hused h, if_pos (List.all_eq_true.2 hrest)]

theorem kinds_of_operands? {os : List Operand} (h : s.operands? = some os) :
    s.kinds = fullRow (os.map Operand.kind) := by
  unfold operands? at h
  split at h
  next hrest =>
    obtain rfl := Option.some.inj h
    have hunused : (s.toList.drop s.arity).map Operand.kind =
        List.replicate (6 - s.arity) .unused := by
      rw [List.eq_replicate_iff, List.length_map, List.length_drop, length_toList]
      refine ⟨rfl, fun k hk => ?_⟩
      obtain ⟨o, ho, rfl⟩ := List.mem_map.1 hk
      exact of_decide_eq_true (List.all_eq_true.1 hrest o ho)
    rw [fullRow, List.length_map, List.length_take, length_toList, Nat.min_eq_left s.arity_le,
      ← hunused, ← List.map_append, List.take_append_drop, kinds]
  next => simp at h

namespace Leading

variable {os ps : List Operand}

theorem kinds_ofList (h : Leading os) :
    (ofList os).kinds = os.map Operand.kind ++ List.replicate (6 - os.length) .unused := by
  rw [kinds, toList_ofList h.length_le, List.map_append, List.map_replicate]
  rfl

theorem values_ofList (h : Leading os) :
    (ofList os).values = os.map Operand.value ++ List.replicate (6 - os.length) 0 := by
  rw [values, toList_ofList h.length_le, List.map_append, List.map_replicate]
  rfl

theorem unused_notMem (h : Leading os) : .unused ∉ os.map Operand.kind := by
  intro hmem
  obtain ⟨o, ho, hkind⟩ := List.mem_map.1 hmem
  exact h.used o ho hkind

theorem arity_ofList (h : Leading os) : (ofList os).arity = os.length := by
  rw [arity_of_kinds h.unused_notMem h.kinds_ofList, List.length_map]

theorem get?_ofList (h : Leading os) (k : Nat) :
    (ofList os).get? k = (os ++ List.replicate (6 - os.length) .unused)[k]? := by
  rw [get?_eq_getElem?, toList_ofList h.length_le]

/-- The slots that the operands leave over are unused and zero. -/
theorem get?_ofList_of_le (h : Leading os) {k : Nat} (hle : os.length ≤ k) (hk : k < 6) :
    (ofList os).get? k = some .unused := by
  have hr : k - os.length < 6 - os.length := by omega
  rw [h.get?_ofList, List.getElem?_append_right hle, List.getElem?_replicate, if_pos hr]

/-- A used operand of a row is one of those that lead it, at the same place. -/
theorem getElem?_of_get?_ofList (h : Leading os) {k : Nat} {o : Operand}
    (hk : (ofList os).get? k = some o) (ho : o.kind ≠ .unused) : os[k]? = some o := by
  rw [h.get?_ofList] at hk
  by_cases hlt : k < os.length
  · rwa [List.getElem?_append_left hlt] at hk
  · rw [List.getElem?_append_right (by omega), List.getElem?_replicate] at hk
    split at hk
    next =>
      obtain rfl := Option.some.inj hk
      exact absurd rfl ho
    next => simp at hk

/-- A row gives back the operands that lead it. -/
theorem operands?_ofList (h : Leading os) : (ofList os).operands? = some os := by
  rw [operands?_of_kinds h.unused_notMem h.kinds_ofList, toList_ofList h.length_le,
    List.length_map, List.take_left]

theorem populated_ofList (h : Leading os) : (ofList os).populated = os := by
  rw [populated, toList_ofList h.length_le, List.filter_append, List.filter_replicate_of_neg
    (by simp [Operand.isUnused, Operand.unused]), List.append_nil, List.filter_eq_self]
  intro o ho
  simp [Operand.isUnused, h.used o ho]

theorem ofList_inj (ho : Leading os) (hp : Leading ps) : ofList os = ofList ps ↔ os = ps := by
  constructor
  · intro h
    have := congrArg operands? h
    simpa only [ho.operands?_ofList, hp.operands?_ofList, Option.some.injEq] using this
  · rintro rfl
    rfl

end Leading

end Slots

namespace Layout

/-- No layout leaves a gap in its row or a stale operand behind it. -/
theorem leading_fields (l : Layout) (w : Word) : Slots.Leading (l.fields w) := by
  refine ⟨l.length_fields_le w, ?_⟩
  have hlast : (lastByte w).kind ≠ .unused := by
    unfold lastByte
    split <;> simp [field, Operand.register, Operand.immediate]
  have hjump (r : Bool) : (jumpField w r).kind ≠ .unused := by
    unfold jumpField
    split <;> simp [Operand.displacement, Operand.immediate]
  cases l <;> simp [fields, hlast, hjump, field, Operand.register, Operand.immediate]

@[simp] theorem arity_slots (l : Layout) (w : Word) : (l.slots w).arity = (l.fields w).length :=
  (l.leading_fields w).arity_ofList

@[simp] theorem operands?_slots (l : Layout) (w : Word) :
    (l.slots w).operands? = some (l.fields w) := (l.leading_fields w).operands?_ofList

@[simp] theorem populated_slots (l : Layout) (w : Word) : (l.slots w).populated = l.fields w :=
  (l.leading_fields w).populated_ofList

theorem slots_inj (l k : Layout) (w v : Word) :
    l.slots w = k.slots v ↔ l.fields w = k.fields v :=
  (l.leading_fields w).ofList_inj (k.leading_fields v)

end Layout

end Am29000
