import Am29000.Operand.Script
import Am29000.Proofs.Rows
import Mathlib.Tactic

/-!
Runs of scripts on a row of slots. Main statement: after any run each slot holds what the last step
that wrote it put there, a step outside the row changes nothing, and all readings of a row agree.
-/
namespace Am29000

namespace Slots

variable {s : Slots} {i j : Nat} {o : Operand}

theorem get?_eq_none (s : Slots) (hj : 6 ≤ j) : s.get? j = none := by
  rw [get?_eq_getElem?, List.getElem?_eq_none (by simpa using hj)]

theorem set?_eq_none (s : Slots) (o : Operand) (hi : 6 ≤ i) : s.set? i o = none := by
  rw [set?, dif_neg (by omega)]

theorem get?_ofList (os : List Operand) (hj : j < 6) :
    (ofList os).get? j = some (os.getD j .unused) := by
  rw [get?_eq_getElem?, getElem?_toList_ofList os j hj]

theorem kind_of_lt_arity (hj : j < s.arity) (ho : s.toList[j]? = some o) : o.kind ≠ .unused := by
  obtain ⟨_, rfl⟩ := List.getElem?_eq_some_iff.1 ho
  exact of_decide_eq_false (List.not_of_lt_findIdx hj)

theorem kind_at_arity (ho : s.toList[s.arity]? = some o) : o.kind = .unused := by
  have hunused : o.isUnused := List.findIdx_of_getElem?_eq_some ho
  exact of_decide_eq_true hunused

/-- The arity counts the operands before the first unused one, and no later slot has a say in it. -/
theorem arity_eq_iff (s : Slots) (n : Nat) :
    s.arity = n ↔
      n ≤ 6 ∧ (∀ k < n, ∀ o, s.toList[k]? = some o → o.kind ≠ .unused) ∧
        ∀ o, s.toList[n]? = some o → o.kind = .unused := by
  have hget {k : Nat} (hk : k < 6) : ∃ o, s.toList[k]? = some o :=
    ⟨_, List.getElem?_eq_getElem (by simpa using hk)⟩
  have hle := s.arity_le
  constructor
  · rintro rfl
    exact ⟨hle, fun k hk o => kind_of_lt_arity hk, fun o => kind_at_arity⟩
  · rintro ⟨hn, hused, hunused⟩
    rcases Nat.lt_trichotomy s.arity n with hlt | heq | hlt
    · obtain ⟨o, ho⟩ := hget (show s.arity < 6 by omega)
      exact absurd (kind_at_arity ho) (hused _ hlt o ho)
    · exact heq
    · obtain ⟨o, ho⟩ := hget (show n < 6 by omega)
      exact absurd (hunused o ho) (kind_of_lt_arity hlt ho)

end Slots

namespace Step

variable {t : Step} {ts : List Step} {i j : Nat} {o : Operand}

/-- The slot that a step names. -/
def slot? : Step → Option Nat
  | put i _ => some i
  | release i => some i
  | look i => some i
  | index i => some i
  | _ => none

/-- What a step puts into a slot of the row, if it writes that slot. -/
def written? (j : Nat) : Step → Option Operand
  | clear => some .unused
  | reset => some .unused
  | load os => some (os.getD j .unused)
  | put i o => if i = j then some o else none
  | release i => if i = j then some .unused else none
  | _ => none

/-- The row after a script. -/
def rowAfter (s : Slots) (ts : List Step) : Slots := ts.foldl (fun s t => (t.apply s).2) s

theorem rowAfter_append (s : Slots) (ts us : List Step) :
    rowAfter s (ts ++ us) = rowAfter (rowAfter s ts) us := List.foldl_append

/-- Every answer of a run, and the row with it, is that of one step on the row before it. -/
theorem getElem?_run (s : Slots) (ts : List Step) (k : Nat) :
    (run s ts)[k]? = ts[k]?.map fun t => t.apply (rowAfter s (ts.take k)) := by
  induction ts generalizing s k with
  | nil => simp [run]
  | cons t ts ih =>
    cases k with
    | zero => rfl
    | succ k => exact ih (t.apply s).2 k

theorem putAt_of_le (s : Slots) (o : Operand) (hi : 6 ≤ i) : putAt s i o = (.outside i, s) := by
  rw [putAt, s.set?_eq_none o hi]

theorem exists_putAt (s : Slots) (o : Operand) (hi : i < 6) :
    ∃ r, putAt s i o = (.done, r) ∧ r.toList = s.toList.set i o := by
  obtain ⟨r, hr⟩ : ∃ r, s.set? i o = some r :=
    Option.isSome_iff_exists.1 (by rw [Slots.isSome_set?, decide_eq_true hi])
  exact ⟨r, by rw [putAt, hr], Slots.toList_set? hr⟩

/-- The default row is the empty one. -/
theorem initial_eq : initial = .empty := by
  decide

/-- An operand is the pair of its kind and its value, so that both readings of a slot agree. -/
theorem apply_index (i : Nat) (s : Slots) : (index i).apply s = (look i).apply s := by
  rw [apply, apply, Slots.get?]
  split
  next hi => rw [Vector.getElem?_eq_getElem hi]
  next hi => rw [Vector.getElem?_eq_none (by omega)]

/-- A step that names a slot outside the row is refused, and leaves the row as it was. -/
theorem apply_of_outside (hi : t.slot? = some i) (hle : 6 ≤ i) (s : Slots) :
    t.apply s = (.outside i, s) := by
  cases t with
  | put i' o =>
    obtain rfl := Option.some.inj hi
    exact putAt_of_le s o hle
  | release i' =>
    obtain rfl := Option.some.inj hi
    exact putAt_of_le s .unused hle
  | look i' =>
    obtain rfl := Option.some.inj hi
    rw [apply, s.get?_eq_none hle]
  | index i' =>
    obtain rfl := Option.some.inj hi
    rw [apply_index, apply, s.get?_eq_none hle]
  | clear | reset | load | kinds | values => cases hi

theorem get?_putAt (s : Slots) (i : Nat) (o : Operand) (hj : j < 6) :
    (putAt s i o).2.get? j = (if i = j then some o else none).or (s.get? j) := by
  by_cases hi : i < 6
  · obtain ⟨r, hr, hrow⟩ := exists_putAt s o hi
    rw [hr, Slots.get?_eq_getElem?, Slots.get?_eq_getElem?, hrow, List.getElem?_set]
    by_cases hij : i = j <;> simp [hij, hj]
  · have hle : 6 ≤ i := by omega
    have hij : i ≠ j := by omega
    simp [putAt_of_le s o hle, hij]

/-- One step leaves in a slot what it writes there, or what the slot held before. -/
theorem get?_apply (t : Step) (s : Slots) (hj : j < 6) :
    (t.apply s).2.get? j = (t.written? j).or (s.get? j) := by
  cases t with
  | clear => exact Slots.get?_ofList [] hj
  | reset =>
    rw [apply, initial_eq]
    exact Slots.get?_ofList [] hj
  | load os => exact Slots.get?_ofList os hj
  | put i o => exact get?_putAt s i o hj
  | release i => exact get?_putAt s i .unused hj
  | look i =>
    rw [apply]
    split <;> rfl
  | index i =>
    rw [apply]
    split <;> rfl
  | kinds | values => rfl

/-- A slot that no step of a script writes keeps what it held. -/
theorem get?_rowAfter_of_unwritten (s : Slots) (hj : j < 6) (h : ∀ t ∈ ts, t.written? j = none) :
    (rowAfter s ts).get? j = s.get? j := by
  induction ts generalizing s with
  | nil => rfl
  | cons t ts ih =>
    have hrest := ih (t.apply s).2 fun u hu => h u (List.mem_cons_of_mem _ hu)
    rw [get?_apply t s hj, h t List.mem_cons_self, Option.none_or] at hrest
    exact hrest

/-- A slot holds what the last step that wrote it put there. -/
theorem get?_rowAfter_of_written {before after : List Step} (s : Slots) (hj : j < 6)
    (ht : t.written? j = some o) (hafter : ∀ u ∈ after, u.written? j = none) :
    (rowAfter s (before ++ t :: after)).get? j = some o := by
  have hstep := get?_apply t (rowAfter s before) hj
  rw [ht, Option.some_or] at hstep
  rw [rowAfter_append, ← hstep]
  exact get?_rowAfter_of_unwritten _ hj hafter

/-- All readings of a row show the same six operands, and its arity is the number of them before the
first unused one, whatever stands behind that. -/
structure ReadAs (s : Slots) (os : List Operand) : Prop where
  length : os.length = 6
  look : ∀ i o, os[i]? = some o → (look i).apply s = (.operand o, s)
  index : ∀ i o, os[i]? = some o → (index i).apply s = (.operand o, s)
  kinds : Step.kinds.apply s = (.kinds (os.map Operand.kind), s)
  values : Step.values.apply s = (.values (os.map Operand.value), s)
  arity : ∀ n, s.arity = n ↔
    n ≤ 6 ∧ (∀ k < n, ∀ o, os[k]? = some o → o.kind ≠ .unused) ∧
      ∀ o, os[n]? = some o → o.kind = .unused

theorem readAs_toList (s : Slots) : ReadAs s s.toList where
  length := s.length_toList
  look i o ho := by rw [apply, s.get?_eq_getElem?, ho]
  index i o ho := by rw [apply_index, apply, s.get?_eq_getElem?, ho]
  kinds := rfl
  values := rfl
  arity := s.arity_eq_iff

/-- In every run each slot is a place of its own. All readings show what the last step that wrote a
slot put there; the next step changes nothing if it names a slot outside the row, changes one slot
if it writes one, and leaves nothing of the row if it loads a list. -/
theorem run_keeps_slots_apart (ts : List Step) :
    let s := rowAfter .empty ts
    (∀ k, (run .empty ts)[k]? =
      ts[k]?.map fun t : Step => t.apply (rowAfter .empty (ts.take k))) ∧
    ∃ os, ReadAs s os ∧
      (∀ j < 6, ∀ (before : List Step) (t : Step) (after : List Step) (o : Operand),
        ts = before ++ t :: after → t.written? j = some o →
          (∀ u ∈ after, u.written? j = none) → os[j]? = some o) ∧
      (∀ j < 6, (∀ t ∈ ts, t.written? j = none) → os[j]? = some ⟨.unused, 0⟩) ∧
      (∀ (t : Step) (i : Nat), t.slot? = some i → 6 ≤ i → t.apply s = (.outside i, s)) ∧
      (∀ i < 6, ∀ o, ∃ r, (put i o).apply s = (.done, r) ∧ ReadAs r (os.set i o)) ∧
      (∀ i < 6, ∃ r, (release i).apply s = (.done, r) ∧ ReadAs r (os.set i ⟨.unused, 0⟩)) ∧
      ∀ l, ∃ r, (load l).apply s = (.done, r) ∧
        ReadAs r (l.take 6 ++ List.replicate (6 - l.length) ⟨.unused, 0⟩) := by
  intro s
  refine ⟨getElem?_run .empty ts, s.toList, readAs_toList s, ?_, ?_, ?_, ?_, ?_, ?_⟩
  · rintro j hj before t after o rfl ht hafter
    rw [← s.get?_eq_getElem?]
    exact get?_rowAfter_of_written .empty hj ht hafter
  · intro j hj hts
    rw [← s.get?_eq_getElem?]
    exact (get?_rowAfter_of_unwritten .empty hj hts).trans (Slots.get?_ofList [] hj)
  · intro t i hi hle
    exact apply_of_outside hi hle s
  · intro i hi o
    obtain ⟨r, hr, hrow⟩ := exists_putAt s o hi
    exact ⟨r, hr, hrow ▸ readAs_toList r⟩
  · intro i hi
    obtain ⟨r, hr, hrow⟩ := exists_putAt s .unused hi
    exact ⟨r, hr, hrow ▸ readAs_toList r⟩
  · intro l
    exact ⟨.ofList l, rfl, Slots.toList_ofList_eq_take l ▸ readAs_toList (.ofList l)⟩

/-- A refused step is passed over, and a gap in the row ends its arity. -/
example :
    let s := rowAfter .empty
      [.put 0 ⟨.register, 5⟩, .put 2 ⟨.immediate, 7⟩, .put 6 ⟨.register, 1⟩]
    s.arity = 1 ∧ s.get? 2 = some ⟨.immediate, 7⟩ := by
  decide

end Step

end Am29000
