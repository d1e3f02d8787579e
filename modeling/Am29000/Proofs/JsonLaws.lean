import Am29000.Json.Library
import Am29000.Proofs.JsonText

/-!
Laws of JSON libraries. Each says what one part of a library is documented to do. Main statements:
under these laws the fields of a record are found in any order among other keys, a row has exactly
its length, and the standard library obeys the laws.
-/
namespace Am29000

namespace Json

/-- Values of words, texts, arrays and records, with so many levels of nesting at most. -/
inductive Nested : Nat → Json → Prop
  | word {d : Nat} (v : UInt32) : Nested d (.ofNat v.toNat)
  | text {d : Nat} (s : String) : Nested d (.ofString s)
  | array {d : Nat} {vs : List Json} : (∀ v ∈ vs, Nested d v) → Nested (d + 1) (.array vs)
  | record {d : Nat} {ms : List (String × Json)} :
      (∀ m ∈ ms, Nested d m.2) → Nested (d + 1) (.record ms)

theorem Nested.isWhole {d : Nat} {j : Json} (h : Nested d j) : j.isWhole := by
  induction h with
  | word | text => rfl
  | array _ ih =>
    rw [Json.isWhole, areWhole_iff]
    exact ih
  | record _ ih =>
    rw [Json.record, Json.isWhole, areWholeMembers_iff, List.forall_mem_map]
    exact ih

/-- What a library is documented to do. Readers of text may give up from 128 levels on; a name
without data is its text; a record is an object with its fields in order, but is read in any order,
among other keys, and from the array of its fields as well; a row is read item by item, and both a
missing item and one too many are refused. -/
structure Library.Lawful (l : Library) : Prop where
  parse_print : ∀ j, Nested 127 j → l.parse (l.print j) = some j
  ofWord_eq : ∀ v, l.ofWord v = .ofNat v.toNat
  word?_ofNat : ∀ v : UInt32, l.word? (.ofNat v.toNat) = some v
  ofName_eq : ∀ s, l.ofName s = .ofString s
  name?_ofString : ∀ {α : Type} (find : String → Option α) s,
    l.name? find (.ofString s) = find s
  ofFields_eq : ∀ p q, l.ofFields p q = .record [p, q]
  fields?_record : ∀ {α β : Type} {k k' : String} (f : Json → Option α) (g : Json → Option β) u v,
    k ≠ k' → l.fields? (k, f) (k', g) (.record [(k, u), (k', v)]) =
      (f u).bind fun a => (g v).map fun b => (a, b)
  fields?_perm : ∀ {α β : Type} (p : String × (Json → Option α)) (q : String × (Json → Option β))
    {ms ns : List (String × Json)}, ms.Perm ns → (ms.map Prod.fst).Nodup →
      l.fields? p q (.record ms) = l.fields? p q (.record ns)
  fields?_unknown : ∀ {α β : Type} (p : String × (Json → Option α))
    (q : String × (Json → Option β)) (ms ns : List (String × Json)) {m : String × Json},
    m.1 ≠ p.1 → m.1 ≠ q.1 →
      l.fields? p q (.record (ms ++ m :: ns)) = l.fields? p q (.record (ms ++ ns))
  fields?_array : ∀ {α β : Type} (p : String × (Json → Option α)) (q : String × (Json → Option β))
    u v, l.fields? p q (.array [u, v]) = (p.2 u).bind fun a => (q.2 v).map fun b => (a, b)
  ofRow_eq : ∀ vs, l.ofRow vs = .array vs
  row?_nil : ∀ {α : Type} (item : Json → Option α), l.row? 0 item (.array []) = some []
  row?_cons : ∀ {α : Type} (n : Nat) (item : Json → Option α) v vs,
    l.row? (n + 1) item (.array (v :: vs)) =
      (item v).bind fun a => (l.row? n item (.array vs)).map (a :: ·)
  row?_missing : ∀ {α : Type} (n : Nat) (item : Json → Option α),
    l.row? (n + 1) item (.array []) = none
  row?_surplus : ∀ {α : Type} (item : Json → Option α) v vs,
    l.row? 0 item (.array (v :: vs)) = none

namespace Library.Lawful

variable {l : Library} {α β : Type} {k k' : String} {u v : Json}
variable {ms ns more : List (String × Json)}

/-- Only the members with the keys of the fields count. -/
theorem fields?_filter (h : l.Lawful) (p : String × (Json → Option α))
    (q : String × (Json → Option β)) (ms ns : List (String × Json)) :
    l.fields? p q (.record (ms ++ ns)) =
      l.fields? p q (.record (ms ++ ns.filter fun m => m.1 = p.1 ∨ m.1 = q.1)) := by
  induction ns generalizing ms with
  | nil => rfl
  | cons m ns ih =>
    by_cases hm : m.1 = p.1 ∨ m.1 = q.1
    · have hrest := ih (ms ++ [m])
      simp only [List.append_assoc, List.singleton_append] at hrest
      rw [List.filter_cons_of_pos (by simpa using hm), hrest]
    · rw [List.filter_cons_of_neg (by simpa using hm)]
      rw [not_or] at hm
      rw [h.fields?_unknown p q ms ns hm.1 hm.2, ih]

/-- Both fields are found in any order among members with other keys. -/
theorem fields?_of_perm (h : l.Lawful) (f : Json → Option α) (g : Json → Option β)
    (hne : k ≠ k') (hperm : ms.Perm ((k, u) :: (k', v) :: more))
    (hmore : ∀ m ∈ more, m.1 ≠ k ∧ m.1 ≠ k') :
    l.fields? (k, f) (k', g) (.record ms) = (f u).bind fun a => (g v).map fun b => (a, b) := by
  have hothers : more.filter (fun m => decide (m.1 = k ∨ m.1 = k')) = [] := by
    rw [List.filter_eq_nil_iff]
    intro m hm
    simpa using hmore m hm
  have hfields := (hperm.filter fun m => decide (m.1 = k ∨ m.1 = k')).symm
  rw [List.filter_cons_of_pos (by simp), List.filter_cons_of_pos (by simp), hothers] at hfields
  have hfilter := h.fields?_filter (k, f) (k', g) [] ms
  rw [List.nil_append, List.nil_append] at hfilter
  rw [hfilter, ← h.fields?_perm (k, f) (k', g) hfields (by simpa using hne)]
  exact h.fields?_record f g u v hne

/-- A row is read from as many values as it is long, item by item. -/
theorem row?_eq_some_iff (h : l.Lawful) {item : Json → Option α} {n : Nat} {vs : List Json}
    {as : List α} :
    l.row? n item (.array vs) = some as ↔
      vs.length = n ∧ List.Forall₂ (fun v a => item v = some a) vs as := by
  induction vs generalizing n as with
  | nil =>
    cases n with
    | zero => simp [h.row?_nil, eq_comm]
    | succ n => simp [h.row?_missing]
  | cons v vs ih =>
    cases n with
    | zero => simp [h.row?_surplus]
    | succ n =>
      simp only [h.row?_cons, Option.bind_eq_some_iff, Option.map_eq_some_iff, ih,
        List.length_cons, Nat.add_right_cancel_iff, List.forall₂_cons_left_iff]
      constructor
      · rintro ⟨a, ha, as, ⟨hlength, has⟩, rfl⟩
        exact ⟨hlength, a, as, ha, has, rfl⟩
      · rintro ⟨hlength, a, as, ha, has, rfl⟩
        exact ⟨a, ha, as, ⟨hlength, has⟩, rfl⟩

end Library.Lawful

/-- The fields of an object whose keys are texts. -/
theorem fields?_record (keys : List String) (ms : List (String × Json)) :
    (record ms).fields? keys =
      keys.mapM fun k => single? ((ms.filter fun m => m.1 = k).map Prod.snd) := by
  have hall : (ms.map fun m => ((some m.1 : JsonText), m.2)).all fun m => m.1.isSome := by simp
  rw [record, fields?, if_pos hall]
  simp [valuesOf, List.filter_map, Function.comp_def]

/-- Where keys are not repeated, at most one member has a key, and so their order does not count. -/
theorem filter_eq_filter_of_perm {ms ns : List (String × Json)} (hperm : ms.Perm ns)
    (hkeys : (ms.map Prod.fst).Nodup) (k : String) :
    (ms.filter fun m => m.1 = k) = ns.filter fun m => m.1 = k := by
  have hfilter := hperm.filter fun m => decide (m.1 = k)
  have hnodup : ((ms.filter fun m => m.1 = k).map Prod.fst).Nodup :=
    hkeys.sublist (List.filter_sublist.map Prod.fst)
  have hkey : ∀ m ∈ ms.filter (fun m => m.1 = k), m.1 = k := by
    intro m hm
    simpa using List.of_mem_filter hm
  generalize ms.filter (fun m => decide (m.1 = k)) = ms' at *
  match ms' with
  | [] => exact (List.nil_perm.1 hfilter).symm
  | [m] => exact List.singleton_perm.1 hfilter
  | m :: m' :: _ =>
    have hm := hkey m (by simp)
    have hm' := hkey m' (by simp)
    simp [hm, hm'] at hnodup

theorem lawful_standard : Library.standard.Lawful where
  parse_print _ h := parse?_compact h.isWhole
  ofWord_eq _ := rfl
  word?_ofNat v := by
    show word? (ofNat v.toNat) = some v
    rw [ofNat, word?, if_pos v.toNat_lt_size, UInt32.ofNat_toNat]
  ofName_eq _ := rfl
  name?_ofString _ _ := rfl
  ofFields_eq _ _ := rfl
  fields?_record f g u v hne := by
    simp [Library.standard, fields?_record, single?, hne, hne.symm, Option.map_eq_bind]
  fields?_perm p q ms ns hperm hkeys := by
    simp only [Library.standard, fields?_record, filter_eq_filter_of_perm hperm hkeys]
  fields?_unknown p q ms ns m hp hq := by
    simp [Library.standard, fields?_record, List.filter_append, hp, hq]
  fields?_array p q u v := by
    simp [Library.standard, fields?, Option.map_eq_bind]
  ofRow_eq _ := rfl
  row?_nil _ := rfl
  row?_cons n item v vs := by
    by_cases hlength : vs.length = n
    · simp [Library.standard, array?, hlength, Option.map_eq_bind]
    · simp [Library.standard, array?, hlength]
  row?_missing _ _ := rfl
  row?_surplus _ _ _ := rfl

end Json

end Am29000
