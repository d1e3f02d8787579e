import Am29000.Operand.Json
import Am29000.Proofs.JsonLaws
import Am29000.Proofs.Rows

/-!
Rows of slots as JSON text, whatever library writes and reads them. Main statement: a row of slots
is read back from its text and from every other spelling of its operands, and six of them make a
row.
-/
namespace Am29000

variable {l : Json.Library} {j : Json}

namespace Kind

/-- The names of the kinds. -/
inductive Named : Kind → String → Prop
  | register : Named .register "Register"
  | immediate : Named .immediate "Immediate"
  | displacement : Named .displacement "JumpDisplacement"
  | unused : Named .unused "Unused"

theorem named_name (k : Kind) : k.Named k.name := by
  cases k with
  | register => exact .register
  | immediate => exact .immediate
  | displacement => exact .displacement
  | unused => exact .unused

theorem Named.ofName?_eq {k : Kind} {s : String} (h : k.Named s) : ofName? s = some k := by
  cases h with
  | register => exact ofName?_name .register
  | immediate => exact ofName?_name .immediate
  | displacement => exact ofName?_name .displacement
  | unused => exact ofName?_name .unused

end Kind

namespace Operand

variable {o : Operand}

/-- Ways to write an operand: the array of its kind and its value, or both under their keys in
either order, among other keys with texts. -/
inductive Respelt (o : Operand) : Json → Prop
  | pair {name : String} :
      o.kind.Named name → Respelt o (.array [.ofString name, .ofNat o.value.toNat])
  | record {name : String} {ms : List (String × Json)} (more : List (String × String)) :
      o.kind.Named name → (∀ m ∈ more, m.1 ≠ "kind" ∧ m.1 ≠ "value") →
      ms.Perm (("kind", .ofString name) :: ("value", .ofNat o.value.toNat) ::
        more.map fun m => (m.1, .ofString m.2)) →
      Respelt o (.record ms)

theorem respelt_writeWith (h : l.Lawful) (o : Operand) : o.Respelt (o.writeWith l) := by
  rw [writeWith, h.ofFields_eq, h.ofName_eq, h.ofWord_eq]
  exact .record [] o.kind.named_name (by simp) (.refl _)

theorem Respelt.readWith_eq (hj : o.Respelt j) (h : l.Lawful) : readWith l j = some o := by
  have hkind {name : String} (hname : o.kind.Named name) :
      l.name? Kind.ofName? (.ofString name) = some o.kind :=
    (h.name?_ofString _ _).trans hname.ofName?_eq
  have hvalue := h.word?_ofNat o.value
  have hfields : l.fields? ("kind", l.name? Kind.ofName?) ("value", l.word?) j =
      some (o.kind, o.value) := by
    cases hj with
    | pair hname =>
      rw [h.fields?_array]
      simp only [hkind hname, hvalue, Option.bind_some, Option.map_some]
    | record more hname hmore hperm =>
      have hothers : ∀ m ∈ more.map fun m => (m.1, Json.ofString m.2),
          m.1 ≠ "kind" ∧ m.1 ≠ "value" := by
        rwa [List.forall_mem_map]
      rw [h.fields?_of_perm _ _ (by decide) hperm hothers, hkind hname, hvalue, Option.bind_some,
        Option.map_some]
  rw [readWith, hfields, Option.map_some]

theorem Respelt.nested (hj : o.Respelt j) : Json.Nested 126 j := by
  cases hj with
  | pair hname =>
    refine .array fun v hv => ?_
    rcases List.mem_pair.1 hv with rfl | rfl
    · exact .text _
    · exact .word _
  | record more hname hmore hperm =>
    refine .record fun m hm => ?_
    rcases List.mem_cons.1 (hperm.mem_iff.1 hm) with rfl | hm
    · exact .text _
    rcases List.mem_cons.1 hm with rfl | hm
    · exact .word _
    obtain ⟨m, -, rfl⟩ := List.mem_map.1 hm
    exact .text _

end Operand

namespace Slots

variable {s : Slots} {vs : List Json}

theorem toList_ofList_of_length {os : List Operand} (h : os.length = 6) :
    (ofList os).toList = os := by
  rw [toList_ofList h.le, h]
  exact List.append_nil os

theorem ofList_toList (s : Slots) : ofList s.toList = s := by
  have h := toList_ofList_of_length s.length_toList
  obtain ⟨row⟩ := s
  exact congrArg mk (Vector.toList_inj.1 h)

/-- A row of slots is read from the array of six operands. -/
theorem readWith_array_eq_some_iff (h : l.Lawful) :
    readWith l (.array vs) = some s ↔
      List.Forall₂ (fun v o => Operand.readWith l v = some o) vs s.toList := by
  rw [readWith, Option.map_eq_some_iff]
  simp only [h.row?_eq_some_iff]
  constructor
  · rintro ⟨os, ⟨hlength, hos⟩, rfl⟩
    rwa [toList_ofList_of_length (hos.length_eq.symm.trans hlength)]
  · intro hvs
    exact ⟨s.toList, ⟨hvs.length_eq.trans s.length_toList, hvs⟩, ofList_toList s⟩

theorem ofText?_of_parse {text : String} (htext : l.parse text = some j) :
    ofText? l text = readWith l j := by
  rw [ofText?, htext, Option.bind_some]

/-- An array of respelt operands is read as their row, from every text that stands for it. -/
theorem parse_print_respelt (h : l.Lawful) (hvs : List.Forall₂ Operand.Respelt s.toList vs) :
    l.parse (l.print (.array vs)) = some (.array vs) ∧ readWith l (.array vs) = some s := by
  constructor
  · refine h.parse_print _ (.array fun v hv => ?_)
    obtain ⟨o, ho⟩ := exists_of_mem_of_forall₂ hvs.flip hv
    exact ho.nested
  · exact (readWith_array_eq_some_iff h).2 (hvs.flip.imp fun v o ho => ho.readWith_eq h)

/-- A row of slots is written in one of its spellings. -/
theorem exists_toText_eq (h : l.Lawful) (s : Slots) :
    ∃ vs, List.Forall₂ Operand.Respelt s.toList vs ∧ s.toText l = l.print (.array vs) := by
  refine ⟨_, forall₂_map fun o _ => o.respelt_writeWith h, ?_⟩
  rw [toText, writeWith, h.ofRow_eq]

/-- With every library that does what it is documented to do, a row of slots is read back from its
text, which spells its operands in one of their ways, and from every text that spells some of them
in another. An array of more or fewer than six values is no row. -/
theorem ofText?_respelt (h : l.Lawful) (s : Slots) :
    (∃ vs, List.Forall₂ Operand.Respelt s.toList vs ∧ s.toText l = l.print (.array vs)) ∧
    ofText? l (s.toText l) = some s ∧
    (∀ vs, List.Forall₂ Operand.Respelt s.toList vs →
      ofText? l (l.print (.array vs)) = some s ∧
        ∀ text, l.parse text = some (.array vs) → ofText? l text = some s) ∧
    ∀ text vs, l.parse text = some (.array vs) → vs.length ≠ 6 → ofText? l text = none := by
  have hrespelt (vs : List Json) (hvs : List.Forall₂ Operand.Respelt s.toList vs) :
      ofText? l (l.print (.array vs)) = some s ∧
        ∀ text, l.parse text = some (.array vs) → ofText? l text = some s := by
    obtain ⟨hparse, hread⟩ := parse_print_respelt h hvs
    exact ⟨(ofText?_of_parse hparse).trans hread,
      fun text htext => (ofText?_of_parse htext).trans hread⟩
  obtain ⟨vs, hvs, htext⟩ := exists_toText_eq h s
  refine ⟨⟨vs, hvs, htext⟩, ?_, hrespelt, fun text vs htext hlength => ?_⟩
  · rw [htext]
    exact (hrespelt vs hvs).1
  · rw [ofText?_of_parse htext, Option.eq_none_iff_forall_ne_some]
    intro t ht
    have hitems := (readWith_array_eq_some_iff h).1 ht
    exact hlength (hitems.length_eq.trans t.length_toList)

/-- An unused slot that keeps a value, with its keys swapped and one more among them, the largest
value, and an operand as an array. A row of one slot is none. -/
theorem ofText?_respelt_standard :
    let l := Json.Library.standard
    let s : Slots := ⟨#v[⟨.unused, 77⟩, ⟨.register, 0xFFFFFFFF⟩, ⟨.displacement, 4⟩, .unused,
      .unused, .unused]⟩
    let unused := Json.record [("kind", .ofString "Unused"), ("value", .ofNat 0)]
    let vs : List Json :=
      [.record [("value", .ofNat 77), ("note", .ofString "kind"), ("kind", .ofString "Unused")],
        .record [("kind", .ofString "Register"), ("value", .ofNat 0xFFFFFFFF)],
        .array [.ofString "JumpDisplacement", .ofNat 4], unused, unused, unused]
    l.Lawful ∧ ofText? l (s.toText l) = some s ∧ ofText? l (l.print (.array vs)) = some s ∧
      ofText? l "[[\"Unused\",77]]" = none := by
  intro l s unused vs
  have hunused : Operand.unused.Respelt unused := .record [] .unused (by simp) (.refl _)
  have hvs : List.Forall₂ Operand.Respelt s.toList vs := by
    refine .cons (.record [("note", "kind")] .unused (by simp) ?_)
      (.cons (.record [] .register (by simp) ?_) (.cons (.pair .displacement)
        (.cons hunused (.cons hunused (.cons hunused .nil)))))
    · exact List.perm_append_singleton _ [_, _]
    · simp
  have hshort : l.parse "[[\"Unused\",77]]" =
      some (.array [.array [.ofString "Unused", .ofNat 77]]) := by
    have hprint : "[[\"Unused\",77]]" =
        l.print (.array [.array [.ofString "Unused", .ofNat 77]]) := by
      decide +kernel
    have hnested : Json.Nested 127 (.array [.array [.ofString "Unused", .ofNat 77]]) := by
      refine .array fun v hv => ?_
      rw [List.mem_singleton.1 hv]
      exact Operand.Respelt.nested (o := ⟨.unused, 77⟩) (.pair .unused)
    rw [hprint]
    exact Json.lawful_standard.parse_print _ hnested
  obtain ⟨-, hback, hrespelt, hlength⟩ := ofText?_respelt Json.lawful_standard s
  exact ⟨Json.lawful_standard, hback, (hrespelt vs hvs).1, hlength _ _ hshort (by decide)⟩

end Slots

end Am29000
