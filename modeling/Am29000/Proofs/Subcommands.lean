import Am29000.Proofs.Arguments

/-!
Command lines with one part exchanged. Main statements: what stands before the name of a subcommand
is read the same whatever follows, and without the arguments of a setting the rest of a command line
is read the same as with them.
-/
namespace Am29000.Command

namespace Grammar

variable {κ : Type} {g : Grammar κ} {arg name : String} {args rest : List String} {t : Token κ}

/-- No argument alone is read as a subcommand. -/
theorem ne_subcommand_of_read (h : g.read arg = .token t) (name : String) (rest : List String) :
    t ≠ .subcommand name rest := by
  rintro rfl
  unfold read at h
  split at h
  next =>
    unfold readName at h
    split at h
    next =>
      rw [Reading.token.injEq] at h
      split at h <;> cases h
    next =>
      split at h
      next =>
        rw [Reading.token.injEq] at h
        split at h <;> cases h
      next => split at h <;> cases h
  next =>
    unfold readLetter at h
    split at h
    next => cases h
    next =>
      split at h
      next => cases h
      next => split at h <;> cases h
  next => cases h

end Grammar

namespace Collected

variable {κ : Type} {s : Collected κ} {key : κ} {t : Token κ}

/-- One more token collected. -/
def add (s : Collected κ) : Token κ → Collected κ
  | .setting key value => { s with settings := s.settings ++ [(key, value)] }
  | .flag key => { s with flags := s.flags ++ [key] }
  | .operand text => { s with operands := s.operands ++ [text] }
  | _ => s

@[simp] theorem subcommand_add (s : Collected κ) (t : Token κ) :
    (s.add t).subcommand = s.subcommand := by
  cases t <;> rfl

variable [DecidableEq κ]

/-- The same without the settings of a key. -/
def without (s : Collected κ) (key : κ) : Collected κ :=
  { s with settings := s.settings.filter fun p => p.1 ≠ key }

theorem setting?_without {key' : κ} (h : key' ≠ key) (s : Collected κ) :
    (s.without key).setting? key' = s.setting? key' := by
  rw [setting?, setting?, without, List.find?_filter]
  congr 2
  funext p
  by_cases hp : p.1 = key' <;> simp [hp, h]

end Collected

namespace Grammar

variable {κ : Type} [DecidableEq κ] {g : Grammar κ} {arg name : String} {args rest : List String}
variable {t : Token κ} {s s' : Collected κ} {ts : List (Token κ)} {key : κ}

/-- A token that is collected without ending the collection. -/
def Takes (g : Grammar κ) (s : Collected κ) : Token κ → Prop
  | .setting key value => s.setting? key = none ∧ g.accepts key value
  | .flag key => s.hasFlag key = false
  | .operand _ => g.hasRoom s.operands.length
  | _ => False

theorem takes_of_collect (h : g.collect s (t :: ts) = .ok s')
    (ht : ∀ name rest, t ≠ .subcommand name rest) : g.Takes s t := by
  cases t with
  | setting key value =>
    rw [collect] at h
    split at h
    next hs => exact ⟨Option.isNone_iff_eq_none.1 hs.1, hs.2⟩
    next => cases h
  | flag key =>
    rw [collect] at h
    split at h
    next => cases h
    next hs => exact Bool.eq_false_iff.2 hs
  | operand text =>
    rw [collect] at h
    split at h
    next hs => exact hs
    next => cases h
  | subcommand name rest => exact absurd rfl (ht name rest)
  | version => cases h
  | help => cases h
  | senseless => cases h

theorem collect_cons (h : g.Takes s t) : g.collect s (t :: ts) = g.collect (s.add t) ts := by
  cases t with
  | setting key value => exact collect_setting h.1 h.2
  | flag key => exact collect_flag h
  | operand text => exact collect_operand h
  | subcommand | version | help | senseless => exact h.elim

theorem Takes.without (h : g.Takes s t) (ht : ∀ value, t ≠ .setting key value) :
    g.Takes (s.without key) t := by
  cases t with
  | setting key' value =>
    have hne : key' ≠ key := by
      rintro rfl
      exact ht value rfl
    exact ⟨(s.setting?_without hne).trans h.1, h.2⟩
  | flag | operand | subcommand | version | help | senseless => exact h

theorem subcommand_of_collect_operands {texts : List String}
    (h : g.collect s (texts.map .operand) = .ok s') : s'.subcommand = s.subcommand := by
  induction texts generalizing s with
  | nil =>
    obtain rfl := Except.ok.inj h
    rfl
  | cons text texts ih =>
    rw [List.map_cons] at h
    rw [collect_cons (takes_of_collect h (by simp))] at h
    rw [ih h, Collected.subcommand_add]

/-- What stands before a subcommand is read and collected whatever the subcommand is. -/
theorem exists_front (h : g.collect s (g.tokens args) = .ok s') (hs : s.subcommand = none)
    (hs' : s'.subcommand = some (name, rest)) :
    ∃ front, args = front ++ name :: rest ∧
      ∀ name' ∈ g.subcommands, ∀ rest',
        g.collect s (g.tokens (front ++ name' :: rest')) =
          .ok { s' with subcommand := some (name', rest') } := by
  fun_induction tokens g args generalizing s with
  | case1 =>
    obtain rfl := Except.ok.inj h
    simp [hs] at hs'
  | case2 arg rest hsub =>
    obtain rfl := Except.ok.inj h
    obtain ⟨rfl, rfl⟩ := Prod.mk.inj (Option.some.inj hs')
    refine ⟨[], rfl, fun name' hname rest' => ?_⟩
    rw [List.nil_append, tokens_subcommand hname]
    rfl
  | case3 =>
    rw [subcommand_of_collect_operands h, hs] at hs'
    cases hs'
  | case4 arg hsub hend t rest hread ih =>
    have ht := takes_of_collect h (ne_subcommand_of_read hread)
    rw [collect_cons ht] at h
    obtain ⟨front, rfl, hfront⟩ := ih h ((s.subcommand_add t).trans hs)
    refine ⟨arg :: front, rfl, fun name' hname rest' => ?_⟩
    rw [List.cons_append, tokens_cons hsub hend hread, collect_cons ht]
    exact hfront name' hname rest'
  | case5 arg hsub hend key value rest hread hplain ih =>
    have ht := takes_of_collect h (by simp)
    rw [collect_cons ht] at h
    obtain ⟨front, rfl, hfront⟩ := ih h ((s.subcommand_add _).trans hs)
    refine ⟨arg :: value :: front, rfl, fun name' hname rest' => ?_⟩
    rw [List.cons_append, List.cons_append, tokens_setting hsub hend hread hplain, collect_cons ht]
    exact hfront name' hname rest'
  | case6 => cases h
  | case7 => cases h

/-- The arguments without those that give a setting, which are one or two each time. -/
def without (g : Grammar κ) (key : κ) : List String → List String
  | [] => []
  | arg :: rest =>
      if arg ∈ g.subcommands ∨ arg = "--" then arg :: rest
      else
        match g.read arg, rest with
        | .token (.setting key' _), rest =>
            if key' = key then without g key rest else arg :: without g key rest
        | .token _, rest => arg :: without g key rest
        | .awaiting key', value :: rest =>
            if key' = key then without g key rest else arg :: value :: without g key rest
        | .awaiting _, [] => [arg]

end Grammar

namespace RangeRequest

end RangeRequest

namespace ImageAction

theorem name_of_ofSubcommand {name : String} {rest : List String} {a : ImageAction}
    (h : ofSubcommand name rest = .ok a) : a.name = name := by
  unfold ofSubcommand at h
  split at h
  next hname =>
    cases hparse : noKeys.parse rest with
    | error e => simp [hparse, Except.map] at h
    | ok s =>
      rw [hparse] at h
      obtain rfl := Except.ok.inj h
      exact hname.symm
  next =>
    split at h
    next hname =>
      cases hq : RangeRequest.ofArguments rest with
      | error e => simp [hq, Except.map] at h
      | ok q =>
        rw [hq] at h
        obtain rfl := Except.ok.inj h
        exact hname.symm
    next => split at h <;> cases h

theorem ofSubcommand_range (rest : List String) :
    ofSubcommand "range" rest = (RangeRequest.ofArguments rest).map .range := rfl

end ImageAction

namespace ImageRequest

/-- A request consists of what stands before its subcommand and of the subcommand, and either can
be exchanged alone. -/
theorem exists_front {args : List String} {r : ImageRequest} (h : ofArguments args = .ok r) :
    ∃ front rest, args = front ++ r.action.name :: rest ∧
      ImageAction.ofSubcommand r.action.name rest = .ok r.action ∧
      ∀ a' rest', ImageAction.ofSubcommand a'.name rest' = .ok a' →
        ofArguments (front ++ a'.name :: rest') = .ok { r with action := a' } := by
  unfold ofArguments at h
  split at h
  next => cases h
  next s hs =>
    split at h
    next => cases h
    next name rest hsub =>
      split at h
      next => cases h
      next action file haction hoperands =>
        obtain rfl := Except.ok.inj h
        obtain rfl := ImageAction.name_of_ofSubcommand haction
        obtain ⟨front, rfl, hfront⟩ := Grammar.exists_front hs rfl hsub
        refine ⟨front, rest, rfl, haction, fun a' rest' ha' => ?_⟩
        have hname : a'.name ∈ grammar.subcommands := by
          cases a' <;> simp [ImageAction.name, ImageAction.names, grammar]
        have hparse : grammar.parse (front ++ a'.name :: rest') = _ := hfront _ hname rest'
        unfold ofArguments
        rw [hparse]
        simp only [hoperands, ha']
        rfl
      next => cases h

end ImageRequest

end Am29000.Command
