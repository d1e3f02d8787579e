import Am29000.Operand
import Am29000.Text.Numeral

/-!
Scripts of steps on a row of operand slots. A step that names a slot outside the row is refused
and leaves the row as it was; the next steps still run.
-/
namespace Am29000

inductive Step where
  | clear
  /-- Back to the default row. -/
  | reset
  | load (os : List Operand)
  | put (i : Nat) (o : Operand)
  | release (i : Nat)
  /-- Kind and value of a slot. -/
  | look (i : Nat)
  /-- The operand itself. -/
  | index (i : Nat)
  | kinds
  | values
  deriving DecidableEq

/-- What a step answers besides the row that it leaves. -/
inductive Answer where
  | done
  | operand (o : Operand)
  | kinds (ks : List Kind)
  | values (vs : List UInt32)
  | outside (i : Nat)
  deriving DecidableEq

def Answer.outsideMessage (i : Nat) : String :=
  "index out of bounds: the len is 6 but the index is " ++ Numeral.decimal i

namespace Step

/-- The default row: each slot holds the default kind and the default value. -/
def initial : Slots := ⟨.replicate 6 ⟨.unused, 0⟩⟩

def putAt (s : Slots) (i : Nat) (o : Operand) : Answer × Slots :=
  match s.set? i o with
  | some t => (.done, t)
  | none => (.outside i, s)

def apply (s : Slots) : Step → Answer × Slots
  | clear => (.done, .empty)
  | reset => (.done, initial)
  | load os => (.done, .ofList os)
  | put i o => putAt s i o
  | release i => putAt s i .unused
  | look i =>
      match s.get? i with
      | some o => (.operand ⟨o.kind, o.value⟩, s)
      | none => (.outside i, s)
  | index i =>
      if h : i < 6 then (.operand s.row[i], s) else (.outside i, s)
  | kinds => (.kinds s.kinds, s)
  | values => (.values s.values, s)

/-- The answer of every step with the row after it. -/
def run (s : Slots) : List Step → List (Answer × Slots)
  | [] => []
  | t :: rest => t.apply s :: run (t.apply s).2 rest

end Step

end Am29000
