/-!
Operands and the six slots in which an instruction holds them. A slot that is not in use can
still hold a value, and a used slot may follow an unused one; `operands?` sees only rows without
such gaps.
-/
namespace Am29000

inductive Kind where
  | register
  | immediate
  | displacement
  | unused
  deriving DecidableEq

structure Operand where
  kind : Kind
  value : UInt32
  deriving DecidableEq

namespace Operand

def unused : Operand := ⟨.unused, 0⟩

def register (n : UInt8) : Operand := ⟨.register, n.toUInt32⟩

def immediate (v : UInt32) : Operand := ⟨.immediate, v⟩

def displacement (d : UInt32) : Operand := ⟨.displacement, d⟩

def isUnused (o : Operand) : Bool := o.kind = .unused

end Operand

/-- A row of six operand slots. -/
structure Slots where
  row : Vector Operand 6
  deriving DecidableEq

namespace Slots

/-- The first six operands of a list; the slots that it leaves over are unused and zero. -/
def ofList (os : List Operand) : Slots := ⟨Vector.ofFn fun i => os.getD i .unused⟩

def empty : Slots := ofList []

def toList (s : Slots) : List Operand := s.row.toList

def kinds (s : Slots) : List Kind := s.toList.map Operand.kind

def values (s : Slots) : List UInt32 := s.toList.map Operand.value

def get? (s : Slots) (i : Nat) : Option Operand := s.row[i]?

/-- Replaces the operand of one slot; there is no slot to replace from the seventh on. -/
def set? (s : Slots) (i : Nat) (o : Operand) : Option Slots :=
  if h : i < 6 then some ⟨s.row.set i o h⟩ else none

/-- The number of slots before the first unused one. -/
def arity (s : Slots) : Nat := s.toList.findIdx Operand.isUnused

/-- The operands before the first unused slot, provided that no used one follows it. -/
def operands? (s : Slots) : Option (List Operand) :=
  if (s.toList.drop s.arity).all Operand.isUnused then some (s.toList.take s.arity)
  else none

@[simp] theorem length_toList (s : Slots) : s.toList.length = 6 := by simp [toList]

theorem getElem?_toList_ofList (os : List Operand) (i : Nat) (h : i < 6) :
    (ofList os).toList[i]? = some (os.getD i .unused) := by
  simp [ofList, toList, h]

theorem get?_eq_getElem? (s : Slots) (i : Nat) : s.get? i = s.toList[i]? := by
  simp [get?, toList]

theorem isSome_set? (s : Slots) (i : Nat) (o : Operand) : (s.set? i o).isSome = decide (i < 6) := by
  by_cases h : i < 6 <;> simp [set?, h]

theorem toList_set? {s t : Slots} {i : Nat} {o : Operand} (h : s.set? i o = some t) :
    t.toList = s.toList.set i o := by
  unfold set? at h
  split at h
  next hi =>
    obtain rfl := Option.some.inj h
    simp [toList, Vector.toList]
  next => simp at h

theorem arity_le (s : Slots) : s.arity ≤ 6 := by
  simpa [arity] using @List.findIdx_le_length _ Operand.isUnused s.toList

end Slots

end Am29000
