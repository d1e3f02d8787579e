import Am29000.Proofs.Selection

/-!
The shape of decoded instructions. Main statement: whatever a decoder accepts, the operands lead
their row, their kinds form one of thirteen rows, and every value is in the range of its kind.
-/
namespace Am29000

/-- A multiple of four within the reach of an eighteen-bit displacement. -/
def InReach (v : UInt32) : Prop :=
  4 ∣ v.toNat ∧ -131072 ≤ v.toInt32.toInt ∧ v.toInt32.toInt ≤ 131068

theorem toInt_toInt32_eq_bmod (v : UInt32) : v.toInt32.toInt = (v.toNat : Int).bmod (2 ^ 32) := by
  rw [← Int32.toInt_toBitVec, UInt32.toBitVec_toInt32, BitVec.toInt_eq_toNat_bmod,
    UInt32.toNat_toBitVec]

/-- A displacement is four times the constant of its word, read as a signed number. -/
theorem Word.toInt_displacement (w : Word) :
    w.displacement.toInt32.toInt = 4 * (w.constant : Int).bmod (2 ^ 16) := by
  have := w.constant_lt
  rw [toInt_toInt32_eq_bmod, toNat_displacement, Int.bmod_def, Int.bmod_def]
  split <;> omega

theorem Word.inReach_displacement (w : Word) : InReach w.displacement := by
  have := w.constant_lt
  refine ⟨?_, ?_, ?_⟩
  · rw [toNat_displacement]
    split <;> omega
  · rw [toInt_displacement, Int.bmod_def]
    split <;> omega
  · rw [toInt_displacement, Int.bmod_def]
    split <;> omega

namespace Layout

/-- The layouts of jumps and calls, whose immediates are absolute addresses. -/
def isJump : Layout → Bool
  | raTarget | target => true
  | _ => false

end Layout

/-- The value of an operand is in the range of its kind. -/
def Operand.Within (l : Layout) (o : Operand) : Prop :=
  match o.kind with
  | .register => o.value.toNat ≤ 255
  | .immediate => if l.isJump then InReach o.value else o.value.toNat ≤ 65535
  | .displacement => InReach o.value
  | .unused => o.value = 0

namespace Slots

/-- The rows of operand kinds that layouts give, without the unused ones. -/
def rowKinds : List (List Kind) :=
  [[], [.register], [.immediate], [.displacement],
   [.register, .register], [.register, .immediate], [.register, .displacement],
   [.register, .register, .register], [.register, .register, .immediate],
   [.register, .immediate, .immediate],
   [.immediate, .immediate, .register, .register],
   [.immediate, .immediate, .register, .immediate],
   [.register, .register, .immediate, .immediate, .immediate, .immediate]]

/-- The slots below the arity are used, those from it on are unused and zero, and there is at most
one displacement, as it can only be the last operand. -/
structure WellFormed (l : Layout) (s : Slots) : Prop where
  used : ∀ k < s.arity, ∃ o, s.get? k = some o ∧ o.kind ≠ .unused
  unused : ∀ k, s.arity ≤ k → k < 6 → s.get? k = some ⟨.unused, 0⟩
  kinds : s.kinds.take s.arity ∈ rowKinds
  register : ∀ k v, s.get? k = some ⟨.register, v⟩ → v.toNat ≤ 255
  displacement_last : ∀ k v, s.get? k = some ⟨.displacement, v⟩ → k + 1 = s.arity
  displacement_reach : ∀ k v, s.get? k = some ⟨.displacement, v⟩ → InReach v
  immediate : ∀ k v, s.get? k = some ⟨.immediate, v⟩ →
    if l.isJump then InReach v else v.toNat ≤ 65535

theorem displacement_last_of_mem_rowKinds :
    ∀ r ∈ rowKinds, ∀ k < r.length, r[k]? = some .displacement → k + 1 = r.length := by
  decide

theorem Leading.within_of_get? {l : Layout} {os : List Operand} (h : Leading os)
    (hwithin : ∀ o ∈ os, o.Within l) {k : Nat} {o : Operand} (hk : (ofList os).get? k = some o)
    (ho : o.kind ≠ .unused) : o.Within l :=
  hwithin o (List.mem_of_getElem? (h.getElem?_of_get?_ofList hk ho))

/-- Operands in range whose kinds form one of the rows make up a well-formed row of slots. -/
theorem Leading.wellFormed_ofList {l : Layout} {os : List Operand} (h : Leading os)
    (hkinds : os.map Operand.kind ∈ rowKinds) (hwithin : ∀ o ∈ os, o.Within l) :
    (ofList os).WellFormed l where
  used k hk := by
    rw [h.arity_ofList] at hk
    refine ⟨os[k], ?_, h.used _ (List.getElem_mem hk)⟩
    rw [h.get?_ofList, List.getElem?_append_left hk, List.getElem?_eq_getElem hk]
  unused k hk hlt := by
    rw [h.arity_ofList] at hk
    exact h.get?_ofList_of_le hk hlt
  kinds := by
    have htake : (ofList os).kinds.take (ofList os).arity = os.map Operand.kind := by
      rw [kinds, h.arity_ofList, toList_ofList h.length_le, ← List.map_take,
        List.take_left' rfl]
    rwa [htake]
  register k v hk := h.within_of_get? hwithin hk (by simp)
  displacement_last k v hk := by
    have hos := h.getElem?_of_get?_ofList hk (by simp)
    have hlt : k < (os.map Operand.kind).length := by
      simpa using (List.getElem?_eq_some_iff.1 hos).1
    have := displacement_last_of_mem_rowKinds _ hkinds k hlt (by simp [hos])
    rw [h.arity_ofList, this, List.length_map]
  displacement_reach k v hk := h.within_of_get? hwithin hk (by simp)
  immediate k v hk := h.within_of_get? hwithin hk (by simp)

end Slots

namespace Layout

theorem map_kind_fields_mem (l : Layout) (w : Word) :
    (l.fields w).map Operand.kind ∈ Slots.rowKinds := by
  cases l <;>
    simp only [fields, List.map_cons, List.map_nil, kind_lastByte, kind_jumpField, field,
      Operand.register, Operand.immediate] <;>
    cases w.mode <;> decide

theorem within_register (l : Layout) (b : UInt8) : (Operand.register b).Within l := by
  have := b.toNat_lt
  show b.toUInt32.toNat ≤ 255
  rw [UInt8.toNat_toUInt32]
  omega

theorem within_immediate {l : Layout} (hl : l.isJump = false) {v : UInt32}
    (hv : v.toNat < 2 ^ 16) : (Operand.immediate v).Within l := by
  simp only [Operand.Within, Operand.immediate, hl, Bool.false_eq_true, ↓reduceIte]
  omega

theorem within_field {l : Layout} (hl : l.isJump = false) (b : UInt8) (low width : Nat) :
    (field b low width).Within l := by
  have := toNat_bits_lt b low width
  exact within_immediate hl (by omega)

theorem within_lastByte {l : Layout} (hl : l.isJump = false) (w : Word) :
    (lastByte w).Within l := by
  unfold lastByte
  split
  · exact within_field hl w.third 0 8
  · exact within_register l w.third

theorem within_jumpField {l : Layout} (hl : l.isJump = true) (w : Word) (relative : Bool) :
    (jumpField w relative).Within l := by
  unfold jumpField
  split
  · exact w.inReach_displacement
  · simpa only [Operand.Within, Operand.immediate, hl, ↓reduceIte] using w.inReach_displacement

/-- Every operand that a layout finds is in the range of its kind. -/
theorem within_fields (l : Layout) (w : Word) : ∀ o ∈ l.fields w, o.Within l := by
  have hregister := within_register l
  cases hl : l.isJump with
  | true =>
    have hjump := within_jumpField hl w
    cases l with
    | raTarget | target => simp [fields, hregister, hjump]
    | _ => cases hl
  | false =>
    have hlast := within_lastByte hl w
    have hfield := within_field hl
    have hconstant : (UInt32.ofNat w.constant).toNat < 2 ^ 16 := by
      rw [UInt32.toNat_ofNat']
      exact (Nat.mod_le _ _).trans_lt w.constant_lt
    cases l with
    | raTarget | target => cases hl
    | _ => simp [fields, hregister, hlast, hfield, within_immediate hl hconstant]

theorem wellFormed_slots (l : Layout) (w : Word) : (l.slots w).WellFormed l :=
  (l.leading_fields w).wellFormed_ofList (l.map_kind_fields_mem w) (l.within_fields w)

end Layout

namespace Config

/-- Every instruction that decodes is well formed for the layout of its opcode's entry. -/
theorem wellFormed_of_decode {c : Config} {bytes : List UInt8} {i : Instruction}
    (h : c.decode bytes = .ok i) :
    ∃ w e, Word.ofList? (bytes.take 4) = some w ∧ c.lookup w.opcode = some e ∧
      i.slots.WellFormed e.layout := by
  obtain ⟨w, hw, hi⟩ := decode_eq_ok_iff.1 h
  rcases decodeWord_eq_ok_iff.1 hi with ⟨rfl, rfl⟩ | ⟨-, e, he, rfl⟩
  · obtain ⟨e, he, -⟩ := c.lookup_reservedNop
    have hempty : Slots.Leading [] := ⟨by simp, by simp⟩
    exact ⟨_, e, hw, he, hempty.wellFormed_ofList (by decide) (by simp)⟩
  · exact ⟨w, e, hw, he, e.layout.wellFormed_slots w⟩

/-- The longest jump back is in reach, and a byte after the word does no harm. -/
theorem wellFormed_farthest_call :
    let c : Config := ⟨.am29050, true⟩
    let i : Instruction := ⟨"call", .call, .ofList [.register 5, .displacement 0xFFFE0000]⟩
    c.decode [0xA8, 0x80, 0x05, 0x00, 0x99] = .ok i ∧
      ∃ w e, Word.ofList? [0xA8, 0x80, 0x05, 0x00] = some w ∧ c.lookup w.opcode = some e ∧
        i.slots.WellFormed e.layout := by
  intro c i
  have h : c.decode [0xA8, 0x80, 0x05, 0x00, 0x99] = .ok i := by decide +kernel
  exact ⟨h, wellFormed_of_decode h⟩

end Config

end Am29000
