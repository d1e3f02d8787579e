import Am29000.Proofs.Rendering

/-!
Relocation. Two sweeps over the same bytes at different places stay in lockstep. Main statement:
when an image and a range of it move by the same distance, every line moves with them and tells the
same, but for its target, which moves as well.
-/
namespace Am29000

/-- The same bytes with the base moved by `d`. -/
structure Segment.Moved (d : Int) (s t : Segment) : Prop where
  base : (t.base.toNat : Int) = s.base.toNat + d
  bytes : t.bytes = s.bytes

theorem Segment.Moved.byte?_eq {d : Int} {s t : Segment} {x y : UInt32} (h : s.Moved d t)
    (hy : (y.toNat : Int) = x.toNat + d) : t.byte? y = s.byte? x := by
  have hbase := h.base
  have hcontains : t.contains y = s.contains x := by
    rw [Bool.eq_iff_iff, contains, contains, stop, stop, h.bytes]
    simp only [Bool.and_eq_true, decide_eq_true_eq]
    omega
  have hindex : y.toNat - t.base.toNat = x.toNat - s.base.toNat := by omega
  rw [byte?, byte?, hcontains, hindex, h.bytes]

namespace Image

variable {d : Int} {m n : Image} {x y start stop start' stop' : UInt32}

/-- Every segment is moved by `d`. -/
def Moved (d : Int) (m n : Image) : Prop := List.Forall₂ (Segment.Moved d) m.segments n.segments

/-- What one image holds in `[lo, hi)`, the other holds at addresses moved by `d`. -/
def AgreeMoved (d : Int) (lo hi : Nat) (m n : Image) : Prop :=
  ∀ x y : UInt32, lo ≤ x.toNat → x.toNat < hi → (y.toNat : Int) = x.toNat + d →
    n.byte? y = m.byte? x

theorem Moved.agree (h : m.Moved d n) (lo hi : Nat) : AgreeMoved d lo hi m n := by
  intro x y _ _ hy
  obtain ⟨ss⟩ := m
  obtain ⟨ts⟩ := n
  unfold Moved at h
  unfold byte?
  dsimp only at h ⊢
  induction h with
  | nil => rfl
  | cons hst _ ih => rw [List.findSome?_cons, List.findSome?_cons, hst.byte?_eq hy, ih]

theorem AgreeMoved.mono {lo lo' hi hi' : Nat} (h : AgreeMoved d lo hi m n) (hlo : lo ≤ lo')
    (hhi : hi' ≤ hi) : AgreeMoved d lo' hi' m n :=
  fun x y hx hx' => h x y (by omega) (by omega)

theorem AgreeMoved.word?_eq (h : AgreeMoved d x.toNat (x.toNat + 4) m n)
    (hy : (y.toNat : Int) = x.toNat + d) (hx' : x.toNat + 4 ≤ UInt32.size)
    (hy' : y.toNat + 4 ≤ UInt32.size) : n.word? y = m.word? x := by
  have hbyte (k : UInt32) (hk : k.toNat < 4) : n.byte? (y + k) = m.byte? (x + k) := by
    have hxk : (x + k).toNat = x.toNat + k.toNat := toNat_add_of_lt (by omega)
    have hyk : (y + k).toNat = y.toNat + k.toNat := toNat_add_of_lt (by omega)
    exact h _ _ (by omega) (by omega) (by omega)
  have h0 : n.byte? y = m.byte? x := h x y le_rfl (by omega) hy
  rw [word?, word?, h0, hbyte 1 (by decide), hbyte 2 (by decide), hbyte 3 (by decide)]

/-- Both runs read the same word at each step and end together. -/
theorem AgreeMoved.forall₂_wordsFrom {count : Nat}
    (h : AgreeMoved d x.toNat (x.toNat + 4 * count) m n) (hy : (y.toNat : Int) = x.toNat + d)
    (hx' : x.toNat + 4 * count < UInt32.size) (hy' : y.toNat + 4 * count < UInt32.size) :
    List.Forall₂ (fun p q => (q.1.toNat : Int) = p.1.toNat + d ∧ q.2 = p.2)
      (m.wordsFrom count x) (n.wordsFrom count y) := by
  induction count generalizing x y with
  | zero => exact .nil
  | succ count ih =>
    have hword := (h.mono le_rfl (by omega)).word?_eq hy (by omega) (by omega)
    unfold wordsFrom
    rw [hword]
    cases m.word? x with
    | none => exact .nil
    | some w =>
      have hx4 : (x + 4).toNat = x.toNat + 4 :=
        toNat_add_of_lt (show x.toNat + 4 < UInt32.size by omega)
      have hy4 : (y + 4).toNat = y.toNat + 4 :=
        toNat_add_of_lt (show y.toNat + 4 < UInt32.size by omega)
      exact .cons ⟨hy, rfl⟩
        (ih (h.mono (by omega) (by omega)) (by omega) (by omega) (by omega))

theorem AgreeMoved.forall₂_words (h : AgreeMoved d start.toNat stop.toNat m n)
    (hstart : (start'.toNat : Int) = start.toNat + d)
    (hstop : (stop'.toNat : Int) = stop.toNat + d) :
    List.Forall₂ (fun p q => (q.1.toNat : Int) = p.1.toNat + d ∧ q.2 = p.2)
      (m.words start stop) (n.words start' stop') := by
  have hcount : (stop'.toNat - start'.toNat) / 4 = (stop.toNat - start.toNat) / 4 := by omega
  have := stop.toNat_lt_size
  have := stop'.toNat_lt_size
  have := start.toNat_lt_size
  have := start'.toNat_lt_size
  rw [words, words, hcount]
  refine AgreeMoved.forall₂_wordsFrom ?_ hstart (by omega) (by omega)
  by_cases hle : start.toNat ≤ stop.toNat
  · exact h.mono le_rfl (by omega)
  · intro x y hx hx'
    omega

end Image

/-- A text that ends in an address, `front` being what stands before the last space. -/
structure LastToken (s front : String) (t : UInt32) : Prop where
  endsIn : Instruction.EndsIn s front t
  last : ∀ last, s = front ++ " " ++ last → ' ' ∉ last.toList

theorem Instruction.EndsIn.lastToken {s front : String} {t : UInt32} (h : EndsIn s front t) :
    LastToken s front t where
  endsIn := h
  last := by
    obtain ⟨digits, rfl, hdigits⟩ := h
    intro last hlast
    have hsplit : front ++ " 0x" ++ digits = front ++ " " ++ ("0x" ++ digits) := by
      rw [show " 0x" = " " ++ "0x" from rfl]
      simp only [String.append_assoc]
    have hspace : ' ' ∉ digits.toList := hdigits.denotes.notMem rfl
    obtain rfl := (String.append_right_inj _).1 (hsplit.symm.trans hlast)
    simp [hspace]

/-- A line that tells the same at an address moved by `d`. A target moves by `d` modulo `2 ^ 32`,
and only the last token of the text, which is the target, changes with it. -/
structure Line.Moved (d : Int) (l k : Line) : Prop where
  address : (k.address.toNat : Int) = l.address.toNat + d
  word : k.word = l.word
  opClass : k.opClass? = l.opClass?
  isReturn : k.isReturn = l.isReturn
  target : Option.Rel (fun t u : UInt32 => (u.toNat : Int) = (t.toNat + d) % 2 ^ 32)
    l.target? k.target?
  text_none : l.target? = none → k.text = l.text
  text_some : ∀ t u, l.target? = some t → k.target? = some u →
    ∃ front, LastToken l.text front t ∧ LastToken k.text front u

namespace Line

variable {c : Config} {d : Int} {a b : UInt32} {w : Word} {i : Instruction}

theorem moved_rejected (h : (b.toNat : Int) = a.toNat + d) :
    (rejected a w).Moved d (rejected b w) where
  address := h
  word := rfl
  opClass := rfl
  isReturn := rfl
  target := .none
  text_none _ := rfl
  text_some t u ht := by simp [rejected] at ht

theorem moved_ofInstruction (h : (b.toNat : Int) = a.toNat + d) :
    (ofInstruction a w i).Moved d (ofInstruction b w i) where
  address := h
  word := rfl
  opClass := rfl
  isReturn := rfl
  target := by
    simp only [ofInstruction, Instruction.target?_eq_map]
    cases i.displacement? with
    | none => exact .none
    | some e =>
      refine .some ?_
      rw [UInt32.toNat_add, UInt32.toNat_add]
      omega
  text_none ht := by
    simp only [ofInstruction, Instruction.target?_eq_map, Option.map_eq_none_iff] at ht
    exact Instruction.text_eq_text ht b a
  text_some t u ht hu := by
    simp only [ofInstruction] at ht hu
    obtain ⟨e, he, rfl⟩ := Instruction.target?_eq_some_iff.1 ht
    obtain ⟨f, hf, rfl⟩ := Instruction.target?_eq_some_iff.1 hu
    obtain rfl := Option.some.inj (he.symm.trans hf)
    obtain ⟨front, hfront⟩ := Instruction.exists_endsIn he
    exact ⟨front, (hfront a).lastToken, (hfront b).lastToken⟩

/-- The address has a say in the address and in the target of a line only. -/
theorem moved_ofWord (h : (b.toNat : Int) = a.toNat + d) (c : Config) (w : Word) :
    (ofWord c a w).Moved d (ofWord c b w) := by
  unfold ofWord
  cases c.decodeWord w with
  | ok i => exact moved_ofInstruction h
  | error e => exact moved_rejected h

end Line

namespace Image

/-- Listings do not depend on where the code stands: moving all segments and the range by the same
distance moves each line by it, and adds or drops none. -/
theorem sweep_moved {d : Int} {m n : Image} {start stop start' stop' : UInt32} (h : m.Moved d n)
    (hstart : (start'.toNat : Int) = start.toNat + d)
    (hstop : (stop'.toNat : Int) = stop.toNat + d) (c : Config) :
    List.Forall₂ (Line.Moved d) (m.sweep c start stop) (n.sweep c start' stop') := by
  rw [sweep_eq_map, sweep_eq_map, List.forall₂_map_left_iff, List.forall₂_map_right_iff]
  refine ((h.agree _ _).forall₂_words hstart hstop).imp ?_
  rintro ⟨a, w⟩ ⟨b, v⟩ ⟨haddress, rfl⟩
  exact Line.moved_ofWord haddress c v

/-- Moved down to the bottom of the address space, a jump back wraps around to its top. -/
theorem sweep_moved_to_zero :
    let bytes : Array UInt8 := #[0xA1, 0xFF, 0x00, 0xFF, 0x70, 0x40, 0x01, 0x01]
    let m : Image := ⟨[⟨"code", 0x100, bytes, "r-x", "raw"⟩]⟩
    let n : Image := ⟨[⟨"code", 0x000, bytes, "r-x", "raw"⟩]⟩
    let c : Config := ⟨.am29000, false⟩
    m.Moved (-0x100) n ∧ ((0 : UInt32).toNat : Int) = (0x100 : UInt32).toNat + -0x100 ∧
      ((8 : UInt32).toNat : Int) = (0x108 : UInt32).toNat + -0x100 ∧
      (m.sweep c 0x100 0x108).map Line.target? = [some 0xFC, none] ∧
      (n.sweep c 0 8).map Line.target? = [some 0xFFFFFFFC, none] ∧
      List.Forall₂ (Line.Moved (-0x100)) (m.sweep c 0x100 0x108) (n.sweep c 0 8) := by
  intro bytes m n c
  have hmoved : m.Moved (-0x100) n := .cons ⟨by decide, rfl⟩ .nil
  have hstart : ((0 : UInt32).toNat : Int) = (0x100 : UInt32).toNat + -0x100 := by decide
  have hstop : ((8 : UInt32).toNat : Int) = (0x108 : UInt32).toNat + -0x100 := by decide
  have hwords : m.words 0x100 0x108 =
      [(0x100, ⟨0xA1, 0xFF, 0x00, 0xFF⟩), (0x104, Instruction.reservedNop)] := by decide +kernel
  have hwords' : n.words 0 8 =
      [(0, ⟨0xA1, 0xFF, 0x00, 0xFF⟩), (4, Instruction.reservedNop)] := by decide +kernel
  refine ⟨hmoved, hstart, hstop, ?_, ?_, sweep_moved hmoved hstart hstop c⟩
  · rw [sweep_eq_map, hwords]
    decide +kernel
  · rw [sweep_eq_map, hwords']
    decide +kernel

end Image

end Am29000
