import Am29000.Memory
import Mathlib.Tactic

/-!
Mapped ranges of an image. A range is mapped where every address of it lies in some segment, and a
word can be read exactly where the four addresses from it on are mapped, as long as it does not wrap
around.
-/
namespace Am29000

namespace Image

/-- Every address from `lo` up to `hi` holds a byte. -/
def Mapped (m : Image) (lo hi : Nat) : Prop :=
  ∀ a : UInt32, lo ≤ a.toNat → a.toNat < hi → (m.byte? a).isSome

theorem isSome_byte?_iff {m : Image} {a : UInt32} :
    (m.byte? a).isSome ↔ ∃ s ∈ m.segments, s.base.toNat ≤ a.toNat ∧ a.toNat < s.stop := by
  simp only [byte?, List.findSome?_isSome_iff, Segment.isSome_byte?, Segment.contains,
    Bool.and_eq_true, decide_eq_true_eq]

/-- Every address of a mapped range lies in a segment, from its base on and before its end. -/
theorem mapped_iff {m : Image} {lo hi : Nat} :
    m.Mapped lo hi ↔ ∀ a : UInt32, lo ≤ a.toNat → a.toNat < hi →
      ∃ s ∈ m.segments, s.base.toNat ≤ a.toNat ∧ a.toNat < s.stop := by
  simp only [Mapped, isSome_byte?_iff]

theorem mapped_self (m : Image) (lo : Nat) : m.Mapped lo lo := by
  intro a hlo hhi
  omega

theorem mapped_split (m : Image) (lo mid hi : Nat) (hlo : lo ≤ mid) (hhi : mid ≤ hi) :
    m.Mapped lo hi ↔ m.Mapped lo mid ∧ m.Mapped mid hi := by
  constructor
  · intro h
    exact ⟨fun a ha hb => h a ha (by omega), fun a ha hb => h a (by omega) hb⟩
  · rintro ⟨hleft, hright⟩ a ha hb
    by_cases hmid : a.toNat < mid
    · exact hleft a ha hmid
    · exact hright a (by omega) hb

theorem word?_eq_some_iff {m : Image} {a : UInt32} {w : Word} :
    m.word? a = some w ↔
      m.byte? a = some w.opcode ∧ m.byte? (a + 1) = some w.first ∧
        m.byte? (a + 2) = some w.second ∧ m.byte? (a + 3) = some w.third := by
  unfold word?
  constructor
  · intro h
    split at h
    next h0 h1 h2 h3 =>
      obtain rfl := Option.some.inj h
      exact ⟨h0, h1, h2, h3⟩
    next => simp at h
  · rintro ⟨h0, h1, h2, h3⟩
    simp only [h0, h1, h2, h3]

/-- A word can be read where its four addresses are mapped. -/
theorem isSome_word?_iff_forall {m : Image} {a : UInt32} :
    (m.word? a).isSome ↔ ∀ k < 4, (m.byte? (a + UInt32.ofNat k)).isSome := by
  constructor
  · intro h k hk
    obtain ⟨w, hw⟩ := Option.isSome_iff_exists.1 h
    obtain ⟨h0, h1, h2, h3⟩ := word?_eq_some_iff.1 hw
    interval_cases k
    · simpa using Option.isSome_of_eq_some h0
    · exact Option.isSome_of_eq_some h1
    · exact Option.isSome_of_eq_some h2
    · exact Option.isSome_of_eq_some h3
  · intro h
    obtain ⟨b0, h0⟩ := Option.isSome_iff_exists.1 (h 0 (by omega))
    obtain ⟨b1, h1⟩ := Option.isSome_iff_exists.1 (h 1 (by omega))
    obtain ⟨b2, h2⟩ := Option.isSome_iff_exists.1 (h 2 (by omega))
    obtain ⟨b3, h3⟩ := Option.isSome_iff_exists.1 (h 3 (by omega))
    have hw := (word?_eq_some_iff (w := ⟨b0, b1, b2, b3⟩)).2 ⟨by simpa using h0, h1, h2, h3⟩
    simp [hw]

/-- A word that does not wrap around can be read exactly when its four addresses are mapped. -/
theorem isSome_word?_iff {m : Image} {a : UInt32} (ha : a.toNat + 4 ≤ UInt32.size) :
    (m.word? a).isSome ↔ m.Mapped a.toNat (a.toNat + 4) := by
  have hnext {k : Nat} (hk : k < 4) : (a + UInt32.ofNat k).toNat = a.toNat + k := by
    have hoffset : (UInt32.ofNat k).toNat = k := UInt32.toNat_ofNat_of_lt (by omega)
    rw [toNat_add_of_lt (by omega), hoffset]
  rw [isSome_word?_iff_forall]
  constructor
  · intro h b hlo hhi
    have hk : b.toNat - a.toNat < 4 := by omega
    have hb : a + UInt32.ofNat (b.toNat - a.toNat) = b := by
      rw [← UInt32.toNat_inj, hnext hk]
      omega
    have hbyte := h _ hk
    rwa [hb] at hbyte
  · intro h k hk
    have hak := hnext hk
    exact h _ (by omega) (by omega)

end Image

end Am29000
