import Am29000.Instruction.Text
import Mathlib.Tactic

/-!
Texts cut to a limit in bytes. Main statement: the search for the place to cut always ends, and what
is kept is the longest run of leading characters within the limit.
-/
namespace Am29000

/-- Leading characters of a text are a text that another one completes. -/
theorem toList_prefix_iff {s t : String} : t.toList <+: s.toList ↔ ∃ u, t ++ u = s := by
  constructor
  · rintro ⟨rest, h⟩
    refine ⟨String.ofList rest, String.toList_inj.1 ?_⟩
    rw [String.toList_append, String.toList_ofList, h]
  · rintro ⟨u, rfl⟩
    exact ⟨u.toList, String.toList_append.symm⟩

namespace Cut

variable {s t p : String} {limit n k : Nat}

/-- Of two leading parts of a text the one with fewer bytes leads the other. -/
theorem prefix_of_utf8ByteSize_le (hp : p.toList <+: s.toList) (ht : t.toList <+: s.toList)
    (h : p.utf8ByteSize ≤ t.utf8ByteSize) : p.toList <+: t.toList := by
  rcases List.prefix_or_prefix_of_prefix hp ht with hle | hle
  · exact hle
  · obtain ⟨u, rfl⟩ := toList_prefix_iff.1 hle
    rw [String.utf8ByteSize_append] at h
    obtain rfl : u = "" := String.utf8ByteSize_eq_zero_iff.1 (by omega)
    rw [String.append_empty]

/-- The boundaries of a text are the sizes of its leading parts. -/
theorem isBoundary_iff_exists_append :
    isBoundary s n ↔ ∃ t u, t ++ u = s ∧ t.utf8ByteSize = n := by
  rw [isBoundary_iff, String.Pos.Raw.isValid_iff_exists_append]
  constructor
  · rintro ⟨t, u, rfl, hn⟩
    exact ⟨t, u, rfl, (congrArg String.Pos.Raw.byteIdx hn).symm⟩
  · rintro ⟨t, u, rfl, rfl⟩
    exact ⟨t, u, rfl, rfl⟩

theorem truncate?_append (t u : String) : truncate? (t ++ u) t.utf8ByteSize = some t := by
  obtain ⟨r, hr, hbytes⟩ := exists_truncate? (isBoundary_iff_exists_append.2 ⟨t, u, rfl, rfl⟩)
  rw [String.toByteArray_append, ByteArray.extract_append_eq_left String.size_toByteArray.symm] at hbytes
  rw [hr, String.toByteArray_inj.1 hbytes]

/-- The search stops at the last boundary up to the place where it begins. -/
theorem stepBack?_eq_some_iff :
    stepBack? s n = some k ↔
      k ≤ n ∧ isBoundary s k ∧ ∀ m, k < m → m ≤ n → ¬isBoundary s m := by
  induction n with
  | zero =>
    rw [stepBack?, if_pos (isBoundary_zero s), Option.some.injEq]
    constructor
    · rintro rfl
      exact ⟨Nat.le_refl 0, isBoundary_zero s, fun m hm hm' => absurd hm' (by omega)⟩
    · rintro ⟨hk, -, -⟩
      omega
  | succ n ih =>
    unfold stepBack?
    split
    next hb =>
      rw [Option.some.injEq]
      constructor
      · rintro rfl
        exact ⟨Nat.le_refl _, hb, fun m hm hm' => absurd hm' (by omega)⟩
      · rintro ⟨hk, -, hnone⟩
        by_contra hne
        exact hnone (n + 1) (by omega) (Nat.le_refl _) hb
    next hb =>
      rw [ih]
      constructor
      · rintro ⟨hk, hkb, hnone⟩
        refine ⟨by omega, hkb, fun m hm hm' => ?_⟩
        rcases Nat.lt_or_eq_of_le hm' with hlt | rfl
        · exact hnone m hm (by omega)
        · exact hb
      · rintro ⟨hk, hkb, hnone⟩
        have hne : k ≠ n + 1 := by
          rintro rfl
          exact hb hkb
        exact ⟨by omega, hkb, fun m hm hm' => hnone m hm (by omega)⟩

/-- Of the leading parts of `s` that have at most `limit` bytes, `t` is the longest. -/
structure Longest (limit : Nat) (s t : String) : Prop where
  leads : t.toList <+: s.toList
  fits : t.utf8ByteSize ≤ limit
  longest : ∀ p : String, p.toList <+: s.toList → p.utf8ByteSize ≤ limit → p.toList <+: t.toList

namespace Longest

theorem eq_of_le (h : Longest limit s t) (hs : s.utf8ByteSize ≤ limit) : t = s := by
  have hle := h.longest s (List.prefix_refl _) hs
  exact String.toList_inj.1 (h.leads.eq_of_length_le hle.length_le)

/-- The character behind the cut would not fit, and it has at most four bytes. -/
theorem limit_le (h : Longest limit s t) (hs : limit < s.utf8ByteSize) :
    limit ≤ t.utf8ByteSize + 3 := by
  obtain ⟨rest, hrest⟩ := h.leads
  cases rest with
  | nil =>
    rw [List.append_nil] at hrest
    have := h.fits
    rw [String.toList_inj.1 hrest] at this
    omega
  | cons c rest =>
    have hnext : (t.push c).toList <+: s.toList := ⟨rest, by simp [← hrest]⟩
    have hsize := c.utf8Size_le_four
    by_contra hlimit
    have hlonger := (h.longest (t.push c) hnext (by rw [String.utf8ByteSize_push]; omega)).length_le
    rw [String.toList_push, List.length_append, List.length_singleton] at hlonger
    omega

theorem mono {more : Nat} {u : String} (h : Longest limit s t) (hu : Longest more s u)
    (hle : limit ≤ more) : t.toList <+: u.toList :=
  hu.longest t h.leads (h.fits.trans hle)

end Longest

theorem cut?_eq_some_cut (limit : Nat) (s : String) : cut? limit s = some (cut limit s) :=
  (Option.some_get _).symm

/-- In a text beyond the limit the search stops right behind what is kept. -/
theorem stepBack?_limit (hs : limit < s.utf8ByteSize) :
    stepBack? s limit = some (cut limit s).utf8ByteSize ∧ (cut limit s).toList <+: s.toList := by
  obtain ⟨k, hk⟩ := exists_stepBack? s limit
  obtain ⟨t, u, rfl, rfl⟩ := isBoundary_iff_exists_append.1 (isBoundary_of_stepBack? hk)
  have hcut := cut?_eq_some_cut limit (t ++ u)
  rw [cut?, if_neg (by omega), hk, Option.bind_some, truncate?_append, Option.some.injEq] at hcut
  rw [← hcut]
  exact ⟨hk, toList_prefix_iff.2 ⟨u, rfl⟩⟩

theorem longest_cut (limit : Nat) (s : String) : Longest limit s (cut limit s) := by
  rcases Nat.lt_or_ge limit s.utf8ByteSize with hs | hs
  · obtain ⟨hstop, hleads⟩ := stepBack?_limit hs
    obtain ⟨hle, -, hnone⟩ := stepBack?_eq_some_iff.1 hstop
    refine ⟨hleads, hle, fun p hp hfits => prefix_of_utf8ByteSize_le hp hleads ?_⟩
    obtain ⟨u, hu⟩ := toList_prefix_iff.1 hp
    by_contra hlonger
    exact hnone p.utf8ByteSize (by omega) hfits (isBoundary_iff_exists_append.2 ⟨p, u, hu, rfl⟩)
  · have hcut := cut?_eq_some_cut limit s
    rw [cut?, if_pos hs, Option.some.injEq] at hcut
    rw [← hcut]
    exact ⟨List.prefix_refl _, hs, fun p hp _ => hp⟩

end Cut

namespace Instruction

/-- Cutting the text of an instruction never fails. The search ends at the last boundary up to the
limit, and what is kept is the longest run of leading characters within the limit: all of a text that
fits, and otherwise at most three bytes less than the limit. A larger limit keeps no less. -/
theorem render_longest (limit : Nat) (i : Instruction) (a : UInt32) :
    Cut.cut? limit (i.text a) = some (i.render limit a) ∧
    (limit < (i.text a).utf8ByteSize →
      Cut.stepBack? (i.text a) limit = some (i.render limit a).utf8ByteSize) ∧
    Cut.Longest limit (i.text a) (i.render limit a) ∧
    ((i.text a).utf8ByteSize ≤ limit → i.render limit a = i.text a) ∧
    (i.render limit a).utf8ByteSize ≤ limit ∧
    (limit < (i.text a).utf8ByteSize → limit ≤ (i.render limit a).utf8ByteSize + 3) ∧
    ∀ more, limit ≤ more → (i.render limit a).toList <+: (i.render more a).toList := by
  have hlongest := Cut.longest_cut limit (i.text a)
  exact ⟨Cut.cut?_eq_some_cut limit (i.text a), fun hs => (Cut.stepBack?_limit hs).1, hlongest,
    hlongest.eq_of_le, hlongest.fits, hlongest.limit_le,
    fun more hle => hlongest.mono (Cut.longest_cut more (i.text a)) hle⟩

/-- The limit falls inside the second character, which is dropped as a whole. -/
example : render 4 ⟨"é€", .nop, .empty⟩ 0 = "é" := by decide +kernel

end Instruction

end Am29000
