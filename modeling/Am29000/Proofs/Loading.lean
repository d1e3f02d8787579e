import Am29000.Memory.Load
import Am29000.Proofs.Sweep

/-!
Loaded files. The part of a file that its window shows becomes the one segment of an image. Main
statement: loading fails exactly where the window reaches past the end of the file; otherwise the
image holds the bytes of the part and no others, and a sweep over it lists them in order.
-/
namespace Am29000

namespace Word

/-- Words laid one after the other: byte `j` belongs to word `j / 4`. -/
theorem getElem?_flatMap_toList (ws : List Word) (j : Nat) :
    (ws.flatMap toList)[j]? = ws[j / 4]?.bind fun w => w.toList[j % 4]? := by
  induction ws generalizing j with
  | nil => simp
  | cons w ws ih =>
    rw [List.flatMap_cons]
    by_cases hj : j < 4
    · have hdiv : j / 4 = 0 := by omega
      have hmod : j % 4 = j := by omega
      rw [List.getElem?_append_left hj, hdiv, hmod]
      rfl
    · have hdiv : j / 4 = (j - 4) / 4 + 1 := by omega
      have hmod : j % 4 = (j - 4) % 4 := by omega
      rw [List.getElem?_append_right (Nat.le_of_not_lt hj), hdiv, hmod, List.getElem?_cons_succ]
      exact ih (j - 4)

theorem length_flatMap_toList (ws : List Word) : (ws.flatMap toList).length = 4 * ws.length := by
  induction ws with
  | nil => rfl
  | cons w ws ih =>
    rw [List.flatMap_cons, List.length_append, ih, List.length_cons]
    simp [toList]
    omega

end Word

/-- All bytes that a listing shows, in order. -/
def Listing.bytes (ls : List Line) : List UInt8 := (ls.map Line.word).flatMap Word.toList

namespace Image

variable {m : Image} {c : Config} {start stop : UInt32}

/-- A range without a gap is listed up to its last whole word. -/
theorem length_words_of_mapped (h : m.Mapped start.toNat stop.toNat) :
    (m.words start stop).length = (stop.toNat - start.toNat) / 4 := by
  apply eq_of_forall_lt_iff
  intro k
  rw [lt_length_words_iff]
  constructor
  · rintro ⟨hstop, -⟩
    omega
  · intro hk
    have hstop : start.toNat + 4 * (k + 1) ≤ stop.toNat := by omega
    exact ⟨hstop, ((m.mapped_split _ _ _ (by omega) hstop).1 h).1⟩

/-- The bytes that a sweep shows stand in the image one after the other from its start on. -/
theorem getElem?_bytes_sweep {j : Nat} (hj : j < 4 * (m.sweep c start stop).length) :
    (Listing.bytes (m.sweep c start stop))[j]? = m.byte? (UInt32.ofNat (start.toNat + j)) := by
  have hlt : j / 4 < (m.sweep c start stop).length := by omega
  have hl := List.getElem?_eq_getElem hlt
  obtain ⟨a, w, hw, heq⟩ := getElem?_sweep.1 hl
  obtain ⟨ha, hturn⟩ := getElem?_words hw
  have hbyte := byte?_eq_getElem?_toList (turn_eq_more_iff.1 hturn).2.1 (Nat.mod_lt j (by omega))
  have haddress : start.toNat + j = a.toNat + j % 4 := by omega
  rw [Listing.bytes, Word.getElem?_flatMap_toList, List.getElem?_map, hl, ← heq, Option.map_some,
    Option.bind_some, Line.word_ofWord, haddress, hbyte]

theorem length_bytes_sweep :
    (Listing.bytes (m.sweep c start stop)).length = 4 * (m.sweep c start stop).length := by
  rw [Listing.bytes, Word.length_flatMap_toList, List.length_map]

end Image

namespace Segment

/-- The index that a segment looks up is the distance from the base, in bounds or not. -/
theorem byte?_eq_ite (s : Segment) (x : UInt32) :
    s.byte? x = if s.base.toNat ≤ x.toNat then s.bytes[x.toNat - s.base.toNat]? else none := by
  simp only [byte?, contains, stop, Bool.and_eq_true, decide_eq_true_eq]
  by_cases hbase : s.base.toNat ≤ x.toNat
  · by_cases hstop : x.toNat < s.base.toNat + s.bytes.size
    · simp [hbase, hstop]
    · have hnone : s.bytes[x.toNat - s.base.toNat]? = none := by
        rw [Array.getElem?_eq_none_iff]
        omega
      simp [hbase, hstop, hnone]
  · simp [hbase]

/-- An image of one segment holds the bytes of the segment, each at its distance from the base. -/
theorem byte?_image (s : Segment) (x : UInt32) :
    Image.byte? ⟨[s]⟩ x =
      if s.base.toNat ≤ x.toNat then s.bytes.toList[x.toNat - s.base.toNat]? else none := by
  rw [Array.getElem?_toList, ← byte?_eq_ite, Image.byte?, List.findSome?_cons, List.findSome?_nil]
  cases s.byte? x <;> rfl

theorem mapped_image (s : Segment) : Image.Mapped ⟨[s]⟩ s.base.toNat s.stop :=
  Image.mapped_iff.2 fun _ hlo hhi => ⟨s, List.mem_singleton_self s, hlo, hhi⟩

/-- A sweep over a segment shows its bytes in order, up to its last whole word. -/
theorem bytes_sweep_image {s : Segment} {stop : UInt32} (h : stop.toNat = s.stop) (c : Config) :
    (Image.sweep ⟨[s]⟩ c s.base stop).length = s.bytes.size / 4 ∧
      Listing.bytes (Image.sweep ⟨[s]⟩ c s.base stop) =
        s.bytes.toList.take (4 * (s.bytes.size / 4)) := by
  have hsize : s.stop = s.base.toNat + s.bytes.size := rfl
  have hlength : (Image.sweep ⟨[s]⟩ c s.base stop).length = s.bytes.size / 4 := by
    rw [Image.length_sweep, Image.length_words_of_mapped (h ▸ s.mapped_image)]
    omega
  refine ⟨hlength, List.ext_getElem? fun j => ?_⟩
  rw [List.getElem?_take]
  by_cases hj : j < 4 * (s.bytes.size / 4)
  · have hx : (UInt32.ofNat (s.base.toNat + j)).toNat = s.base.toNat + j := by
      have := stop.toNat_lt_size
      rw [UInt32.toNat_ofNat']
      exact Nat.mod_eq_of_lt (show s.base.toNat + j < UInt32.size by omega)
    rw [if_pos hj, Image.getElem?_bytes_sweep (hlength ▸ hj), byte?_image, hx, if_pos (by omega),
      Nat.add_sub_cancel_left]
  · rw [if_neg hj, List.getElem?_eq_none]
    rw [Image.length_bytes_sweep, hlength]
    omega

end Segment

namespace Window

/-- What a window shows of a file: all from its offset on, or as much of that as its length says. -/
def part (w : Window) (file : List UInt8) : List UInt8 :=
  match w.length with
  | none => file.drop w.skip
  | some n => (file.drop w.skip).take n

/-- The window does not reach past the end of a file of that size. -/
def Fits (w : Window) (size : Nat) : Prop := w.skip ≤ size ∧ ∀ n ∈ w.length, n ≤ size - w.skip

variable {w : Window} {file p : Array UInt8} {m : Image}

theorem payload_eq_ok_iff :
    w.payload file = .ok p ↔ w.Fits file.size ∧ p = (w.part file.toList).toArray := by
  unfold payload Fits part
  split
  next hskip =>
    have hnot : ¬w.skip ≤ file.size := by omega
    simp [hnot]
  next hskip =>
    have hle : w.skip ≤ file.size := by omega
    cases w.length with
    | none =>
      have hextract : file.extract w.skip file.size = (file.toList.drop w.skip).toArray := by
        apply Array.toList_inj.1
        simp [List.extract_eq_take_drop]
      simp [hle, hextract, eq_comm]
    | some n =>
      have hextract : file.extract w.skip (w.skip + n) =
          ((file.toList.drop w.skip).take n).toArray := by
        apply Array.toList_inj.1
        simp [List.extract_eq_take_drop]
      dsimp only
      split
      next hlength =>
        have hnot : ¬n ≤ file.size - w.skip := by omega
        simp [hnot]
      next hlength =>
        have hlen : n ≤ file.size - w.skip := by omega
        simp [hle, hlen, hextract, eq_comm]

theorem load_eq_ok_iff :
    w.load (.ok file) = .ok m ↔
      w.Fits file.size ∧ m = ⟨[w.segment (w.part file.toList).toArray]⟩ := by
  show (w.payload file).map (fun p => (⟨[w.segment p]⟩ : Image)) = .ok m ↔ _
  constructor
  · intro h
    cases hp : w.payload file with
    | error e => simp [hp, Except.map] at h
    | ok p =>
      obtain ⟨hfits, rfl⟩ := payload_eq_ok_iff.1 hp
      rw [hp] at h
      exact ⟨hfits, (Except.ok.inj h).symm⟩
  · rintro ⟨hfits, rfl⟩
    rw [payload_eq_ok_iff.2 ⟨hfits, rfl⟩]
    rfl

/-- Whatever is loaded is one segment. -/
theorem exists_segment_of_load {file : Except FileError (Array UInt8)} (h : w.load file = .ok m) :
    ∃ p, m = ⟨[w.segment p]⟩ := by
  cases file with
  | error e => cases h
  | ok file => exact ⟨_, (load_eq_ok_iff.1 h).2⟩

/-- The bytes of the part are those of the file from the offset on. -/
theorem getElem?_part {file : List UInt8} {j : Nat} (hj : j < (w.part file).length) :
    (w.part file)[j]? = file[w.skip + j]? := by
  unfold part at hj ⊢
  cases hlength : w.length with
  | none => simp only [List.getElem?_drop]
  | some n =>
    simp only [hlength, List.length_take] at hj
    rw [List.getElem?_take_of_lt (by omega), List.getElem?_drop]

/-- The loaded segment holds at each of its addresses the byte of the file as far behind the offset
as the address is behind the base. -/
theorem byte?_of_load (h : w.load (.ok file) = .ok m) (x : UInt32) :
    m.byte? x =
      if w.base.toNat ≤ x.toNat ∧ x.toNat < w.base.toNat + (w.part file.toList).length then
        file.toList[w.skip + (x.toNat - w.base.toNat)]?
      else none := by
  obtain ⟨-, rfl⟩ := load_eq_ok_iff.1 h
  rw [Segment.byte?_image]
  show (if w.base.toNat ≤ x.toNat then (w.part file.toList)[x.toNat - w.base.toNat]? else none) = _
  by_cases hbase : w.base.toNat ≤ x.toNat
  · by_cases hstop : x.toNat < w.base.toNat + (w.part file.toList).length
    · rw [if_pos hbase, if_pos ⟨hbase, hstop⟩]
      exact getElem?_part (by omega)
    · rw [if_pos hbase, if_neg (by simp [hstop]), List.getElem?_eq_none]
      omega
  · simp [hbase]

/-- A file loads exactly when its window fits. The image then holds the bytes of the window, each at
its distance from the base, and nothing else; and when the segment ends below the top, a sweep over
it lists its whole words with every byte in its place. -/
theorem load_conserves_bytes (w : Window) (file : Array UInt8) :
    ((∃ m, w.load (.ok file) = .ok m) ↔
      w.skip ≤ file.size ∧ ∀ n ∈ w.length, n ≤ file.size - w.skip) ∧
    ∀ m, w.load (.ok file) = .ok m →
      ∃ s, m.segments = [s] ∧ s.base = w.base ∧ s.bytes.toList = w.part file.toList ∧
        (∀ x : UInt32, w.base.toNat ≤ x.toNat → x.toNat < w.base.toNat + s.bytes.size →
          ∃ h : w.skip + (x.toNat - w.base.toNat) < file.size,
            m.byte? x = some file[w.skip + (x.toNat - w.base.toNat)]) ∧
        (∀ x : UInt32, ¬(w.base.toNat ≤ x.toNat ∧ x.toNat < w.base.toNat + s.bytes.size) →
          m.byte? x = none) ∧
        (w.base.toNat + s.bytes.size < UInt32.size → ∀ c : Config,
          let ls := m.sweep c w.base (UInt32.ofNat (w.base.toNat + s.bytes.size))
          ls.length = s.bytes.size / 4 ∧
            Listing.bytes ls = s.bytes.toList.take (4 * (s.bytes.size / 4))) := by
  constructor
  · constructor
    · rintro ⟨m, hm⟩
      exact (load_eq_ok_iff.1 hm).1
    · intro hfits
      exact ⟨_, load_eq_ok_iff.2 ⟨hfits, rfl⟩⟩
  · intro m hm
    have hbyte := byte?_of_load hm
    obtain ⟨-, rfl⟩ := load_eq_ok_iff.1 hm
    refine ⟨_, rfl, rfl, rfl, ?_, ?_, ?_⟩
    · intro x hbase hstop
      have hsome := Segment.mapped_image (w.segment (w.part file.toList).toArray) x hbase hstop
      rw [hbyte, if_pos ⟨hbase, hstop⟩] at hsome
      have hlt : w.skip + (x.toNat - w.base.toNat) < file.size := by
        simpa only [Array.getElem?_toList, Option.isSome_iff_ne_none, ne_eq,
          Array.getElem?_eq_none_iff, Nat.not_le] using hsome
      refine ⟨hlt, ?_⟩
      rw [hbyte, if_pos ⟨hbase, hstop⟩, Array.getElem?_toList, Array.getElem?_eq_getElem hlt]
    · intro x hx
      rw [hbyte]
      exact if_neg hx
    · intro htop c
      apply Segment.bytes_sweep_image (s := w.segment (w.part file.toList).toArray)
      rw [UInt32.toNat_ofNat']
      exact Nat.mod_eq_of_lt htop

end Window

end Am29000
