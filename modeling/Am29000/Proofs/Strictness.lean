import Am29000.Proofs.Selection
import Am29000.Proofs.Sweep

/-!
Strict and other decoders. Main statement: a decoder that is not strict decodes every buffer, and
lists every word of a sweep, as the strict decoder of some part does, and it fails only where all
of them fail.
-/
namespace Am29000

namespace Config

theorem decodeWord_congr {c k : Config} {w : Word} (h : c.lookup w.opcode = k.lookup w.opcode) :
    c.decodeWord w = k.decodeWord w := by
  unfold decodeWord
  rw [h]

/-- The part does not matter to a decoder that is not strict. -/
theorem decodeWord_lenient (p q : Part) (w : Word) :
    (Config.mk p false).decodeWord w = (Config.mk q false).decodeWord w := by
  apply decodeWord_congr
  rw [lookup_lenient, lookup_lenient]

theorem exists_decodeWord_strict (p : Part) (w : Word) :
    ∃ q, (Config.mk q true).decodeWord w = (Config.mk p false).decodeWord w := by
  obtain ⟨q, hq⟩ := exists_lookup_strict p w.opcode
  exact ⟨q, decodeWord_congr hq⟩

theorem decodeWord_error_iff (p : Part) (w : Word) :
    (∃ d, (Config.mk p false).decodeWord w = .error d) ↔
      ∀ q, ∃ d, (Config.mk q true).decodeWord w = .error d := by
  constructor
  · rintro ⟨d, hd⟩ q
    obtain ⟨hw, hnone, rfl⟩ := decodeWord_eq_error_iff.1 hd
    exact ⟨_, decodeWord_eq_error_iff.2 ⟨hw, lookup_eq_none_of_lenient hnone _, rfl⟩⟩
  · intro h
    obtain ⟨q, hq⟩ := exists_decodeWord_strict p w
    obtain ⟨d, hd⟩ := h q
    exact ⟨d, hq ▸ hd⟩

/-- Decoding a buffer is decoding its first word, or the same failure with every decoder. -/
theorem decode_congr {c k : Config} {bytes : List UInt8}
    (h : ∀ w, Word.ofList? (bytes.take 4) = some w → c.decodeWord w = k.decodeWord w) :
    c.decode bytes = k.decode bytes := by
  unfold decode
  cases hw : Word.ofList? (bytes.take 4) with
  | none => rfl
  | some w => exact h w hw

theorem decode_lenient (p q : Part) (bytes : List UInt8) :
    (Config.mk p false).decode bytes = (Config.mk q false).decode bytes :=
  decode_congr fun w _ => decodeWord_lenient p q w

theorem exists_decode_strict (p : Part) (bytes : List UInt8) :
    ∃ q, (Config.mk q true).decode bytes = (Config.mk p false).decode bytes := by
  cases hw : Word.ofList? (bytes.take 4) with
  | none => exact ⟨p, decode_congr (by simp [hw])⟩
  | some w =>
    obtain ⟨q, hq⟩ := exists_decodeWord_strict p w
    exact ⟨q, decode_congr (by simpa [hw] using hq)⟩

theorem decode_error_iff (p : Part) (bytes : List UInt8) :
    (∃ d, (Config.mk p false).decode bytes = .error d) ↔
      ∀ q, ∃ d, (Config.mk q true).decode bytes = .error d := by
  unfold decode
  cases Word.ofList? (bytes.take 4) with
  | none => simp
  | some w => exact decodeWord_error_iff p w

end Config

namespace Line

theorem opClass?_ofWord_eq_none_iff {c : Config} {a : UInt32} {w : Word} :
    (ofWord c a w).opClass? = none ↔ ∃ d, c.decodeWord w = .error d := by
  unfold ofWord
  cases c.decodeWord w <;> simp [ofInstruction, rejected]

theorem ofWord_congr {c k : Config} {a : UInt32} {w : Word} (h : c.decodeWord w = k.decodeWord w) :
    ofWord c a w = ofWord k a w := by
  unfold ofWord
  rw [h]

end Line

namespace Image

/-- The decoder has no say in which words a sweep lists. -/
theorem map_address_word_sweep (m : Image) (c k : Config) (start stop : UInt32) :
    (m.sweep c start stop).map (fun l => (l.address, l.word)) =
      (m.sweep k start stop).map fun l => (l.address, l.word) := by
  simp only [sweep_eq_map, List.map_map, Function.comp_def, Line.address_ofWord, Line.word_ofWord]

/-- Two decoders list the same word at the same place, each in its own words. -/
theorem getElem?_sweep_of_eq_some {m : Image} {c k : Config} {start stop : UInt32} {n : Nat}
    {l : Line} (h : (m.sweep c start stop)[n]? = some l) :
    (m.sweep k start stop)[n]? = some (Line.ofWord k l.address l.word) := by
  obtain ⟨a, w, hw, rfl⟩ := getElem?_sweep.1 h
  exact getElem?_sweep.2 ⟨a, w, hw, by simp⟩

/-- A line of a sweep without strictness is that of some strict sweep at the same place. -/
theorem exists_sweep_strict {m : Image} {p : Part} {start stop : UInt32} {n : Nat} {l : Line}
    (h : (m.sweep ⟨p, false⟩ start stop)[n]? = some l) :
    ∃ q, (m.sweep ⟨q, true⟩ start stop)[n]? = some l := by
  obtain ⟨a, w, -, rfl⟩ := getElem?_sweep.1 h
  obtain ⟨q, hq⟩ := Config.exists_decodeWord_strict p w
  have hstrict := getElem?_sweep_of_eq_some (k := ⟨q, true⟩) h
  rw [Line.address_ofWord, Line.word_ofWord, Line.ofWord_congr hq] at hstrict
  exact ⟨q, hstrict⟩

theorem opClass?_sweep_eq_none_iff {m : Image} {p : Part} {start stop : UInt32} {n : Nat}
    {l : Line} (h : (m.sweep ⟨p, false⟩ start stop)[n]? = some l) :
    l.opClass? = none ↔
      ∀ q, ∃ l', (m.sweep ⟨q, true⟩ start stop)[n]? = some l' ∧ l'.opClass? = none := by
  obtain ⟨a, w, -, rfl⟩ := getElem?_sweep.1 h
  have hstrict (q : Part) := getElem?_sweep_of_eq_some (k := ⟨q, true⟩) h
  simp only [Line.address_ofWord, Line.word_ofWord] at hstrict
  rw [Line.opClass?_ofWord_eq_none_iff, Config.decodeWord_error_iff]
  simp [hstrict, Line.opClass?_ofWord_eq_none_iff]

end Image

/-- Decoding without strictness gives the same for every part, and what some strict decoder gives;
it fails exactly where both strict decoders fail. Sweeps list the same words with all of them, and
a line without strictness is that of some strict decoder, and has no class exactly where no strict
decoder gives it one. -/
theorem lenient_agrees_with_strict :
    (∀ (bytes : List UInt8) (p q : Part),
      (Config.mk p false).decode bytes = (Config.mk q false).decode bytes) ∧
    (∀ (bytes : List UInt8) (p : Part),
      ∃ q, (Config.mk q true).decode bytes = (Config.mk p false).decode bytes) ∧
    (∀ (bytes : List UInt8) (p : Part),
      (∃ d, (Config.mk p false).decode bytes = .error d) ↔
        ∀ q, ∃ d, (Config.mk q true).decode bytes = .error d) ∧
    (∀ (m : Image) (start stop : UInt32) (p q : Part),
      (m.sweep ⟨q, true⟩ start stop).map (fun l => (l.address, l.word)) =
        (m.sweep ⟨p, false⟩ start stop).map fun l => (l.address, l.word)) ∧
    ∀ (m : Image) (start stop : UInt32) (p : Part) (k : Nat) (l : Line),
      (m.sweep ⟨p, false⟩ start stop)[k]? = some l →
        (∃ q, (m.sweep ⟨q, true⟩ start stop)[k]? = some l) ∧
          (l.opClass? = none ↔
            ∀ q, ∃ l', (m.sweep ⟨q, true⟩ start stop)[k]? = some l' ∧ l'.opClass? = none) := by
  refine ⟨?_, ?_, ?_, ?_, ?_⟩
  · intro bytes p q
    exact Config.decode_lenient p q bytes
  · intro bytes p
    exact Config.exists_decode_strict p bytes
  · intro bytes p
    exact Config.decode_error_iff p bytes
  · intro m start stop p q
    exact m.map_address_word_sweep _ _ start stop
  · intro m start stop p k l hl
    exact ⟨Image.exists_sweep_strict hl, Image.opClass?_sweep_eq_none_iff hl⟩

end Am29000
