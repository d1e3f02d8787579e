import Am29000.Proofs.JsonText
import Am29000.Proofs.Subcommands
import Am29000.Proofs.Tokens

/-!
The formats of a listing. Main statement: the lines of a range and its records in JSON show the same
words in the same order, every line is made from its record, and the columns of a line with bytes
tell the address, the bytes and the text of its record.
-/
namespace Am29000

/-- A text that consists of lines, each with a line feed at its end and none before. -/
structure IsLines (text : String) (ls : List String) : Prop where
  text_eq : text = String.join (ls.map fun l => l ++ "\n")
  newline_notMem : ∀ l ∈ ls, '\n' ∉ l.toList

/-- There are as many lines as line feeds. -/
theorem IsLines.length_eq {text : String} {ls : List String} (h : IsLines text ls) :
    ls.length = text.toList.count '\n' := by
  obtain ⟨rfl, hls⟩ := h
  induction ls with
  | nil => rfl
  | cons l ls ih =>
    obtain ⟨hl, hls⟩ := List.forall_mem_cons.1 hls
    have hfeed : "\n".toList.count '\n' = 1 := by decide
    rw [List.length_cons, List.map_cons, String.join_cons, String.toList_append,
      String.toList_append, List.count_append, List.count_append, List.count_eq_zero_of_not_mem hl,
      hfeed, ih hls]
    omega

namespace Columns

/-- What stands in some columns of a line. -/
def slice (first width : Nat) (line : String) : List Char := (line.toList.drop first).take width

/-- The byte whose two digits begin in a column. -/
def byte? (first : Nat) (line : String) : Option UInt8 :=
  (Numeral.read 16 256 (slice first 2 line)).toOption.map UInt8.ofNat

/-- The address, the bytes and the text of a line that shows bytes. -/
def read? (line : String) : Option (UInt32 × Word × String) := do
  let a ← (Address.read (String.ofList (slice 0 10 line))).toOption
  let b₀ ← byte? 12 line
  let b₁ ← byte? 15 line
  let b₂ ← byte? 18 line
  let b₃ ← byte? 21 line
  return (a, ⟨b₀, b₁, b₂, b₃⟩, String.ofList (line.toList.drop 26))

theorem length_byteText (b : UInt8) : (Line.byteText b).toList.length = 2 := by
  rw [String.length_toList]
  exact Numeral.length_hexWide (by omega) b.toNat_lt

theorem length_write (a : UInt32) : (Address.write a.toNat).toList.length = 10 := by
  rw [Address.toList_write, List.length_cons, List.length_cons, String.length_toList,
    Numeral.length_hexWide (by omega) a.toNat_lt]

variable {line : String} {rest : List Char} {b : UInt8} {n : Nat}

/-- The two digits of a byte are read back wherever they stand. -/
theorem byte?_eq (h : line.toList.drop n = (Line.byteText b).toList ++ rest) :
    byte? n line = some b := by
  have hdigits : Numeral.read 16 256 (Line.byteText b).toList = .ok b.toNat :=
    Numeral.read_of_denotes (by omega) b.toNat_lt (Numeral.denotes_hexWide 2 b.toNat)
  rw [byte?, slice, h, List.take_left' (length_byteText b), hdigits]
  simp [Except.toOption]

theorem drop_address {a : UInt32}
    (h : line.toList = (Address.write a.toNat).toList ++ ':' :: ' ' :: rest) :
    line.toList.drop 12 = rest := by
  rw [h, ← List.drop_drop (i := 2) (j := 10), List.drop_left' (length_write a)]
  rfl

/-- Behind a byte and a blank the next column is three further. -/
theorem drop_byte (h : line.toList.drop n = (Line.byteText b).toList ++ ' ' :: rest) :
    line.toList.drop (n + 3) = rest := by
  rw [← List.drop_drop, h, ← List.drop_drop (i := 1) (j := 2),
    List.drop_left' (length_byteText b)]
  rfl

/-- A line with bytes can be taken apart again. -/
theorem read?_write (l : Line) : read? (l.write true) = some (l.address, l.word, l.text) := by
  obtain ⟨a, ⟨b₀, b₁, b₂, b₃⟩, text, cls, target, ret⟩ := l
  generalize hline : Line.write true _ = line
  have hchars : line.toList =
      (Address.write a.toNat).toList ++ ':' :: ' ' :: ((Line.byteText b₀).toList ++ ' ' ::
        ((Line.byteText b₁).toList ++ ' ' :: ((Line.byteText b₂).toList ++ ' ' ::
          ((Line.byteText b₃).toList ++ ' ' :: ' ' :: ' ' :: text.toList)))) := by
    rw [← hline]
    simp [Line.write, Word.toList, List.append_assoc]
  have haddress : Address.read (String.ofList (slice 0 10 line)) = .ok a := by
    rw [slice, hchars, List.drop_zero, List.take_left' (length_write a), String.ofList_toList]
    exact (Address.spells_write a).read_eq
  have h₀ := drop_address hchars
  have h₁ := drop_byte h₀
  have h₂ := drop_byte h₁
  have h₃ := drop_byte h₂
  have htext : line.toList.drop 26 = text.toList := by
    rw [← List.drop_drop (i := 2) (j := 24), drop_byte h₃]
    rfl
  simp [read?, haddress, byte?_eq h₀, byte?_eq h₁, byte?_eq h₂, byte?_eq h₃, htext, Except.toOption]

end Columns

/-- The bytes of a word, two hexadecimal digits each. -/
def Word.Shown (w : Word) (pairs : List String) : Prop :=
  List.Forall₂ (fun b s => Numeral.Filled 16 2 s b.toNat) [w.opcode, w.first, w.second, w.third]
    pairs

theorem Word.shown_byteText (w : Word) : w.Shown (w.toList.map Line.byteText) :=
  forall₂_map fun b _ => Numeral.filled_hexWide (by omega) b.toNat_lt

namespace Line

/-- How a range lists a line: its address, its bytes if they are wanted, and its text. -/
def Listed (showBytes : Bool) (l : Line) (s : String) : Prop :=
  ∃ address pairs, Address.Written address l.address ∧ l.word.Shown pairs ∧
    s = address ++ ": " ++ (if showBytes then " ".intercalate pairs ++ "   " else "") ++ l.text

theorem listed_write (showBytes : Bool) (l : Line) : l.Listed showBytes (l.write showBytes) :=
  ⟨_, _, Address.written_write l.address, l.word.shown_byteText, rfl⟩

theorem write_false (l : Line) :
    l.write false = "0x" ++ Numeral.hexWide 8 l.address.toNat ++ ": " ++ l.text := by
  simp only [write, Bool.false_eq_true, ↓reduceIte, String.append_empty]
  rfl

theorem write_true (l : Line) :
    l.write true =
      "0x" ++ Numeral.hexWide 8 l.address.toNat ++ ": " ++
        " ".intercalate ([l.word.opcode, l.word.first, l.word.second, l.word.third].map fun b =>
          Numeral.hexWide 2 b.toNat) ++ "   " ++ l.text := by
  simp only [write, ↓reduceIte, String.append_assoc]
  rfl

end Line

theorem Line.isWhole_toJson (l : Line) : l.toJson.isWhole := by
  obtain ⟨a, w, text, cls, target, ret⟩ := l
  cases cls <;> cases target <;> rfl

namespace Listing

/-- The JSON of a listing stands for one record a line. -/
theorem parse?_writeJson (ls : List Line) :
    Json.parse? (writeJson ls) = some (.array (ls.map Line.toJson)) := by
  refine Json.parse?_indented (j := .array (ls.map Line.toJson)) ?_
  rw [Json.isWhole, Json.areWhole_iff, List.forall_mem_map]
  exact fun l _ => l.isWhole_toJson

theorem isLines_write {m : Image} {c : Config} {start stop : UInt32} (showBytes : Bool) :
    IsLines (write showBytes (m.sweep c start stop))
      ((m.sweep c start stop).map (Line.write showBytes)) where
  text_eq := by
    rw [write, List.map_map]
    rfl
  newline_notMem := by
    rw [List.forall_mem_map]
    intro l hl
    obtain ⟨a, w, rfl⟩ := Image.exists_ofWord_of_mem_sweep hl
    exact Line.newline_notMem_write c a w showBytes

end Listing

namespace Command

/-- What a run hands over, in a file or on the screen. -/
def Outcome.delivered (o : Outcome) : String :=
  match o.saved with
  | some (_, text) => text
  | none => o.stdout

/-- The same range in another format. -/
def RangeRequest.inFormat (q : RangeRequest) (showBytes json : Bool) : RangeRequest :=
  { q with showBytes := showBytes, json := json }

theorem RangeRequest.isPlain_of_bounds {q : RangeRequest} {bounds : UInt32 × UInt32}
    (h : q.bounds = .ok bounds) : isPlain q.start ∧ isPlain q.stop := by
  unfold RangeRequest.bounds at h
  split at h
  next => cases h
  next start hstart =>
    split at h
    next => cases h
    next stop hstop =>
      exact ⟨isPlain_of_head? (Address.head?_ne_dash_of_read hstart),
        isPlain_of_head? (Address.head?_ne_dash_of_read hstop)⟩

/-- The same request with its range in another format. -/
def ImageRequest.inFormat (r : ImageRequest) (q : RangeRequest) (showBytes json : Bool) :
    ImageRequest :=
  { r with action := .range (q.inFormat showBytes json) }

namespace ImageRequest

variable {r : ImageRequest} {q : RangeRequest} {d : Disk}

/-- What a range lists is a sweep over the image that is loaded. -/
theorem output_range_eq_ok_iff {file : Except FileError (Array UInt8)} {o : Output}
    (hq : r.action = .range q) :
    r.output file = .ok o ↔ ∃ (m : Image) (c : Config) (start stop : UInt32),
      r.window.load file = .ok m ∧ Config.ofRequest r.label r.strict = .ok c ∧
        q.bounds = .ok (start, stop) ∧ o = ⟨q.out, q.write (m.sweep c start stop)⟩ := by
  unfold output
  cases r.window.load file with
  | error e => simp
  | ok m =>
    cases Config.ofRequest r.label r.strict with
    | error e => simp
    | ok c =>
      cases hbounds : q.bounds with
      | error e => simp [hq, hbounds]
      | ok bounds =>
        obtain ⟨start, stop⟩ := bounds
        simp [hq, hbounds, eq_comm]

/-- A range that is listed in one format has bounds, and in every format the same lines. -/
theorem exists_sweep (hq : r.action = .range q) (hexit : (r.run d).exitCode = 0) :
    ∃ (m : Image) (c : Config) (start stop : UInt32), q.bounds = .ok (start, stop) ∧
      ∀ showBytes json,
        ((r.inFormat q showBytes json).run d).exitCode = 0 ∧
        ((r.inFormat q showBytes json).run d).delivered =
          (q.inFormat showBytes json).write (m.sweep c start stop) := by
  rw [run] at hexit
  cases houtput : r.output (d.read r.file) with
  | error e => simp [houtput, Outcome.failed] at hexit
  | ok o =>
    obtain ⟨m, c, start, stop, hload, hc, hbounds, rfl⟩ := (output_range_eq_ok_iff hq).1 houtput
    refine ⟨m, c, start, stop, hbounds, fun showBytes json => ?_⟩
    have hagain : (r.inFormat q showBytes json).output (d.read r.file) =
        .ok ⟨q.out, (q.inFormat showBytes json).write (m.sweep c start stop)⟩ :=
      (output_range_eq_ok_iff (q := q.inFormat showBytes json) rfl).2
        ⟨m, c, start, stop, hload, hc, hbounds, rfl⟩
    have hfile : (r.inFormat q showBytes json).file = r.file := rfl
    rw [run, hfile, hagain]
    cases hout : q.out with
    | none => exact ⟨rfl, rfl⟩
    | some path =>
      cases hrefusal : d.refusal path with
      | none => simp [hrefusal, Outcome.wrote, Outcome.delivered]
      | some e => simp [houtput, hout, hrefusal, Outcome.failed] at hexit

/-- A range whose bounds can be read is asked for in every format behind the same arguments. -/
theorem exists_front_inFormat {args : List String} {bounds : UInt32 × UInt32}
    (h : ofArguments args = .ok r) (hq : r.action = .range q) (hbounds : q.bounds = .ok bounds) :
    ∃ front rest, args = front ++ "range" :: rest ∧ ∀ showBytes json,
      ofArguments (front ++ "range" :: (q.inFormat showBytes json).arguments) =
        .ok (r.inFormat q showBytes json) := by
  obtain ⟨front, rest, hargs, -, hswap⟩ := exists_front h
  rw [hq] at hargs
  refine ⟨front, rest, hargs, fun showBytes json => ?_⟩
  refine hswap (.range (q.inFormat showBytes json)) _ (ImageAction.ofSubcommand_arguments ?_)
  rintro _ ⟨⟩
  exact RangeRequest.isPlain_of_bounds hbounds

end ImageRequest

/-- A range that is listed in one format is listed in all of them, however the arguments are read,
and can be asked for at the end of the same command line. There are as many records in JSON as lines
with bytes and lines without; each line is made from the record in its place, and the columns of a
line with bytes tell what it is made from. -/
theorem disassemble_formats_agree (d : Disk) {read : List String → Except Stop ImageRequest}
    {args : List String} {r : ImageRequest} {q : RangeRequest} (h : read args = .ok r)
    (hq : r.action = .range q) (hexit : (disassembleWith read d args).exitCode = 0) :
    (∀ args', ImageRequest.ofArguments args' = .ok r → ∃ front rest,
      args' = front ++ "range" :: rest ∧ ∀ showBytes json,
        ImageRequest.ofArguments (front ++ "range" :: (q.inFormat showBytes json).arguments) =
          .ok (r.inFormat q showBytes json)) ∧
    ∀ args' : Bool → Bool → List String,
      (∀ showBytes json, read (args' showBytes json) = .ok (r.inFormat q showBytes json)) →
      let o (showBytes json : Bool) := disassembleWith read d (args' showBytes json)
      (∀ showBytes json, (o showBytes json).exitCode = 0) ∧
      ∃ (rows : List Json) (shown plain : List String),
        (∀ showBytes, Json.parse? (o showBytes true).delivered = some (.array rows)) ∧
        IsLines (o true false).delivered shown ∧ IsLines (o false false).delivered plain ∧
        shown.length = rows.length ∧ plain.length = rows.length ∧
        ∀ (k : Nat) (row : Json), rows[k]? = some row →
          ∃ (a : UInt32) (b₀ b₁ b₂ b₃ : UInt8) (text : String) (cls target isReturn : Json),
            row = .record [("addr", .ofNat a.toNat),
              ("bytes", .array [.ofNat b₀.toNat, .ofNat b₁.toNat, .ofNat b₂.toNat,
                .ofNat b₃.toNat]),
              ("text", .ofString text), ("class", cls), ("target", target),
              ("is_ret", isReturn)] ∧
            let address := "0x" ++ Numeral.hexWide 8 a.toNat
            let bytes := " ".intercalate ([b₀, b₁, b₂, b₃].map fun b => Numeral.hexWide 2 b.toNat)
            let line := address ++ ": " ++ bytes ++ "   " ++ text
            shown[k]? = some line ∧ plain[k]? = some (address ++ ": " ++ text) ∧
              Columns.read? line = some (a, ⟨b₀, b₁, b₂, b₃⟩, text) := by
  rw [disassembleWith, runWith_eq h] at hexit
  obtain ⟨m, c, start, stop, hbounds, hrun⟩ := ImageRequest.exists_sweep hq hexit
  refine ⟨fun args' hargs => ImageRequest.exists_front_inFormat hargs hq hbounds, ?_⟩
  intro args' hread o
  have hdone (showBytes json : Bool) : o showBytes json = (r.inFormat q showBytes json).run d :=
    runWith_eq (hread showBytes json)
  simp only [hdone, hrun]
  refine ⟨fun _ _ => trivial, (m.sweep c start stop).map Line.toJson,
    (m.sweep c start stop).map (Line.write true), (m.sweep c start stop).map (Line.write false),
    fun showBytes => ?_, ?_, ?_, ?_, ?_, ?_⟩
  · exact Listing.parse?_writeJson _
  · exact Listing.isLines_write true
  · exact Listing.isLines_write false
  · simp
  · simp
  · intro k row hrow
    rw [List.getElem?_map, Option.map_eq_some_iff] at hrow
    obtain ⟨l, hl, rfl⟩ := hrow
    refine ⟨l.address, l.word.opcode, l.word.first, l.word.second, l.word.third, l.text, _, _, _,
      rfl, ?_⟩
    simp only [List.getElem?_map, hl, Option.map_some, ← Line.write_false, ← Line.write_true]
    exact ⟨trivial, trivial, Columns.read?_write l⟩

/-- A call that goes back behind address zero, a word that no part knows, and half a word. -/
theorem disassemble_formats_agree_on_two_words :
    let d : Disk :=
      ⟨fun _ => .ok #[0xA8, 0xFF, 0x05, 0xFF, 0xFF, 0x00, 0x00, 0x00, 0xA1, 0x00], fun _ => none⟩
    let o (format : List String) := disassemble d (["fw.bin", "range", "0", "0xa"] ++ format)
    ∃ (rows : List Json) (shown : List String),
      Json.parse? (o ["--format", "json"]).delivered = some (.array rows) ∧
        IsLines (o ["--show-bytes"]).delivered shown ∧ shown.length = 2 ∧ rows.length = 2 := by
  intro d o
  have honly (front rest : List String)
      (h : ["fw.bin", "range", "0", "0xa"] = front ++ "range" :: rest) : front = ["fw.bin"] := by
    rcases front with _ | ⟨_, _ | ⟨_, _ | ⟨_, _ | ⟨_, _⟩⟩⟩⟩ <;> simp_all
  let q : RangeRequest := ⟨"0", "0xa", false, false, none⟩
  let r : ImageRequest := ⟨"fw.bin", ⟨0, 0, none⟩, none, false, .range q⟩
  have hr : ImageRequest.ofArguments ["fw.bin", "range", "0", "0xa"] = .ok r := by decide +kernel
  have hexit : (disassemble d ["fw.bin", "range", "0", "0xa"]).exitCode = 0 := by decide +kernel
  obtain ⟨hargs, hagree⟩ := disassemble_formats_agree d hr rfl hexit
  obtain ⟨front, rest, hfront, hread⟩ := hargs _ hr
  obtain rfl := honly front rest hfront
  obtain ⟨-, rows, shown, -, hrows, hshown, -, hlength, -⟩ := hagree _ hread
  have htwo : shown.length = 2 := hshown.length_eq.trans (by decide +kernel)
  exact ⟨rows, shown, hrows false, hshown, htwo, hlength.symm.trans htwo⟩

end Command

end Am29000
