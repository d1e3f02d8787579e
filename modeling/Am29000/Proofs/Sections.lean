import Am29000.Proofs.Formats
import Am29000.Proofs.Loading

/-!
The table of sections, read as columns. Main statement: what the table says about where a loaded
segment starts and ends can be asked for as a range, which then lists every whole word of it, as
long as the segment ends below the top of the address space.
-/
namespace Am29000.Command

namespace Table

variable {sep : Char} {s : List Char} {cell : String}

/-- The parts of a text between separators, without the empty ones. -/
def parts (sep : Char) (s : List Char) : List (List Char) := (s.splitOn sep).filter (· ≠ [])

@[simp] theorem parts_nil (sep : Char) : parts sep [] = [] := by
  simp [parts]

theorem parts_append_cons (sep : Char) (s t : List Char) :
    parts sep (s ++ sep :: t) = parts sep s ++ parts sep t := by
  rw [parts, List.splitOn_eq_splitOnP,
    List.splitOnP_append_cons (p := (· == sep)) s t (beq_self_eq_true sep), List.filter_append]
  rfl

/-- A text without separators is one part. -/
theorem parts_of_notMem (hne : s ≠ []) (h : sep ∉ s) : parts sep s = [s] := by
  have hkeep : ∀ c ∈ s, (c == sep) = false := by
    intro c hc
    exact beq_false_of_ne (ne_of_mem_of_not_mem hc h)
  rw [parts, List.splitOn_eq_splitOnP, List.splitOnP_eq_singleton hkeep]
  simp [hne]

/-- Separators at the end do not count. -/
theorem parts_append_replicate (sep : Char) (s : List Char) (k : Nat) :
    parts sep (s ++ List.replicate k sep) = parts sep s := by
  induction k with
  | zero => rw [List.replicate_zero, List.append_nil]
  | succ k ih =>
    rw [List.replicate_succ', ← List.append_assoc, parts_append_cons, parts_nil,
      List.append_nil, ih]

/-- The cells of a row stand between blanks. -/
def cells (row : List Char) : List String := (parts ' ' row).map String.ofList

/-- The rows are lines. -/
def grid (table : List Char) : List (List String) := (parts '\n' table).map cells

/-- The cells under a heading, which stands in the first row. -/
def column (heading table : String) : List String :=
  match grid table.toList with
  | [] => []
  | header :: rows => rows.filterMap fun row => row[header.idxOf heading]?

/-- What can stand in a cell. -/
structure IsCell (cell : String) : Prop where
  ne_empty : cell ≠ ""
  blank : ' ' ∉ cell.toList
  newline : '\n' ∉ cell.toList

theorem isCell_of_isToken (hne : cell ≠ "") (h : IsToken cell) : IsCell cell :=
  ⟨hne, h.notMem (by decide), h.notMem (by decide)⟩

theorem isCell_write (n : Nat) : IsCell (Address.write n) := by
  refine isCell_of_isToken (fun h => ?_) (Address.isToken_write n)
  simpa [Address.toList_write] using congrArg String.toList h

/-- Cells with blanks behind each of them, and one blank more between two. -/
def row : List (String × Nat) → List Char
  | [] => []
  | [p] => p.1.toList ++ List.replicate p.2 ' '
  | p :: q :: ps => p.1.toList ++ List.replicate p.2 ' ' ++ ' ' :: row (q :: ps)

variable {ps : List (String × Nat)}

theorem cells_row (h : ∀ p ∈ ps, IsCell p.1) : cells (row ps) = ps.map Prod.fst := by
  have hpadded {p : String × Nat} (hp : IsCell p.1) :
      parts ' ' (p.1.toList ++ List.replicate p.2 ' ') = [p.1.toList] := by
    rw [parts_append_replicate, parts_of_notMem (by simpa using hp.ne_empty) hp.blank]
  fun_induction row ps with
  | case1 => rfl
  | case2 p =>
    rw [cells, hpadded (h p List.mem_cons_self)]
    simp
  | case3 p q ps ih =>
    rw [cells, parts_append_cons, hpadded (h p List.mem_cons_self), List.map_append, ← cells,
      ih fun p hp => h p (List.mem_cons_of_mem _ hp)]
    simp

theorem newline_notMem_row (h : ∀ p ∈ ps, IsCell p.1) : '\n' ∉ row ps := by
  fun_induction row ps with
  | case1 => simp
  | case2 p => simp [(h p List.mem_cons_self).newline]
  | case3 p q ps ih =>
    simp [(h p List.mem_cons_self).newline, ih fun p hp => h p (List.mem_cons_of_mem _ hp)]

/-- A row that is a line of its own is read as its cells. -/
theorem grid_row (h : ∀ p ∈ ps, IsCell p.1) (hne : ps ≠ []) (rest : List Char) :
    grid (row ps ++ '\n' :: rest) = ps.map Prod.fst :: grid rest := by
  have hcells := cells_row h
  have hrow : row ps ≠ [] := by
    intro hnil
    rw [hnil] at hcells
    exact hne (List.map_eq_nil_iff.1 hcells.symm)
  rw [grid, parts_append_cons, parts_of_notMem hrow (newline_notMem_row h), ← hcells]
  rfl

/-- A segment whose texts are cells. -/
structure Tabular (s : Segment) : Prop where
  name : IsCell s.name
  access : IsCell s.access
  kind : IsCell s.kind

theorem tabular_segment (w : Window) (p : Array UInt8) : Tabular (w.segment p) where
  name := show IsCell "segment0" from isCell_of_isToken (by decide) (by decide)
  access := show IsCell "r-x" from isCell_of_isToken (by decide) (by decide)
  kind := show IsCell "raw" from isCell_of_isToken (by decide) (by decide)

end Table

namespace ImageRequest

open Table

/-- The cells of the first row. -/
def headings : List String := ["name", "start", "end", "perms", "kind"]

theorem isCell_of_mem_headings {heading : String} (h : heading ∈ headings) : IsCell heading := by
  have htokens : ∀ t ∈ headings, t ≠ "" ∧ IsToken t := by decide
  exact isCell_of_isToken (htokens heading h).1 (htokens heading h).2

/-- The cells of the row of a segment. -/
def sectionCells (s : Segment) : List String :=
  [s.name, Address.write s.base.toNat, Address.write s.stop, s.access, s.kind]

/-- A cell filled up to a width. -/
def padded (width : Nat) (cell : String) : String × Nat := (cell, width - cell.toList.length)

theorem toList_column (width : Nat) (s : String) :
    (ImageRequest.column width s).toList =
      (padded width s).1.toList ++ List.replicate (padded width s).2 ' ' := by
  rw [ImageRequest.column, String.toList_ofList]
  rfl

theorem toList_sectionHeader :
    sectionHeader.toList =
      row [padded 10 "name", padded 12 "start", padded 12 "end", padded 6 "perms",
        padded 6 "kind"] ++ ['\n'] := by
  simp only [sectionHeader, row, String.toList_append, toList_column, List.append_assoc,
    List.cons_append, List.nil_append, String.reduceToList]

theorem toList_sectionRow (s : Segment) :
    (sectionRow s).toList =
      row [padded 10 s.name, (Address.write s.base.toNat, 2), (Address.write s.stop, 2),
        padded 6 s.access, padded 6 s.kind] ++ ['\n'] := by
  have hgap : "   ".toList = List.replicate 2 ' ' ++ [' '] := rfl
  simp only [sectionRow, row, String.toList_append, toList_column, hgap, List.append_assoc,
    List.cons_append, List.nil_append, String.reduceToList]

theorem grid_sectionTable {m : Image} (h : ∀ s ∈ m.segments, Tabular s) :
    grid (sectionTable m).toList = headings :: m.segments.map sectionCells := by
  have hrows (segments : List Segment) (h : ∀ s ∈ segments, Tabular s) :
      grid (String.join (segments.map sectionRow)).toList = segments.map sectionCells := by
    induction segments with
    | nil => rfl
    | cons s segments ih =>
      have hs := h s List.mem_cons_self
      rw [List.map_cons, String.join_cons, String.toList_append, toList_sectionRow,
        List.append_assoc, List.singleton_append, grid_row _ (by simp),
        ih fun s hs => h s (List.mem_cons_of_mem _ hs)]
      · rfl
      · simp [padded, hs.name, hs.access, hs.kind, isCell_write]
  rw [sectionTable, String.toList_append, toList_sectionHeader, List.append_assoc,
    List.singleton_append, grid_row _ (by simp), hrows m.segments h]
  · rfl
  · exact fun p hp => isCell_of_mem_headings (List.mem_map_of_mem hp)

theorem column_eq_map {m : Image} {heading : String} {f : Segment → String}
    (h : ∀ s ∈ m.segments, Tabular s)
    (hf : ∀ s, (sectionCells s)[headings.idxOf heading]? = some (f s)) :
    Table.column heading (sectionTable m) = m.segments.map f := by
  simp only [Table.column, grid_sectionTable h, List.filterMap_map]
  rw [← List.filterMap_eq_map]
  exact congrArg (List.filterMap · m.segments) (funext hf)

/-- The columns hold where every segment starts and where it ends. -/
theorem column_sectionTable {m : Image} (h : ∀ s ∈ m.segments, Tabular s) :
    Table.column "start" (sectionTable m) =
        m.segments.map (fun s => Address.write s.base.toNat) ∧
      Table.column "end" (sectionTable m) = m.segments.map fun s => Address.write s.stop :=
  ⟨column_eq_map h fun _ => rfl, column_eq_map h fun _ => rfl⟩

section Run

variable {r : ImageRequest} {d : Disk} {c : Config} {s : Segment}

/-- A request for the sections that succeeds shows the one segment that is loaded. -/
theorem run_sections (h : r.action = .sections) (hexit : (r.run d).exitCode = 0) :
    ∃ s c, r.window.load (d.read r.file) = .ok ⟨[s]⟩ ∧ Tabular s ∧
      Config.ofRequest r.label r.strict = .ok c ∧ r.run d = .printed (sectionTable ⟨[s]⟩) := by
  cases hload : r.window.load (d.read r.file) with
  | error e => simp [run, output, hload, Outcome.failed] at hexit
  | ok m =>
    cases hc : Config.ofRequest r.label r.strict with
    | error e => simp [run, output, hload, hc, Outcome.failed] at hexit
    | ok c =>
      obtain ⟨p, rfl⟩ := Window.exists_segment_of_load hload
      exact ⟨_, c, rfl, tabular_segment _ p, rfl, by simp only [run, output, hload, hc, h]⟩

/-- The range that reaches from the start to the end of a segment. -/
def wholeRange (s : Segment) : RangeRequest :=
  ⟨Address.write s.base.toNat, Address.write s.stop, false, false, none⟩

theorem ofArguments_wholeRange (s : Segment) :
    RangeRequest.ofArguments [Address.write s.base.toNat, Address.write s.stop] =
      .ok (wholeRange s) := by
  have hplain (n : Nat) : isPlain (Address.write n) := by
    apply isPlain_of_head?
    simp [Address.toList_write]
  exact RangeRequest.ofArguments_arguments (q := wholeRange s) (hplain _) (hplain _)

theorem run_wholeRange (haction : r.action = .range (wholeRange s))
    (hload : r.window.load (d.read r.file) = .ok ⟨[s]⟩)
    (hc : Config.ofRequest r.label r.strict = .ok c) (hstop : s.stop < UInt32.size) :
    r.run d =
      .printed (Listing.write false (Image.sweep ⟨[s]⟩ c s.base (UInt32.ofNat s.stop))) := by
  have hnat := UInt32.toNat_ofNat_of_lt' hstop
  have hread : Address.read (Address.write s.stop) = .ok (UInt32.ofNat s.stop) := by
    simpa only [hnat] using (Address.spells_write (UInt32.ofNat s.stop)).read_eq
  have hle : ¬s.stop < s.base.toNat := by
    unfold Segment.stop
    omega
  have hbounds : (wholeRange s).bounds = .ok (s.base, UInt32.ofNat s.stop) := by
    simp only [RangeRequest.bounds, wholeRange, (Address.spells_write s.base).read_eq, hread, hnat,
      hle, ↓reduceIte]
  simp only [run, output, hload, hc, haction, hbounds]
  rfl

theorem run_wholeRange_of_le (haction : r.action = .range (wholeRange s))
    (hload : r.window.load (d.read r.file) = .ok ⟨[s]⟩)
    (hc : Config.ofRequest r.label r.strict = .ok c) (hstop : UInt32.size ≤ s.stop) :
    r.run d = .failed "" Numeral.Fault.tooLarge.message := by
  have hbounds : (wholeRange s).bounds = .error (.bound .tooLarge) := by
    simp only [RangeRequest.bounds, wholeRange, (Address.spells_write s.base).read_eq,
      Address.read_write_of_le hstop]
  simp only [run, output, hload, hc, haction, hbounds]
  rfl

end Run

end ImageRequest

/-- What the table of sections says can be asked for, however the arguments are read. It has one
start and one end, and with the same options the range between them is listed, a line for every
whole word of the loaded segment, if that ends below the top of the address space. An end at the top
or behind it is refused as a bound. -/
theorem disassemble_sections_then_range (d : Disk)
    {read : List String → Except Stop ImageRequest} {args : List String} {r : ImageRequest}
    (h : read args = .ok r) (haction : r.action = .sections)
    (hexit : (disassembleWith read d args).exitCode = 0) :
    ∃ s c start stop,
      r.window.load (d.read r.file) = .ok ⟨[s]⟩ ∧ Config.ofRequest r.label r.strict = .ok c ∧
      Table.column "start" (disassembleWith read d args).stdout = [start] ∧
      Table.column "end" (disassembleWith read d args).stdout = [stop] ∧
      let again := { r with action := .range ⟨start, stop, false, false, none⟩ }
      (∀ args', ImageRequest.ofArguments args' = .ok r → ∃ front rest,
        args' = front ++ "sections" :: rest ∧
          ImageRequest.ofArguments (front ++ ["range", start, stop]) = .ok again) ∧
      ∀ args', read args' = .ok again →
        let o := disassembleWith read d args'
        (s.stop < UInt32.size → ∃ (ls : List Line) (text : String) (shown : List String),
          o = .printed text ∧ IsLines text shown ∧ List.Forall₂ (Line.Listed false) ls shown ∧
          ls.length = s.bytes.size / 4 ∧
          Listing.bytes ls = s.bytes.toList.take (4 * (s.bytes.size / 4)) ∧
          ∀ k l, ls[k]? = some l → l.address.toNat = s.base.toNat + 4 * k ∧ l.Describes c) ∧
        (UInt32.size ≤ s.stop → o = .failed "" Numeral.Fault.tooLarge.message) := by
  rw [disassembleWith, runWith_eq h] at hexit ⊢
  obtain ⟨s, c, hload, hs, hc, htable⟩ := ImageRequest.run_sections haction hexit
  obtain ⟨hstart, hend⟩ := ImageRequest.column_sectionTable (m := ⟨[s]⟩) (by simpa using hs)
  rw [htable]
  refine ⟨s, c, _, _, hload, hc, hstart, hend, fun args' hargs => ?_, fun args' hargs => ?_⟩
  · obtain ⟨front, rest, rfl, -, hswap⟩ := ImageRequest.exists_front hargs
    rw [haction]
    refine ⟨front, rest, rfl, hswap (.range (ImageRequest.wholeRange s)) _ ?_⟩
    rw [ImageAction.name, ImageAction.ofSubcommand_range, ImageRequest.ofArguments_wholeRange]
    rfl
  · rw [disassembleWith, runWith_eq hargs]
    refine ⟨fun hstop => ?_, fun hstop => ?_⟩
    · obtain ⟨hlength, hbytes⟩ :=
        Segment.bytes_sweep_image (UInt32.toNat_ofNat_of_lt' hstop) c
      refine ⟨_, _, _, ImageRequest.run_wholeRange rfl hload hc hstop, Listing.isLines_write false,
        forall₂_map fun l _ => l.listed_write false, hlength, hbytes, fun k l hl => ?_⟩
      obtain ⟨a, w, -, rfl⟩ := Image.getElem?_sweep.1 hl
      exact ⟨Image.toNat_address_sweep hl, Line.describes_ofWord c a w⟩
    · exact ImageRequest.run_wholeRange_of_le rfl hload hc hstop

/-- Ten bytes close to the top: the range between the two addresses shown has two lines. -/
theorem disassemble_sections_then_range_close_to_top :
    let d : Disk := ⟨fun _ => .ok #[0x70, 0x40, 0x01, 0x01, 0xA1, 0, 0, 1, 0, 0], fun _ => none⟩
    let table := (disassemble d ["--base=4294967280", "fw.bin", "sections"]).stdout
    ∃ front start stop text shown, Table.column "start" table = [start] ∧
      Table.column "end" table = [stop] ∧
      disassemble d (front ++ ["range", start, stop]) = .printed text ∧
      IsLines text shown ∧ shown.length = 2 := by
  intro d table
  let r : ImageRequest := ⟨"fw.bin", ⟨0xFFFFFFF0, 0, none⟩, none, false, .sections⟩
  have hr : ImageRequest.ofArguments ["--base=4294967280", "fw.bin", "sections"] = .ok r := by
    decide +kernel
  obtain ⟨s, c, start, stop, hload, -, hstart, hend, hagain, hrange⟩ :=
    disassemble_sections_then_range d hr rfl (by decide +kernel)
  obtain ⟨front, rest, -, hargs⟩ := hagain _ hr
  have hsize : s.stop = 0xFFFFFFFA ∧ s.bytes.size = 10 := by
    cases hload
    decide +kernel
  obtain ⟨ls, text, shown, hprinted, hlines, hshown, hlength, -⟩ :=
    (hrange _ hargs).1 (hsize.1 ▸ by decide)
  rw [hsize.2] at hlength
  exact ⟨front, start, stop, text, shown, hstart, hend, hprinted, hlines,
    hshown.length_eq.symm.trans hlength⟩

/-- The last word of the address space is shown as a section, but the end of that is no bound. -/
theorem range_refuses_end_of_address_space :
    let d : Disk := ⟨fun _ => .ok #[0x70, 0x40, 0x01, 0x01], fun _ => none⟩
    let sections := disassemble d ["--base", "4294967292", "fw.bin", "sections"]
    let range := disassemble d
      ["--base", "4294967292", "fw.bin", "range", "0xfffffffc", "0x100000000"]
    (∃ s, Window.load ⟨0xFFFFFFFC, 0, none⟩ (d.read "fw.bin") = .ok ⟨[s]⟩ ∧
      s.stop = UInt32.size) ∧
    sections.exitCode = 0 ∧ Table.column "start" sections.stdout = ["0xfffffffc"] ∧
      Table.column "end" sections.stdout = ["0x100000000"] ∧
      range.exitCode = 1 ∧ range.stdout = "" := by
  refine ⟨⟨_, rfl, ?_⟩, ?_⟩
  · decide +kernel
  · decide +kernel

end Am29000.Command
