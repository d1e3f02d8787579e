import Am29000.Command.Image
import Am29000.Command.Words
import Am29000.Proofs.Addresses

/-!
Command lines for requests. Main statements: the arguments written for a request of either command
are read back as that request.
-/
namespace Am29000.Command

/-- A setting and its value in one argument. -/
def named (name value : String) : String := "--" ++ name ++ "=" ++ value

/-- What two dashes introduce is a name, up to the first equals sign if there is one. -/
theorem shape_dashes {arg : String} {rest : List Char} (h : arg.toList = '-' :: '-' :: rest)
    (hne : rest ≠ []) :
    shape arg =
      match rest.dropWhile (· ≠ '=') with
      | [] => .name (String.ofList (rest.takeWhile (· ≠ '='))) none
      | _ :: value =>
          .name (String.ofList (rest.takeWhile (· ≠ '='))) (some (String.ofList value)) := by
  unfold shape
  rw [h]
  cases rest with
  | nil => exact absurd rfl hne
  | cons c rest => rfl

theorem shape_named {name value : String} (h : '=' ∉ name.toList) :
    shape (named name value) = .name name (some value) := by
  have hne : ∀ c ∈ name.toList, decide (c ≠ '=') := by
    intro c hc
    rw [decide_eq_true_eq]
    rintro rfl
    exact h hc
  have hlist : (named name value).toList = '-' :: '-' :: (name.toList ++ '=' :: value.toList) := by
    simp [named, String.toList_append]
  rw [shape_dashes hlist (by simp), List.takeWhile_append_of_pos hne,
    List.dropWhile_append_of_pos hne]
  simp

theorem shape_eq_plain {arg : String} (h : arg.toList.head? ≠ some '-') : shape arg = .plain := by
  unfold shape
  split
  next hs => simp [hs] at h
  next hs => simp [hs] at h
  next hs => simp [hs] at h
  next => rfl

/-- Whatever does not begin with a dash is plain. -/
theorem isPlain_of_head? {arg : String} (h : arg.toList.head? ≠ some '-') : isPlain arg := by
  rw [isPlain, shape_eq_plain h]

/-- Numerals and names are plain. -/
theorem isPlain_of_isAlphanum {arg : String} (h : ∀ c ∈ arg.toList, c.isAlphanum) :
    isPlain arg := by
  apply isPlain_of_head?
  intro hhead
  exact absurd (h '-' (List.mem_of_head? hhead)) (by decide)

theorem isPlain_iff {arg : String} : isPlain arg ↔ shape arg = .plain := by
  unfold isPlain
  cases shape arg <;> simp

theorem ne_dashes_of_isPlain {arg : String} (h : isPlain arg) : arg ≠ "--" := by
  rintro rfl
  exact absurd h (by decide)

namespace Grammar

variable {κ : Type} {g : Grammar κ} {arg : String} {rest : List String} {t : Token κ}

theorem tokens_cons (hsub : arg ∉ g.subcommands) (hend : arg ≠ "--")
    (h : g.read arg = .token t) : g.tokens (arg :: rest) = t :: g.tokens rest := by
  rw [tokens.eq_def]
  simp only [hsub, hend, h, ↓reduceIte]

theorem tokens_setting {key : κ} {value : String} (hsub : arg ∉ g.subcommands)
    (hend : arg ≠ "--") (h : g.read arg = .awaiting key) (hvalue : isPlain value) :
    g.tokens (arg :: value :: rest) = .setting key value :: g.tokens rest := by
  rw [tokens.eq_def]
  simp only [hsub, hend, h, hvalue, ↓reduceIte]

theorem tokens_operand (hsub : arg ∉ g.subcommands) (h : isPlain arg) :
    g.tokens (arg :: rest) = .operand arg :: g.tokens rest := by
  apply tokens_cons hsub (ne_dashes_of_isPlain h)
  rw [read, isPlain_iff.1 h]

theorem tokens_operands {texts : List String} (hsub : ∀ t ∈ texts, t ∉ g.subcommands)
    (h : ∀ t ∈ texts, isPlain t) : g.tokens texts = texts.map .operand := by
  induction texts with
  | nil => rfl
  | cons t texts ih =>
    rw [tokens_operand (hsub t List.mem_cons_self) (h t List.mem_cons_self), List.map_cons,
      ih (fun t ht => hsub t (List.mem_cons_of_mem _ ht))
        (fun t ht => h t (List.mem_cons_of_mem _ ht))]

theorem tokens_subcommand (h : arg ∈ g.subcommands) :
    g.tokens (arg :: rest) = [.subcommand arg rest] := by
  rw [tokens.eq_def]
  exact if_pos h

section Collect

variable [DecidableEq κ] {s : Collected κ} {key : κ} {ts : List (Token κ)}

theorem collect_setting {value : String} (hs : s.setting? key = none)
    (h : g.accepts key value) :
    g.collect s (.setting key value :: ts) =
      g.collect { s with settings := s.settings ++ [(key, value)] } ts := by
  rw [collect, if_pos ⟨by rw [hs]; rfl, h⟩]

theorem collect_flag (hs : s.hasFlag key = false) :
    g.collect s (.flag key :: ts) = g.collect { s with flags := s.flags ++ [key] } ts := by
  rw [collect, hs]
  rfl

theorem collect_operand (h : g.hasRoom s.operands.length) :
    g.collect s (.operand arg :: ts) =
      g.collect { s with operands := s.operands ++ [arg] } ts := by
  rw [collect, if_pos h]

/-- Where any number of operands is allowed, all of them are collected. -/
theorem collect_operands (h : g.mostOperands = none) (s : Collected κ) (texts : List String) :
    g.collect s (texts.map .operand) = .ok { s with operands := s.operands ++ texts } := by
  induction texts generalizing s with
  | nil => simp [collect]
  | cons t texts ih =>
    rw [List.map_cons, collect_operand (by simp [hasRoom, h]), ih]
    simp

end Collect

end Grammar

/-- The label and the strictness of a decoder, if there is anything to say about them. -/
def partArguments (label : Option String) (strict : Bool) : List String :=
  (label.map (named "cpu")).toList ++ (if strict then ["--strict-family"] else [])

/-- The tokens of `partArguments`. -/
def partTokens {κ : Type} (labelKey strictKey : κ) (label : Option String) (strict : Bool) :
    List (Token κ) :=
  (label.map (Token.setting labelKey)).toList ++ (if strict then [.flag strictKey] else [])

theorem Grammar.tokens_partArguments {κ : Type} (g : Grammar κ) (labelKey strictKey : κ)
    (hsub : ∀ arg ∈ g.subcommands, isPlain arg)
    (hlabel : ∀ l, g.readName "cpu" (some l) = .token (.setting labelKey l))
    (hstrict : g.readName "strict-family" none = .token (.flag strictKey))
    (label : Option String) (strict : Bool) (rest : List String) :
    g.tokens (partArguments label strict ++ rest) =
      partTokens labelKey strictKey label strict ++ g.tokens rest := by
  have hname {arg name : String} {value : Option String} (h : shape arg = .name name value) :
      arg ∉ g.subcommands ∧ arg ≠ "--" := by
    constructor
    · intro hmem
      have := isPlain_iff.1 (hsub arg hmem)
      simp [h] at this
    · rintro rfl
      cases h
  have hflag : shape "--strict-family" = .name "strict-family" none := rfl
  have htail : g.tokens ((if strict then ["--strict-family"] else []) ++ rest) =
      (if strict then [.flag strictKey] else []) ++ g.tokens rest := by
    cases strict with
    | false => rfl
    | true =>
      have hread : g.read "--strict-family" = .token (.flag strictKey) := by
        rw [read, hflag, ← hstrict]
      exact tokens_cons (hname hflag).1 (hname hflag).2 hread
  cases label with
  | none => exact htail
  | some l =>
    have hshape : shape (named "cpu" l) = .name "cpu" (some l) := shape_named (by decide)
    have hread : g.read (named "cpu" l) = .token (.setting labelKey l) := by
      rw [read, hshape, ← hlabel]
    exact (tokens_cons (hname hshape).1 (hname hshape).2 hread).trans (congrArg _ htail)

theorem Grammar.collect_partTokens {κ : Type} [DecidableEq κ] {g : Grammar κ} {s : Collected κ}
    {labelKey strictKey : κ} (hlabel : s.setting? labelKey = none)
    (hstrict : s.hasFlag strictKey = false) (haccepts : ∀ l, g.accepts labelKey l)
    (label : Option String) (strict : Bool) (ts : List (Token κ)) :
    g.collect s (partTokens labelKey strictKey label strict ++ ts) =
      g.collect ⟨s.settings ++ (label.map (labelKey, ·)).toList,
        s.flags ++ (if strict then [strictKey] else []), s.operands, s.subcommand⟩ ts := by
  cases label with
  | none =>
    cases strict with
    | false => simp [partTokens]
    | true => simp [partTokens, collect_flag hstrict]
  | some l =>
    have hset :
        g.collect s (.setting labelKey l :: ((if strict then [.flag strictKey] else []) ++ ts)) =
          _ := collect_setting hlabel (haccepts l)
    cases strict with
    | false => simpa [partTokens] using hset
    | true =>
      have hflag : g.collect { s with settings := s.settings ++ [(labelKey, l)] }
          (.flag strictKey :: ts) = _ := collect_flag hstrict
      simpa [partTokens] using hset.trans hflag

namespace WordsRequest

/-- The arguments that ask for it. -/
def arguments (r : WordsRequest) : List String :=
  ["--addr", r.address] ++ partArguments r.label r.strict ++ r.words

/-- A request whose texts do not look like names is read back from its arguments. -/
theorem ofArguments_arguments {r : WordsRequest} (haddress : isPlain r.address)
    (hwords : ∀ w ∈ r.words, isPlain w) (hne : r.words ≠ []) : ofArguments r.arguments = .ok r := by
  obtain ⟨address, label, strict, words⟩ := r
  dsimp only at haddress hwords hne
  have hnone : grammar.subcommands = [] := rfl
  have hpart := grammar.tokens_partArguments .label .strict (by simp [hnone]) (fun _ => rfl) rfl
    label strict words
  have hoperands : grammar.tokens words = words.map .operand :=
    Grammar.tokens_operands (by simp [hnone]) hwords
  have htokens : grammar.tokens (arguments ⟨address, label, strict, words⟩) =
      .setting .address address :: (partTokens .label .strict label strict ++
        words.map .operand) := by
    rw [arguments, List.append_assoc, ← hoperands, ← hpart]
    exact Grammar.tokens_setting (by simp [hnone]) (by decide) rfl haddress
  have hparse : grammar.parse (arguments ⟨address, label, strict, words⟩) =
      .ok ⟨(Key.address, address) :: (label.map (Key.label, ·)).toList,
        if strict then [.strict] else [], words, none⟩ := by
    rw [Grammar.parse, htokens, Grammar.collect_setting rfl rfl,
      Grammar.collect_partTokens rfl rfl (fun _ => rfl), Grammar.collect_operands rfl]
    rfl
  unfold ofArguments
  rw [hparse]
  cases label <;> cases strict <;> simp [hne, Collected.setting?, Collected.hasFlag]

end WordsRequest

namespace RangeRequest

/-- The arguments that ask for it, behind the name of its subcommand. -/
def arguments (q : RangeRequest) : List String :=
  [q.start, q.stop] ++ (if q.showBytes then ["--show-bytes"] else []) ++
    (if q.json then ["--format", "json"] else []) ++ (q.out.map (named "out")).toList

theorem ofArguments_arguments {q : RangeRequest} (hstart : isPlain q.start)
    (hstop : isPlain q.stop) : ofArguments q.arguments = .ok q := by
  obtain ⟨start, stop, showBytes, json, out⟩ := q
  dsimp only at hstart hstop
  have hnone : grammar.subcommands = [] := rfl
  have hout : grammar.tokens (out.map (named "out")).toList =
      (out.map (Token.setting Key.out)).toList := by
    cases out with
    | none => rfl
    | some path =>
      have hshape : shape (named "out" path) = .name "out" (some path) := shape_named (by decide)
      have hread : grammar.read (named "out" path) = .token (.setting .out path) := by
        rw [Grammar.read, hshape]
        rfl
      refine Grammar.tokens_cons (by simp [hnone]) ?_ hread
      rintro heq
      rw [heq] at hshape
      cases hshape
  have hformat (rest : List String) :
      grammar.tokens ((if json then ["--format", "json"] else []) ++ rest) =
        (if json then [.setting .format "json"] else []) ++ grammar.tokens rest := by
    cases json with
    | false => rfl
    | true => exact Grammar.tokens_setting (by simp [hnone]) (by decide) rfl (by decide)
  have hbytes (rest : List String) :
      grammar.tokens ((if showBytes then ["--show-bytes"] else []) ++ rest) =
        (if showBytes then [.flag .showBytes] else []) ++ grammar.tokens rest := by
    cases showBytes with
    | false => rfl
    | true => exact Grammar.tokens_cons (by simp [hnone]) (by decide) rfl
  have htokens : grammar.tokens (arguments ⟨start, stop, showBytes, json, out⟩) =
      .operand start :: .operand stop :: ((if showBytes then [.flag .showBytes] else []) ++
        ((if json then [.setting .format "json"] else []) ++
          (out.map (Token.setting Key.out)).toList)) := by
    rw [arguments, List.append_assoc, List.append_assoc, ← hout, ← hformat, ← hbytes]
    exact (Grammar.tokens_operand (by simp [hnone]) hstart).trans
      (congrArg _ (Grammar.tokens_operand (by simp [hnone]) hstop))
  unfold ofArguments
  rw [Grammar.parse, htokens]
  cases showBytes <;> cases json <;> cases out <;> rfl

end RangeRequest

namespace ImageAction

/-- The name of its subcommand. -/
def name : ImageAction → String
  | .sections => "sections"
  | .range _ => "range"

/-- The arguments behind that name. -/
def arguments : ImageAction → List String
  | .sections => []
  | .range q => q.arguments

theorem ofSubcommand_arguments {a : ImageAction}
    (h : ∀ q, a = .range q → isPlain q.start ∧ isPlain q.stop) :
    ofSubcommand a.name a.arguments = .ok a := by
  cases a with
  | sections => rfl
  | range q =>
    obtain ⟨hstart, hstop⟩ := h q rfl
    show (RangeRequest.ofArguments q.arguments).map ImageAction.range = _
    rw [RangeRequest.ofArguments_arguments hstart hstop]
    rfl

end ImageAction

namespace ImageRequest

/-- A request that can be written as arguments: its numbers fit, and none of its texts looks like
the name of a setting or of a subcommand. -/
structure Writable (r : ImageRequest) : Prop where
  skip : r.window.skip < UInt64.size
  length : ∀ n ∈ r.window.length, n < UInt64.size
  file : isPlain r.file
  file_notMem : r.file ∉ ["sections", "range", "help"]
  bounds : ∀ q, r.action = .range q → isPlain q.start ∧ isPlain q.stop

/-- The arguments that ask for it. -/
def arguments (r : ImageRequest) : List String :=
  ["--base", Numeral.decimal r.window.base.toNat, "--skip", Numeral.decimal r.window.skip] ++
    (r.window.length.map fun n => ["--len", Numeral.decimal n]).getD [] ++
    partArguments r.label r.strict ++ r.file :: r.action.name :: r.action.arguments

theorem readBase?_decimal (v : UInt32) : readBase? (Numeral.decimal v.toNat) = some v := by
  have hdigits := Numeral.denotes_decimal v.toNat
  have hread := Numeral.read_of_denotes (by omega) v.toNat_lt_size hdigits
  unfold readBase?
  split
  next d digits hs =>
    have := hdigits.isAlphanum_of_mem (hs ▸ List.mem_cons_self)
    exact absurd this (by decide)
  next => simp only [hread, Except.toOption, Option.map_some, UInt32.ofNat_toNat]

theorem readSize?_decimal {n : Nat} (h : n < UInt64.size) :
    readSize? (Numeral.decimal n) = some n := by
  rw [readSize?, Numeral.read_of_denotes (by omega) h (Numeral.denotes_decimal n)]
  rfl

theorem tokens_arguments {r : ImageRequest} (h : r.Writable) :
    grammar.tokens r.arguments =
      .setting .base (Numeral.decimal r.window.base.toNat) ::
        .setting .skip (Numeral.decimal r.window.skip) ::
          ((r.window.length.map fun n => Token.setting Key.length (Numeral.decimal n)).toList ++
            (partTokens .label .strict r.label r.strict ++
              [.operand r.file, .subcommand r.action.name r.action.arguments])) := by
  have hdecimal (n : Nat) : isPlain (Numeral.decimal n) :=
    isPlain_of_isAlphanum fun _ => (Numeral.denotes_decimal n).isAlphanum_of_mem
  have haction : r.action.name ∈ grammar.subcommands := by
    cases r.action <;> simp [grammar, ImageAction.names, ImageAction.name]
  have hfile : grammar.tokens (r.file :: r.action.name :: r.action.arguments) =
      [.operand r.file, .subcommand r.action.name r.action.arguments] :=
    (Grammar.tokens_operand h.file_notMem h.file).trans
      (congrArg _ (Grammar.tokens_subcommand haction))
  have hpart := grammar.tokens_partArguments .label .strict
    (by decide) (fun _ => rfl) rfl r.label r.strict (r.file :: r.action.name :: r.action.arguments)
  have hlength (rest : List String) :
      grammar.tokens ((r.window.length.map fun n => ["--len", Numeral.decimal n]).getD [] ++ rest) =
        (r.window.length.map fun n => Token.setting Key.length (Numeral.decimal n)).toList ++
          grammar.tokens rest := by
    cases r.window.length with
    | none => rfl
    | some n => exact Grammar.tokens_setting (by decide) (by decide) rfl (hdecimal n)
  rw [arguments, List.append_assoc, List.append_assoc, ← hfile, ← hpart, ← hlength]
  exact (Grammar.tokens_setting (by decide) (by decide) rfl (hdecimal _)).trans
    (congrArg _ (Grammar.tokens_setting (by decide) (by decide) rfl (hdecimal _)))

/-- What is collected from these arguments. -/
def collected (r : ImageRequest) : Collected Key where
  settings :=
    [(.base, Numeral.decimal r.window.base.toNat), (.skip, Numeral.decimal r.window.skip)] ++
      (r.window.length.map fun n => (Key.length, Numeral.decimal n)).toList ++
        (r.label.map (Key.label, ·)).toList
  flags := if r.strict then [.strict] else []
  operands := [r.file]
  subcommand := some (r.action.name, r.action.arguments)

theorem parse_arguments {r : ImageRequest} (h : r.Writable) :
    grammar.parse r.arguments = .ok r.collected := by
  have hbase := readBase?_decimal r.window.base
  have hskip := readSize?_decimal h.skip
  have hlength (s : Collected Key) (hs : s.setting? .length = none) (ts : List (Token Key)) :
      grammar.collect s
        ((r.window.length.map fun n => Token.setting Key.length (Numeral.decimal n)).toList ++ ts) =
        grammar.collect { s with
          settings := s.settings ++
            (r.window.length.map fun n => (Key.length, Numeral.decimal n)).toList } ts := by
    cases hlen : r.window.length with
    | none => simp
    | some n =>
      have hn := readSize?_decimal (h.length n hlen)
      exact Grammar.collect_setting hs (by simp [grammar, hn])
  rw [Grammar.parse, tokens_arguments h, Grammar.collect_setting rfl (by simp [grammar, hbase]),
    Grammar.collect_setting rfl (by simp [grammar, hskip]), hlength _ rfl,
    Grammar.collect_partTokens ?_ rfl (fun _ => rfl), Grammar.collect_operand rfl]
  · rfl
  · cases r.window.length <;> rfl

theorem windowOf_collected {r : ImageRequest} (h : r.Writable) :
    windowOf r.collected = r.window := by
  obtain ⟨file, ⟨base, skip, length⟩, label, strict, action⟩ := r
  have hbase := readBase?_decimal base
  have hskip := readSize?_decimal h.skip
  cases length with
  | none => cases label <;> simp [windowOf, collected, Collected.setting?, hbase, hskip]
  | some n =>
    have hlength := readSize?_decimal (h.length n rfl)
    cases label <;> simp [windowOf, collected, Collected.setting?, hbase, hskip, hlength]

/-- A request is read back from its arguments. -/
theorem ofArguments_arguments {r : ImageRequest} (h : r.Writable) :
    ofArguments r.arguments = .ok r := by
  have hlabel : r.collected.setting? .label = r.label := by
    unfold collected Collected.setting?
    cases r.window.length <;> cases r.label <;> simp
  have hstrict : r.collected.hasFlag .strict = r.strict := by
    unfold collected Collected.hasFlag
    cases r.strict <;> simp
  unfold ofArguments
  rw [parse_arguments h]
  simp only [hlabel, hstrict, windowOf_collected h]
  simp only [collected, ImageAction.ofSubcommand_arguments h.bounds]

end ImageRequest

end Am29000.Command
