import Am29000.Command.Grammar
import Am29000.Listing.Json
import Am29000.Memory.Load

/-!
The command that loads a file as a memory image and shows its sections or lists a range of it. It
checks everything before it writes anything. Log output, which would stand among the lines, is taken
to be off.
-/
namespace Am29000.Command

/-- The files that a run sees: what reading a path gives, and why a path cannot be written. -/
structure Disk where
  read : String → Except FileError (Array UInt8)
  refusal : String → Option FileError

structure RangeRequest where
  start : String
  stop : String
  showBytes : Bool
  json : Bool
  out : Option String
  deriving DecidableEq

inductive ImageAction where
  | sections
  | range (r : RangeRequest)
  deriving DecidableEq

structure ImageRequest where
  file : String
  window : Window
  label : Option String
  strict : Bool
  action : ImageAction
  deriving DecidableEq

inductive ImageError where
  | load (e : LoadError)
  | label (e : InputError)
  | bound (f : Numeral.Fault)
  | reversed
  | unwritable (e : FileError)
  deriving DecidableEq

def ImageError.message : ImageError → String
  | load e => e.message
  | label e => e.message
  | bound f => f.message
  | reversed => "end must be >= start"
  | unwritable e => e.message

namespace RangeRequest

inductive Key where
  | showBytes
  | format
  | out
  deriving DecidableEq

def grammar : Grammar Key where
  settings := [(.format, "format", none), (.out, "out", none)]
  flags := [(.showBytes, "show-bytes")]
  versioned := false
  subcommands := []
  mostOperands := some 2
  accepts
    | .format, v => v = "text" ∨ v = "json"
    | _, _ => true

def ofArguments (args : List String) : Except Stop RangeRequest :=
  match grammar.parse args with
  | .error e => .error e
  | .ok s =>
      match s.operands with
      | [start, stop] =>
          .ok ⟨start, stop, s.hasFlag .showBytes, s.setting? .format = some "json",
            s.setting? .out⟩
      | _ => .error .refused

/-- The bounds of the range, the start checked first. -/
def bounds (r : RangeRequest) : Except ImageError (UInt32 × UInt32) :=
  match Address.read r.start with
  | .error f => .error (.bound f)
  | .ok start =>
      match Address.read r.stop with
      | .error f => .error (.bound f)
      | .ok stop => if stop.toNat < start.toNat then .error .reversed else .ok (start, stop)

def write (r : RangeRequest) (ls : List Line) : String :=
  if r.json then Listing.writeJson ls else Listing.write r.showBytes ls

end RangeRequest

namespace ImageAction

/-- The names that the rest of a command line can begin with. -/
def names : List String := ["sections", "range", "help"]

/-- Help is there for the whole command and for everything that has a name. -/
def help (args : List String) : Stop :=
  if args.length ≤ 1 ∧ ∀ arg ∈ args, arg ∈ names then .help else .refused

/-- The list of sections takes no further arguments. -/
def noKeys : Grammar Empty where
  settings := []
  flags := []
  versioned := false
  subcommands := []
  mostOperands := some 0
  accepts _ _ := true

def ofSubcommand (name : String) (args : List String) : Except Stop ImageAction :=
  if name = "sections" then (noKeys.parse args).map fun _ => .sections
  else if name = "range" then (RangeRequest.ofArguments args).map .range
  else if name = "help" then .error (help args)
  else .error .refused

end ImageAction

namespace ImageRequest

inductive Key where
  | base
  | skip
  | length
  | label
  | strict
  deriving DecidableEq

/-- A base is read as a signed number that must not be negative, so zero may have a minus sign. -/
def readBase? (s : String) : Option UInt32 :=
  match s.toList with
  | '-' :: d :: digits => (Numeral.readDigits 10 1 0 (d :: digits)).toOption.map fun _ => 0
  | digits => (Numeral.read 10 UInt32.size digits).toOption.map UInt32.ofNat

def readSize? (s : String) : Option Nat := (Numeral.read 10 UInt64.size s.toList).toOption

def grammar : Grammar Key where
  settings :=
    [(.base, "base", none), (.skip, "skip", none), (.length, "len", none), (.label, "cpu", none)]
  flags := [(.strict, "strict-family")]
  versioned := true
  subcommands := ImageAction.names
  mostOperands := some 1
  accepts
    | .base, v => (readBase? v).isSome
    | .skip, v => (readSize? v).isSome
    | .length, v => (readSize? v).isSome
    | _, _ => true

/-- Base and skip are zero unless given. -/
def windowOf (s : Collected Key) : Window where
  base := ((s.setting? .base).bind readBase?).getD 0
  skip := ((s.setting? .skip).bind readSize?).getD 0
  length := (s.setting? .length).bind readSize?

/-- What follows the name of a subcommand is read before a missing file is noticed. -/
def ofArguments (args : List String) : Except Stop ImageRequest :=
  match grammar.parse args with
  | .error e => .error e
  | .ok s =>
      match s.subcommand with
      | none => .error .refused
      | some (name, rest) =>
          match ImageAction.ofSubcommand name rest, s.operands with
          | .error e, _ => .error e
          | .ok action, [file] =>
              .ok ⟨file, windowOf s, s.setting? .label, s.hasFlag .strict, action⟩
          | .ok _, _ => .error .refused

/-- A text filled up with spaces on the right. -/
def column (width : Nat) (s : String) : String := String.ofList (List.rightpad width ' ' s.toList)

def sectionHeader : String :=
  column 10 "name" ++ " " ++ column 12 "start" ++ " " ++ column 12 "end" ++ " " ++
    column 6 "perms" ++ " " ++ column 6 "kind" ++ "\n"

/-- The addresses keep their distance to the next column even when they are longer than usual. -/
def sectionRow (s : Segment) : String :=
  column 10 s.name ++ " " ++ Address.write s.base.toNat ++ "   " ++ Address.write s.stop ++ "   " ++
    column 6 s.access ++ " " ++ column 6 s.kind ++ "\n"

def sectionTable (m : Image) : String :=
  sectionHeader ++ String.join (m.segments.map sectionRow)

/-- The output of a request, and the path that it goes to unless it is printed. -/
structure Output where
  path : Option String
  text : String
  deriving DecidableEq

/-- The file is checked first, then the part label, then the bounds. -/
def output (r : ImageRequest) (file : Except FileError (Array UInt8)) : Except ImageError Output :=
  match r.window.load file with
  | .error e => .error (.load e)
  | .ok m =>
      match Config.ofRequest r.label r.strict with
      | .error e => .error (.label e)
      | .ok c =>
          match r.action with
          | .sections => .ok ⟨none, sectionTable m⟩
          | .range q =>
              match q.bounds with
              | .error e => .error e
              | .ok (start, stop) => .ok ⟨q.out, q.write (m.sweep c start stop)⟩

def run (r : ImageRequest) (d : Disk) : Outcome :=
  match r.output (d.read r.file) with
  | .error e => .failed "" e.message
  | .ok ⟨none, text⟩ => .printed text
  | .ok ⟨some path, text⟩ =>
      match d.refusal path with
      | some e => .failed "" (ImageError.unwritable e).message
      | none => .wrote path text

def version : String := "amd29k-disasm 0.1.0\n"

end ImageRequest

/-- The whole run of the command over a reader of its arguments. -/
def disassembleWith (read : List String → Except Stop ImageRequest) (d : Disk)
    (args : List String) : Outcome :=
  runWith read ImageRequest.version (·.run d) args

/-- The command with the grammar of its arguments. -/
def disassemble (d : Disk) (args : List String) : Outcome :=
  disassembleWith ImageRequest.ofArguments d args

end Am29000.Command
