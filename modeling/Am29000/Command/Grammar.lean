import Am29000.Command.Outcome

/-!
Command lines. The arguments are read one by one into tokens; the tokens are then collected from
the left, and the first one that cannot stand where it does ends the reading. So does a request
for the version or for help, unless something before it was wrong.

A command does not depend on this reading: `runWith` takes any reader of arguments, and what a
request does is told for every request, however it was read.
-/
namespace Am29000.Command

/-- The names that a command knows. `κ` are the keys of its settings and flags. -/
structure Grammar (κ : Type) where
  /-- Settings take a value: the key, the name, and the letter if there is one. -/
  settings : List (κ × String × Option Char)
  /-- Flags take none. -/
  flags : List (κ × String)
  /-- Whether the version can be asked for. -/
  versioned : Bool
  /-- Names that end the reading and hand the rest over to another grammar. -/
  subcommands : List String
  /-- The most operands allowed, if there is a limit. -/
  mostOperands : Option Nat
  /-- The values that a setting takes. -/
  accepts : κ → String → Bool

inductive Token (κ : Type) where
  | setting (key : κ) (value : String)
  | flag (key : κ)
  | operand (text : String)
  | subcommand (name : String) (rest : List String)
  | version
  | help
  | senseless

/-- What one argument can be by its dashes. -/
inductive Shape where
  | plain
  | endOfNames
  | name (text : String) (value : Option String)
  | letter (c : Char) (rest : List Char)

/-- A dash alone is plain. The value of a long name stands after the first equals sign. -/
def shape (arg : String) : Shape :=
  match arg.toList with
  | ['-', '-'] => .endOfNames
  | '-' :: '-' :: rest =>
      let name := String.ofList (rest.takeWhile (· ≠ '='))
      match rest.dropWhile (· ≠ '=') with
      | [] => .name name none
      | _ :: value => .name name (some (String.ofList value))
  | '-' :: c :: rest => .letter c rest
  | _ => .plain

def isPlain (arg : String) : Bool :=
  match shape arg with
  | .plain => true
  | _ => false

/-- The reading of one argument: a token, or a setting whose value is the next argument. -/
inductive Reading (κ : Type) where
  | token (t : Token κ)
  | awaiting (key : κ)

namespace Grammar

variable {κ : Type} (g : Grammar κ)

def readName (name : String) (value : Option String) : Reading κ :=
  if name = "help" then .token (if value.isNone then .help else .senseless)
  else if g.versioned ∧ name = "version" then
    .token (if value.isNone then .version else .senseless)
  else
    match g.settings.find? (fun s => s.2.1 = name), g.flags.find? (fun f => f.2 = name), value with
    | some s, _, some v => .token (.setting s.1 v)
    | some s, _, none => .awaiting s.1
    | none, some f, none => .token (.flag f.1)
    | none, _, _ => .token .senseless

/-- The value of a letter may follow it at once, with or without an equals sign. -/
def readLetter (c : Char) (rest : List Char) : Reading κ :=
  if c = 'h' then .token .help
  else if g.versioned ∧ c = 'V' then .token .version
  else
    match g.settings.find? (fun s => s.2.2 = some c), rest with
    | some s, [] => .awaiting s.1
    | some s, '=' :: value => .token (.setting s.1 (String.ofList value))
    | some s, value => .token (.setting s.1 (String.ofList value))
    | none, _ => .token .senseless

def read (arg : String) : Reading κ :=
  match shape arg with
  | .name name value => g.readName name value
  | .letter c rest => g.readLetter c rest
  | _ => .token (.operand arg)

/-- The name of a subcommand is recognised wherever an operand could stand. After two dashes every
argument is an operand, and the value of a setting is plain. -/
def tokens : List String → List (Token κ)
  | [] => []
  | arg :: rest =>
      if arg ∈ g.subcommands then [.subcommand arg rest]
      else if arg = "--" then rest.map .operand
      else
        match g.read arg, rest with
        | .token t, rest => t :: tokens rest
        | .awaiting key, value :: rest =>
            if isPlain value then .setting key value :: tokens rest else [.senseless]
        | .awaiting _, [] => [.senseless]

end Grammar

/-- Why no request was read. -/
inductive Stop where
  | refused
  | version
  | help
  deriving DecidableEq

structure Collected (κ : Type) where
  settings : List (κ × String)
  flags : List κ
  operands : List String
  subcommand : Option (String × List String)

namespace Collected

variable {κ : Type} [DecidableEq κ]

def empty : Collected κ := ⟨[], [], [], none⟩

def setting? (s : Collected κ) (key : κ) : Option String :=
  (s.settings.find? fun p => p.1 = key).map Prod.snd

def hasFlag (s : Collected κ) (key : κ) : Bool := key ∈ s.flags

end Collected

namespace Grammar

variable {κ : Type} [DecidableEq κ] (g : Grammar κ)

/-- Whether one more operand is allowed after `n`. -/
def hasRoom (n : Nat) : Bool :=
  match g.mostOperands with
  | some most => n < most
  | none => true

/-- Settings and flags are given once, settings have values that they take, and there is room for
every operand. -/
def collect (s : Collected κ) : List (Token κ) → Except Stop (Collected κ)
  | [] => .ok s
  | .setting key value :: ts =>
      if (s.setting? key).isNone ∧ g.accepts key value then
        collect { s with settings := s.settings ++ [(key, value)] } ts
      else .error .refused
  | .flag key :: ts =>
      if s.hasFlag key then .error .refused
      else collect { s with flags := s.flags ++ [key] } ts
  | .operand text :: ts =>
      if g.hasRoom s.operands.length then
        collect { s with operands := s.operands ++ [text] } ts
      else .error .refused
  | .subcommand name rest :: _ => .ok { s with subcommand := some (name, rest) }
  | .version :: _ => .error .version
  | .help :: _ => .error .help
  | .senseless :: _ => .error .refused

def parse (args : List String) : Except Stop (Collected κ) := g.collect .empty (g.tokens args)

end Grammar

/-- The whole run of a command, whatever reads its arguments: it carries out the request that is
read, if there is one. -/
def runWith {ρ : Type} (read : List String → Except Stop ρ) (version : String) (run : ρ → Outcome)
    (args : List String) : Outcome :=
  match read args with
  | .ok r => run r
  | .error .version => .printed version
  | .error .help => .helped
  | .error .refused => .refused

theorem runWith_eq {ρ : Type} {read : List String → Except Stop ρ} {version : String}
    {run : ρ → Outcome} {args : List String} {r : ρ} (h : read args = .ok r) :
    runWith read version run args = run r := by
  rw [runWith, h]

end Am29000.Command
