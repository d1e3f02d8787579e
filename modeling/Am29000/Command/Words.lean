import Am29000.Command.Grammar
import Am29000.Decode
import Am29000.Instruction.Text
import Am29000.Listing
import Am29000.Text.Address

/-!
The command that decodes instruction words given as arguments: one line per word, up to the first
argument that is no word. Log output, which would stand among the lines, is taken to be off.
-/
namespace Am29000.Command

structure WordsRequest where
  address : String
  label : Option String
  strict : Bool
  words : List String
  deriving DecidableEq

inductive WordsError where
  | label (e : InputError)
  | address (f : Numeral.Fault)
  | word (text : String) (f : Numeral.Fault)
  deriving DecidableEq

def WordsError.message : WordsError → String
  | label e => e.message
  | address f => f.message
  | word text f =>
      "bad instruction word " ++ Quoted.quote text ++ "\n\nCaused by:\n    " ++ f.message

namespace WordsRequest

inductive Key where
  | address
  | label
  | strict
  deriving DecidableEq

def grammar : Grammar Key where
  settings := [(.address, "addr", some 'a'), (.label, "cpu", none)]
  flags := [(.strict, "strict-family")]
  versioned := true
  subcommands := []
  mostOperands := none
  accepts _ _ := true

/-- The address is zero unless given; one word at least must be. -/
def ofArguments (args : List String) : Except Stop WordsRequest :=
  match grammar.parse args with
  | .error e => .error e
  | .ok s =>
      if s.operands = [] then .error .refused
      else
        .ok ⟨(s.setting? .address).getD "0", s.setting? .label, s.hasFlag .strict, s.operands⟩

/-- What stands after an instruction that has a target. -/
def targetNote : Option UInt32 → String
  | some t => "  ; -> " ++ Address.write t.toNat
  | none => ""

/-- Address, word, text and target of one word, in a line of their own. -/
def line (c : Config) (address raw : UInt32) : String :=
  let text :=
    match c.decodeWord (.ofUInt32 raw) with
    | .ok i => i.text address ++ targetNote (i.target? address)
    | .error _ => Line.illegal
  Address.write address.toNat ++ ": " ++ Numeral.hexWide 8 raw.toNat ++ "  " ++ text ++ "\n"

/-- The lines of the words at successive addresses, modulo `2 ^ 32`, and what ended them. -/
def lines (c : Config) : UInt32 → List String → String × Option WordsError
  | _, [] => ("", none)
  | address, text :: rest =>
      match Address.readWord text with
      | .ok raw =>
          let (more, e) := lines c (address + 4) rest
          (line c address raw ++ more, e)
      | .error f => ("", some (.word text f))

/-- The label is checked first, then the address, then word by word. -/
def run (r : WordsRequest) : Outcome :=
  match Config.ofRequest r.label r.strict with
  | .error e => .failed "" (WordsError.label e).message
  | .ok c =>
      match Address.read r.address with
      | .error f => .failed "" (WordsError.address f).message
      | .ok start =>
          match lines c start r.words with
          | (text, none) => .printed text
          | (text, some e) => .failed text e.message

def version : String := "amd29k-rs 0.1.0\n"

end WordsRequest

/-- The whole run of the command over a reader of its arguments. -/
def decodeWordsWith (read : List String → Except Stop WordsRequest) (args : List String) : Outcome :=
  runWith read WordsRequest.version WordsRequest.run args

/-- The command with the grammar of its arguments. -/
def decodeWords (args : List String) : Outcome := decodeWordsWith WordsRequest.ofArguments args

end Am29000.Command
