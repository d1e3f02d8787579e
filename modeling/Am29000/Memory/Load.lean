import Am29000.Memory
import Am29000.Text.Numeral

/-! Loading a file as one segment, or a part of it given by an offset and a length. -/
namespace Am29000

/-- What the file system says when it refuses a path. -/
structure FileError where
  reason : String
  code : Nat
  deriving DecidableEq

namespace FileError

def message (e : FileError) : String :=
  e.reason ++ " (os error " ++ Numeral.decimal e.code ++ ")"

/-- There is nothing at the path. -/
def missing : FileError := ⟨"No such file or directory", 2⟩

/-- The path goes through something that is not a directory. -/
def notDirectory : FileError := ⟨"Not a directory", 20⟩

end FileError

inductive LoadError where
  | unreadable (e : FileError)
  | skipPastEnd
  | lengthPastEnd
  deriving DecidableEq

def LoadError.message : LoadError → String
  | unreadable e => e.message
  | skipPastEnd => "--skip exceeds file size"
  | lengthPastEnd => "--len exceeds remaining file size after skip"

/-- Which part of a file is loaded, and where. Without a length it reaches to the end. -/
structure Window where
  base : UInt32
  skip : Nat
  length : Option Nat
  deriving DecidableEq

namespace Window

/-- The bytes of the file in the window. The offset is checked before the length. -/
def payload (w : Window) (file : Array UInt8) : Except LoadError (Array UInt8) :=
  if file.size < w.skip then .error .skipPastEnd
  else
    match w.length with
    | none => .ok (file.extract w.skip file.size)
    | some n =>
        if file.size - w.skip < n then .error .lengthPastEnd
        else .ok (file.extract w.skip (w.skip + n))

/-- The segment that holds a loaded payload; it is readable and executable. -/
def segment (w : Window) (payload : Array UInt8) : Segment :=
  ⟨"segment0", w.base, payload, "r-x", "raw"⟩

def load (w : Window) (file : Except FileError (Array UInt8)) : Except LoadError Image :=
  match file with
  | .error e => .error (.unreadable e)
  | .ok bytes => (w.payload bytes).map fun p => ⟨[w.segment p]⟩

end Window

end Am29000
