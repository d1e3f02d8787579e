import Am29000.Command.Image
import Am29000.Command.Words

/-! The command line: `decode` for words given as arguments, `disasm` for a file. -/
namespace Am29000

namespace FileError

/-- The operating system's reason for a code, which some of its layers give as a negative number. -/
def ofCode (code : UInt32) (reason : String) : FileError :=
  let n := if code.toNat < 0x80000000 then code.toNat else UInt32.size - code.toNat
  if n = missing.code then missing
  else if n = notDirectory.code then notDirectory
  else ⟨reason, n⟩

def ofSystem : IO.Error → FileError
  | .noFileOrDirectory _ code reason => ofCode code reason
  | .permissionDenied _ code reason => ofCode code reason
  | .inappropriateType _ code reason => ofCode code reason
  | .invalidArgument _ code reason => ofCode code reason
  | .resourceExhausted _ code reason => ofCode code reason
  | .alreadyExists _ code reason => ofCode code reason
  | e => ⟨toString e, 0⟩

end FileError

namespace Command

def readFile (path : String) : IO (Except FileError (Array UInt8)) := do
  match ← (IO.FS.readBinFile path).toBaseIO with
  | .ok bytes => return .ok bytes.data
  | .error e => return .error (FileError.ofSystem e)

def report (o : Outcome) : IO UInt32 := do
  IO.print o.stdout
  IO.eprint o.stderr
  return UInt32.ofNat o.exitCode

/-- Writes the file that a run leaves, if any; that it cannot be written is a failure of the run. -/
def settle (o : Outcome) : IO Outcome := do
  match o.saved with
  | none => return o
  | some (path, text) =>
      match ← (IO.FS.writeFile path text).toBaseIO with
      | .ok _ => return o
      | .error e => return .failed "" (ImageError.unwritable (FileError.ofSystem e)).message

/-- Reads the file that the arguments name, and hands it to the run as the only one there is. -/
def disassembleFile (args : List String) : IO Outcome := do
  match ImageRequest.ofArguments args with
  | .error _ => return disassemble ⟨fun _ => .ok #[], fun _ => none⟩ args
  | .ok r =>
      let file ← readFile r.file
      settle (disassemble ⟨fun _ => file, fun _ => none⟩ args)

end Command

end Am29000

def main (args : List String) : IO UInt32 :=
  match args with
  | "decode" :: rest => Am29000.Command.report (Am29000.Command.decodeWords rest)
  | "disasm" :: rest => Am29000.Command.disassembleFile rest >>= Am29000.Command.report
  | _ => Am29000.Command.report .refused
