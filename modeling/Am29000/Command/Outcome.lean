/-! What a run of a command leaves behind: its exit code, both output streams, and a file. -/
namespace Am29000.Command

structure Outcome where
  exitCode : Nat
  stdout : String
  stderr : String
  /-- The path and the content of the file that was written. -/
  saved : Option (String × String)
  deriving DecidableEq

namespace Outcome

def printed (text : String) : Outcome := ⟨0, text, "", none⟩

def wrote (path text : String) : Outcome := ⟨0, "", "", some (path, text)⟩

/-- A failure keeps what was printed before it. -/
def failed (stdout message : String) : Outcome :=
  ⟨1, stdout, "Error: " ++ message ++ "\n", none⟩

/-- Help was asked for. What it says is left out, as is what is said about arguments that were not
understood. -/
def helped : Outcome := ⟨0, "", "", none⟩

/-- The arguments were not understood. -/
def refused : Outcome := ⟨2, "", "", none⟩

end Outcome

end Am29000.Command
