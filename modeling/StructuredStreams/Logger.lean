import Mathlib.Data.Nat.Notation

/-!
# Fatal messages of the log

`logger::fatal` is not part of the repository.  The functions that call it
are written as if it returned: the search for a local stream id looks at the
next one, the client of a remote shell sends what it read, and
`async_file::open` returns that it failed.  The one assumption about it is
made here.
-/

namespace StructuredStreams.Logger

/-- What becomes of a program that has called `logger::fatal`. -/
inductive AfterFatal where
  | goesOn
  | ends
  deriving DecidableEq, Repr

/-- The assumption: the message is written, and the program goes on. -/
def afterFatal : AfterFatal :=
  .goesOn

/-- A call of `logger::fatal` and the statements after it. -/
def fatal {α : Type} (rest : Option α) : Option α :=
  match afterFatal with
  | .goesOn => rest
  | .ends => none

@[simp]
theorem fatal_eq {α : Type} (rest : Option α) : fatal rest = rest :=
  rfl

end StructuredStreams.Logger
