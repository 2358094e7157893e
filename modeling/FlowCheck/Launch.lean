/-!
# Launches

A run of the checker, as it is asked for and as it is seen when it is over.
-/

namespace FlowCheck

/-- A run of the checker that is to be made. -/
structure Launch where
  executable : String
  arguments : List String
  directory : String
  input : String
  /-- The time the run may take, in milliseconds. -/
  deadline : Option Nat := none
  deriving Repr, DecidableEq

/-- What a finished run leaves: its standard output as text, its exit code unless a signal ended it,
and how many milliseconds it took. -/
structure Finished where
  output : String
  exitCode : Option Nat
  elapsed : Nat := 0
  deriving Repr, DecidableEq

/-- Whether a run ended with exit code zero. -/
def Finished.succeeded (finished : Finished) : Bool :=
  decide (finished.exitCode = some 0)

end FlowCheck
