/-!
# Settings

How the checker is called. Every setting has a default, so an empty settings file is complete.
-/

namespace FlowCheck

/-- How the checker is called. -/
structure Settings where
  /-- The checker's name, to be looked up, or its path. -/
  executable : String := "flow"
  /-- What is passed to the checker. -/
  arguments : List String := ["check-contents", "--show-all-errors", "--json"]
  /-- The path under which the checker reports the text it read from standard input. -/
  sentinel : String := "-"
  /-- How many seconds the checker may run. -/
  timeout : Option UInt64 := none
  deriving Repr, DecidableEq

namespace Settings

/-- The deadline of a check. A timeout of zero sets none. -/
def deadline (settings : Settings) : Option UInt64 :=
  settings.timeout.filter fun seconds => decide (0 < seconds)

/-- Settings in which some fields give way to values from the command line. -/
def override (settings : Settings) (executable : Option String) (timeout : Option UInt64) :
    Settings :=
  { settings with
    executable := executable.getD settings.executable
    timeout := timeout.or settings.timeout }

end Settings

end FlowCheck
