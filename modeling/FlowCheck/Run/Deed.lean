import FlowCheck.Failure

/-!
# What a checker does

A checker's behaviour, seen from outside: a list of deeds, one after the other. Nothing but these
deeds can make a difference to the program that started the checker.
-/

namespace FlowCheck

/-- How a process ended. -/
inductive Ending where
  | exited (code : Nat)
  | killed (signal : Nat)
  deriving Repr, DecidableEq

/-- The exit code of an ending, if there is one. -/
def Ending.exitCode : Ending → Option Nat
  | .exited code => some code
  | .killed _ => none

/-- One thing that a process does. -/
inductive Deed where
  /-- Read this many bytes from standard input, or all of it. -/
  | read (count : Option Nat)
  /-- Write bytes to one of the two output streams. -/
  | write (stream : StreamName) (bytes : List UInt8)
  /-- Close a stream. -/
  | close (stream : StreamName)
  /-- Do nothing for some milliseconds. -/
  | pause (time : Nat)
  /-- Start a process that goes on by itself and has these streams open. -/
  | fork (streams : List StreamName) (deeds : List Deed)
  /-- Wait until all processes that were started have ended. -/
  | join
  /-- Do nothing for ever. -/
  | hang
  /-- End. -/
  | leave (ending : Ending)

end FlowCheck
