import FlowCheck.Span

/-!
# Diagnostics

A diagnostic is a message about a range of a document, with a severity.
-/

namespace FlowCheck

/-- How serious a diagnostic is. -/
inductive Severity where
  | warning
  | error
  deriving Repr, DecidableEq

/-- The lower-case form of an ASCII letter; other characters are left alone. -/
def asciiLower (c : Char) : Char :=
  if 'A' ≤ c ∧ c ≤ 'Z' then Char.ofNat (c.toNat + 32) else c

namespace Severity

/-- A checker's level, whose letter case does not matter. Whatever is not a warning is an error,
and so is an error that names no level. -/
def ofLevel (level : Option String) : Severity :=
  match level with
  | some name => if name.toList.map asciiLower = "warning".toList then .warning else .error
  | none => .error

/-- The name that reports print. -/
def name : Severity → String
  | .warning => "warning"
  | .error => "error"

/-- Severities are ordered: an error is worse than a warning. -/
def rank : Severity → Nat
  | .warning => 0
  | .error => 1

end Severity

/-- A message about a range of a document. -/
structure Diagnostic where
  range : TextRange
  severity : Severity
  message : String
  deriving Repr, DecidableEq

end FlowCheck
