import FlowCheck.Span

/-!
# Checker responses

A checker answers with a verdict and a list of issues. An issue is told in fragments, each a
description that may be tied to a place in a file: the first fragment is the primary one.
-/

namespace FlowCheck

/-- A piece of an issue's message. A fragment without a place has an empty path and zeros. -/
structure Fragment where
  description : String := ""
  path : String := ""
  startLine : Int64 := 0
  endLine : Int64 := 0
  startColumn : Int64 := 0
  endColumn : Int64 := 0
  deriving DecidableEq

/-- The coordinates of a fragment. -/
def Fragment.span (fragment : Fragment) : Span :=
  ⟨fragment.startLine, fragment.startColumn, fragment.endLine, fragment.endColumn⟩

/-- One reported issue. -/
structure Issue where
  fragments : List Fragment := []
  level : Option String := none
  kind : Option String := none
  deriving DecidableEq

/-- What the checker writes. -/
structure Response where
  passed : Bool
  issues : Option (List Issue)
  deriving DecidableEq

/-- What a response means: issues count only when the check failed. -/
inductive Verdict where
  | passed
  | failed (issues : List Issue)
  deriving DecidableEq

/-- The issues that a verdict leaves to be looked at. -/
def Verdict.issues : Verdict → List Issue
  | .passed => []
  | .failed issues => issues

end FlowCheck
