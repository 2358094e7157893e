import FlowCheck.Shell.Filter
import FlowCheck.Shell.Regex

/-!
# Expressions as arguments

A program whose arguments are an expression of numbers and texts, one sign or operand an argument.
It shows the value, and its status tells whether the value is empty or zero.
-/

namespace FlowCheck.Shell

/-- The value of an expression. -/
inductive ExpressionValue where
  | number (value : Int)
  | text (content : Bytes)

namespace ExpressionValue

/-- The value as it is shown. -/
def shown : ExpressionValue → Bytes
  | .number value => bytes (toString value)
  | .text content => content

/-- The number that a value is, if it looks like one. -/
def number? : ExpressionValue → Option Int
  | .number value => some value
  | .text content =>
    let (negative, digits) := match content with
      | '-' :: rest => (true, rest)
      | rest => (false, rest)
    if digits.isEmpty || !digits.all Char.isDigit then none
    else some (if negative then -(naturalOf digits : Int) else naturalOf digits)

/-- Whether a value counts as false: nothing at all, or zero. -/
def isNull : ExpressionValue → Bool
  | .number value => value = 0
  | .text [] => true
  | .text content => (ExpressionValue.text content).number? = some 0

end ExpressionValue

/-- The arguments that are left, and the one before them. -/
structure ExpressionState where
  rest : List Bytes
  last : Bytes := []

/-- A part of an expression that is being read and worked out. -/
abbrev ExpressionReader := EStateM Bytes ExpressionState

namespace ExpressionReader

/-- Stop with a complaint. -/
def refuse {α : Type} (reason : String) : ExpressionReader α :=
  throw (bytes reason)

/-- Take the next argument if it is one of these. -/
def take? (signs : List String) : ExpressionReader (Option String) := do
  let state ← get
  match state.rest with
  | [] => return none
  | word :: rest =>
    match signs.find? fun sign => bytes sign = word with
    | none => return none
    | some sign =>
      set ({ rest, last := word } : ExpressionState)
      return some sign

/-- Take the next argument, which must be there. -/
def takeWord : ExpressionReader Bytes := do
  let state ← get
  match state.rest with
  | [] => throw (bytes "syntax error: missing argument after " ++ inQuotes state.last)
  | word :: rest =>
    set ({ rest, last := word } : ExpressionState)
    return word

/-- Compare the beginning of a text with a regular expression. -/
def compareStart (subject pattern : ExpressionValue) : ExpressionReader ExpressionValue := do
  let text := subject.shown
  match Regex.parse { lenient := true } pattern.shown with
  | .error reason => refuse reason
  | .ok expression =>
    match Regex.matchStart expression text with
    | some found =>
      return if expression.hasGroup then .text (found.group text 1) else .number found.stop.index
    | none => return if expression.hasGroup then .text [] else .number 0

/-- Something in brackets, or an argument as it is. -/
def enclosed (whole : Bool → ExpressionReader ExpressionValue) (live : Bool) :
    ExpressionReader ExpressionValue := do
  let word ← takeWord
  if word = ['('] then
    let value ← whole live
    let state ← get
    match state.rest with
    | [')'] :: rest =>
      set ({ rest, last := [')'] } : ExpressionState)
      return value
    | other :: _ => throw (bytes "syntax error: expecting ')' instead of " ++ inQuotes other)
    | [] => throw (bytes "syntax error: expecting ')' after " ++ inQuotes state.last)
  else if word = [')'] then refuse "syntax error: unexpected ')'"
  else return .text word

/-- A function of texts, or a smaller part. The fuel bounds how functions are nested. -/
def function (whole : Bool → ExpressionReader ExpressionValue) (live : Bool) :
    Nat → ExpressionReader ExpressionValue
  | 0 => refuse "memory exhausted"
  | fuel + 1 => do
    match ← take? ["+", "length", "match", "index", "substr"] with
    | some "+" => return .text (← takeWord)
    | some "length" => return .number (← function whole live fuel).shown.length
    | some "match" =>
      let subject ← function whole live fuel
      let pattern ← function whole live fuel
      if live then compareStart subject pattern else return subject
    | some "index" =>
      let subject := (← function whole live fuel).shown
      let set := (← function whole live fuel).shown
      let before := subject.takeWhile fun c => !set.contains c
      return .number (if before.length < subject.length then before.length + 1 else 0)
    | some "substr" =>
      let subject := (← function whole live fuel).shown
      let start ← function whole live fuel
      let count ← function whole live fuel
      match start.number?, count.number? with
      | some start, some count =>
        if start ≤ 0 || count ≤ 0 then return .text []
        else return .text ((subject.drop (start.toNat - 1)).take count.toNat)
      | _, _ => return .text []
    | _ => enclosed whole live

/-- Parts between signs of one rank, joined from the left. -/
def chain (next : ExpressionReader ExpressionValue) (signs : List String)
    (join : String → ExpressionValue → ExpressionValue → ExpressionReader ExpressionValue) :
    Nat → ExpressionValue → ExpressionReader ExpressionValue
  | 0, value => return value
  | fuel + 1, value => do
    match ← take? signs with
    | none => return value
    | some sign =>
      let other ← next
      chain next signs join fuel (← join sign value other)

/-- The numbers that two values are. -/
def numbers (a b : ExpressionValue) : ExpressionReader (Int × Int) :=
  match a.number?, b.number? with
  | some a, some b => return (a, b)
  | _, _ => refuse "non-integer argument"

/-- Everything that binds closer than a conjunction. -/
def comparison (whole : Bool → ExpressionReader ExpressionValue) (fuel : Nat) (live : Bool) :
    ExpressionReader ExpressionValue := do
  let matching := do
    chain (function whole live fuel) [":"]
      (fun _ a b => if live then compareStart a b else return a) fuel (← function whole live fuel)
  let product := do
    chain matching ["*", "/", "%"] (fun sign a b => do
      if !live then return a
      let (a, b) ← numbers a b
      if sign = "*" then return .number (a * b)
      else if b = 0 then refuse "division by zero"
      else if sign = "/" then return .number (a.tdiv b)
      else return .number (a.tmod b)) fuel (← matching)
  let sum := do
    chain product ["+", "-"] (fun sign a b => do
      if !live then return a
      let (a, b) ← numbers a b
      return .number (if sign = "+" then a + b else a - b)) fuel (← product)
  chain sum ["<", "<=", "=", "==", "!=", ">=", ">"] (fun sign a b => do
    if !live then return a
    let order := match a.number?, b.number? with
      | some a, some b => compare a b
      | _, _ => if a.shown = b.shown then .eq else if bytesLe a.shown b.shown then .lt else .gt
    let isTrue : Bool := match sign with
      | "<" => order.isLT
      | "<=" => order.isLE
      | ">=" => order.isGE
      | ">" => order.isGT
      | "!=" => order.isNe
      | _ => order.isEq
    return .number (if isTrue then 1 else 0)) fuel (← sum)

/-- Parts of which all must be there. -/
def conjunction (whole : Bool → ExpressionReader ExpressionValue) (fuel : Nat) (live : Bool) :
    ExpressionReader ExpressionValue := do
  go fuel (← comparison whole fuel live)
where
  /-- What follows on a value. -/
  go : Nat → ExpressionValue → ExpressionReader ExpressionValue
    | 0, value => return value
    | steps + 1, value => do
      match ← take? ["&"] with
      | none => return value
      | some _ =>
        let other ← comparison whole fuel (live && !value.isNull)
        go steps (if value.isNull || other.isNull then .number 0 else value)

/-- A whole expression: the first of some parts that is there. -/
def whole : Nat → Bool → ExpressionReader ExpressionValue
  | 0, _ => refuse "memory exhausted"
  | fuel + 1, live => do
    go live fuel (whole fuel) fuel (← conjunction (whole fuel) fuel live)
where
  /-- What follows on a value. -/
  go (live : Bool) (fuel : Nat) (inner : Bool → ExpressionReader ExpressionValue) :
      Nat → ExpressionValue → ExpressionReader ExpressionValue
    | 0, value => return value
    | steps + 1, value => do
      match ← take? ["|"] with
      | none => return value
      | some _ =>
        let other ← conjunction inner fuel (live && value.isNull)
        go live fuel inner steps
          (if !value.isNull then value else if other.isNull then .number 0 else other)

end ExpressionReader

/-- Work out the expression that the arguments are. -/
def expr (arguments : List Bytes) : Act Nat := do
  let words := if arguments.head? = some ['-', '-'] then arguments.tail else arguments
  if words.isEmpty then return ← misused "expr" 2 (bytes "missing operand")
  let reading := do
    let value ← ExpressionReader.whole (words.length + 1) true
    match (← get).rest with
    | [] => return value
    | word :: _ => throw (bytes "syntax error: unexpected argument " ++ inQuotes word)
  match EStateM.run reading { rest := words } with
  | .ok value _ =>
    put (value.shown ++ ['\n'])
    return if value.isNull then 1 else 0
  | .error reason _ =>
    complainAs "expr" reason
    return 2

end FlowCheck.Shell
