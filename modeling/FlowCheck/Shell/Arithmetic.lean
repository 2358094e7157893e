import FlowCheck.Shell.Script

/-!
# Arithmetic of scripts

The value of an expression of whole numbers of 64 bits. A comparison is one or zero. Variables can
be assigned to; one that is not set is zero.
-/

namespace FlowCheck.Shell

/-- A number as one of 64 bits. -/
def wrap (value : Int) : Int :=
  let residue := value % 0x10000000000000000
  if residue < 0x8000000000000000 then residue else residue - 0x10000000000000000

/-- The greatest number of 64 bits. -/
def greatestNumber : Int := 0x7fffffffffffffff

/-- A truth value as a number. -/
def truth (value : Bool) : Int :=
  if value then 1 else 0

/-- Whether a byte is a blank of any kind. -/
def isSpace (c : Char) : Bool :=
  c = ' ' || ('\t' ≤ c && c ≤ '\r')

/-- The value of a digit in some base. -/
def digitValue? (base : Nat) (c : Char) : Option Nat :=
  let value :=
    if c.isDigit then c.toNat - '0'.toNat
    else if 'a' ≤ c && c ≤ 'z' then c.toNat - 'a'.toNat + 10
    else if 'A' ≤ c && c ≤ 'Z' then c.toNat - 'A'.toNat + 10
    else base
  if value < base then some value else none

/-- The number that the digits at the beginning of a text write in some base, and the text after
them. -/
def leadingDigits (base : Nat) (text : Bytes) : Nat × Bytes :=
  let run := text.takeWhile fun c => (digitValue? base c).isSome
  (run.foldl (fun value c => base * value + (digitValue? base c).getD 0) 0, text.drop run.length)

/-- The number without a sign at the beginning of a text, in a base that the text itself tells, and
the text after it. -/
def leadingNatural? (text : Bytes) : Option (Nat × Bytes) :=
  match text with
  | '0' :: x :: c :: rest =>
    if (x = 'x' || x = 'X') && (digitValue? 16 c).isSome then some (leadingDigits 16 (c :: rest))
    else some (leadingDigits 8 text)
  | '0' :: rest => some (leadingDigits 8 ('0' :: rest))
  | c :: rest => if c.isDigit then some (leadingDigits 10 (c :: rest)) else none
  | [] => none

/-- The number that decimal digits are. -/
def naturalOf (digits : Bytes) : Nat :=
  digits.foldl (fun value digit => 10 * value + (digit.toNat - '0'.toNat)) 0

/-- The number with an optional sign that a text begins with, after blanks, and the text after
it. -/
def leadingInteger? (read : Bytes → Option (Nat × Bytes)) (text : Bytes) :
    Option (Int × Bytes) :=
  match text.dropWhile isSpace with
  | '-' :: rest => (read rest).map fun (value, after) => (-(value : Int), after)
  | '+' :: rest => (read rest).map fun (value, after) => ((value : Int), after)
  | rest => (read rest).map fun (value, after) => ((value : Int), after)

/-- The digits of a decimal number at the beginning of a text, and the text after it. -/
def leadingDecimal? (text : Bytes) : Option (Nat × Bytes) :=
  if text.head?.any Char.isDigit then some (leadingDigits 10 text) else none

/-- Whether a number has 64 bits. -/
def isNumber (value : Int) : Bool :=
  -greatestNumber - 1 ≤ value && value ≤ greatestNumber

/-- The decimal number of 64 bits that a text is, blanks around it aside. -/
def integer? (text : Bytes) : Option Int :=
  match leadingInteger? leadingDecimal? text with
  | some (value, after) => if after.all isSpace && isNumber value then some value else none
  | none => none

/-- The number that the value of a variable is; a base can be told. -/
def variableNumber? (text : Bytes) : Option Int :=
  match leadingInteger? leadingNatural? text with
  | some (value, after) => if after.all isSpace && isNumber value then some value else none
  | none => if text.all isSpace then some 0 else none

/-- A token of an expression. -/
inductive SumToken where
  | number (value : Int)
  | name (name : Bytes)
  | sign (sign : String)
  deriving Repr, DecidableEq

/-- The binary signs by their strength, the strongest first. -/
def binarySigns : List (List String) :=
  [["*", "/", "%"], ["+", "-"], ["<<", ">>"], ["<", "<=", ">", ">="], ["==", "!="], ["&"], ["^"],
    ["|"]]

/-- The signs of expressions; a longer sign comes before a shorter one. -/
def sumSigns : List String :=
  ["<<=", ">>=", "&&", "||", "==", "!=", "<=", ">=", "<<", ">>", "+=", "-=", "*=", "/=", "%=", "&=",
    "|=", "^=", "+", "-", "*", "/", "%", "<", ">", "=", "&", "|", "^", "!", "~", "?", ":", "(", ")"]

/-- The tokens of an expression. -/
def sumTokens : Nat → Bytes → List SumToken
  | 0, _ | _, [] => []
  | fuel + 1, c :: rest =>
    let text := c :: rest
    if isSpace c then sumTokens fuel rest
    else
      match leadingNatural? text with
      | some (value, after) => .number (min (value : Int) greatestNumber) :: sumTokens fuel after
      | none =>
        if isNameStart c then
          .name (text.takeWhile isNameByte) :: sumTokens fuel (text.dropWhile isNameByte)
        else
          match sumSigns.find? fun sign => sign.toList.isPrefixOf text with
          | some sign => .sign sign :: sumTokens fuel (text.drop sign.length)
          | none => .sign "" :: sumTokens fuel rest

/-- Why an expression has no value. -/
inductive SumError where
  | malformed (reason : String)
  | illegalNumber (text : Bytes)

/-- What is left of an expression, and what was assigned so far. -/
structure SumState where
  tokens : List SumToken
  assigned : List (Bytes × Int) := []

/-- A step of finding the value of an expression. -/
abbrev Sum := EStateM SumError SumState

/-- The value of a binary sign. -/
def binaryValue (sign : String) (a b : Int) : Sum Int :=
  match sign with
  | "*" => return wrap (a * b)
  | "/" => if b = 0 then throw (.malformed "division by zero") else return wrap (a.tdiv b)
  | "%" => if b = 0 then throw (.malformed "division by zero") else return a.tmod b
  | "+" => return wrap (a + b)
  | "-" => return wrap (a - b)
  | "<<" => return wrap (a * Nat.pow 2 (b % 64).toNat)
  | ">>" => return a / (Nat.pow 2 (b % 64).toNat : Nat)
  | "<" => return truth (decide (a < b))
  | "<=" => return truth (decide (a ≤ b))
  | ">" => return truth (decide (b < a))
  | ">=" => return truth (decide (b ≤ a))
  | "==" => return truth (a == b)
  | "!=" => return truth (a != b)
  | "&" => return wrap ((bits a &&& bits b : Nat) : Int)
  | "^" => return wrap ((bits a ^^^ bits b : Nat) : Int)
  | _ => return wrap ((bits a ||| bits b : Nat) : Int)
where
  /-- The bits of a number. -/
  bits (value : Int) : Nat := (value % 0x10000000000000000).toNat

/-- Take a token if it is one of some signs. -/
def takeSign? (signs : List String) : Sum (Option String) := do
  let state ← get
  match state.tokens with
  | .sign sign :: rest =>
    if signs.contains sign then
      set { state with tokens := rest }
      return some sign
    else return none
  | _ => return none

section

variable (value : Bytes → Option Bytes)

/-- The number that a variable stands for. -/
def numberOf (name : Bytes) : Sum Int := do
  match (← get).assigned.lookup name with
  | some value => return value
  | none =>
    let text := (value name).getD []
    match variableNumber? text with
    | some value => return value
    | none => throw (.illegalNumber text)

/-- What comes to an operand: a number, a variable, a sign before another operand, or an expression
in parentheses. An expression that is not `live` is read only. -/
def operand (whole : Bool → Sum Int) (live : Bool) : Nat → Sum Int
  | 0 => throw (.malformed "expecting primary")
  | fuel + 1 => do
    let state ← get
    match state.tokens with
    | .number value :: rest =>
      set { state with tokens := rest }
      return value
    | .name name :: rest =>
      set { state with tokens := rest }
      if live then numberOf value name else return 0
    | .sign "(" :: rest =>
      set { state with tokens := rest }
      let inner ← whole live
      match ← takeSign? [")"] with
      | some _ => return inner
      | none => throw (.malformed "expecting ')'")
    | .sign sign :: rest =>
      set { state with tokens := rest }
      match sign with
      | "+" => operand whole live fuel
      | "-" => return wrap (-(← operand whole live fuel))
      | "!" => return truth ((← operand whole live fuel) == 0)
      | "~" => return wrap (-(← operand whole live fuel) - 1)
      | _ => throw (.malformed "expecting primary")
    | [] => throw (.malformed "expecting primary")

/-- The rest of an expression of signs of one strength, from left to right. -/
def chain (next : Sum Int) (signs : List String) (live : Bool) : Nat → Int → Sum Int
  | 0, _ => throw (.malformed "expecting EOF")
  | fuel + 1, first => do
    match ← takeSign? signs with
    | none => return first
    | some sign =>
      let second ← next
      chain next signs live fuel (← if live then binaryValue sign first second else pure 0)

/-- The value of an expression of binary signs, the weakest of which come first. -/
def binary (whole : Bool → Sum Int) (live : Bool) (fuel : Nat) : List (List String) → Sum Int
  | [] => operand value whole live fuel
  | signs :: stronger => do
    let next := binary whole live fuel stronger
    chain next signs live fuel (← next)

/-- The value of a conjunction. -/
def conjunction (whole : Bool → Sum Int) : Nat → Bool → Sum Int
  | 0, _ => throw (.malformed "expecting EOF")
  | fuel + 1, live => do
    let first ← binary value whole live fuel binarySigns.reverse
    match ← takeSign? ["&&"] with
    | none => return first
    | some _ =>
      let second ← conjunction whole fuel (live && first != 0)
      return truth (first != 0 && second != 0)

/-- The value of a disjunction. -/
def disjunction (whole : Bool → Sum Int) : Nat → Bool → Sum Int
  | 0, _ => throw (.malformed "expecting EOF")
  | fuel + 1, live => do
    let first ← conjunction value whole (fuel + 1) live
    match ← takeSign? ["||"] with
    | none => return first
    | some _ =>
      let second ← disjunction whole fuel (live && first == 0)
      return truth (first != 0 || second != 0)

/-- The value of a choice between two expressions. -/
def alternatives (whole : Bool → Sum Int) : Nat → Bool → Sum Int
  | 0, _ => throw (.malformed "expecting EOF")
  | fuel + 1, live => do
    let test ← disjunction value whole (fuel + 1) live
    match ← takeSign? ["?"] with
    | none => return test
    | some _ =>
      let yes ← whole (live && test != 0)
      match ← takeSign? [":"] with
      | none => throw (.malformed "expecting ':'")
      | some _ =>
        let no ← alternatives whole fuel (live && test == 0)
        return if test != 0 then yes else no

/-- The signs that assign to the variable in front of them. -/
def assignmentSigns : List String :=
  ["=", "*=", "/=", "%=", "+=", "-=", "<<=", ">>=", "&=", "^=", "|="]

/-- The value of an expression, assignments included. -/
def wholeSum : Nat → Bool → Sum Int
  | 0, _ => throw (.malformed "expecting primary")
  | fuel + 1, live => do
    let state ← get
    match state.tokens with
    | .name name :: .sign sign :: rest =>
      if assignmentSigns.contains sign then
        set { state with tokens := rest }
        let right ← wholeSum fuel live
        if live then
          let result ←
            if sign = "=" then pure right
            else binaryValue (String.ofList sign.toList.dropLast) (← numberOf value name) right
          modify fun state => { state with assigned := (name, result) :: state.assigned }
          return result
        else return right
      else alternatives value (wholeSum fuel) (fuel + 1) live
    | _ => alternatives value (wholeSum fuel) (fuel + 1) live

/-- The value of an expression, given the values of variables, and what it assigns, last first. -/
def sumOf (expression : Bytes) : Except SumError (Int × List (Bytes × Int)) :=
  let tokens := sumTokens (expression.length + 1) expression
  let whole : Sum Int := do
    let result ← wholeSum value (tokens.length + 1) true
    if (← get).tokens.isEmpty then return result else throw (.malformed "expecting EOF")
  match whole.run { tokens } with
  | .ok result state => .ok (result, state.assigned)
  | .error cause _ => .error cause

end

end FlowCheck.Shell
