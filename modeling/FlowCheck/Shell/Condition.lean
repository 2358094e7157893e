import FlowCheck.Files.Tree
import FlowCheck.Shell.Arithmetic

/-!
# Conditions

The conditions that `test` looks at: of one word, of two words and a sign, and those made of others.
What some words mean can depend on how many there are.
-/

namespace FlowCheck.Shell

/-- The signs between two words. -/
def comparisonSigns : List String :=
  ["=", "!=", "<", ">", "-eq", "-ne", "-gt", "-ge", "-lt", "-le", "-nt", "-ot", "-ef"]

/-- The signs before a word. -/
def wordSigns : List String :=
  ["-r", "-w", "-x", "-e", "-f", "-d", "-c", "-b", "-p", "-u", "-g", "-k", "-s", "-t", "-z", "-n",
    "-h", "-O", "-G", "-L", "-S"]

/-- What a word in a condition is. -/
inductive ConditionToken where
  | finish
  | word
  | unary
  | comparison
  | negation
  | conjunction
  | disjunction
  | openParenthesis
  | closeParenthesis
  deriving Repr, DecidableEq

/-- The sign that a word can be. -/
def conditionSign? (word : Bytes) : Option ConditionToken :=
  let text := String.ofList word
  if comparisonSigns.contains text then some .comparison
  else if wordSigns.contains text then some .unary
  else match text with
    | "!" => some .negation
    | "-a" => some .conjunction
    | "-o" => some .disjunction
    | "(" => some .openParenthesis
    | ")" => some .closeParenthesis
    | _ => none

/-- What the first of some words is. A sign before a word is a word itself if nothing or a sign
between two words follows it. -/
def conditionToken (words : List Bytes) : ConditionToken :=
  match words with
  | [] => .finish
  | word :: rest =>
    match conditionSign? word with
    | none => .word
    | some .unary =>
      match rest with
      | [] => .word
      | [_] => .unary
      | next :: _ => if conditionSign? next = some .comparison then .word else .unary
    | some .openParenthesis => if rest.isEmpty then .word else .openParenthesis
    | some sign => sign

/-- A step of looking at a condition; an error is told in words. -/
abbrev Conditional := Except Bytes

/-- A word as a number. -/
def conditionNumber (word : Bytes) : Conditional Int :=
  match integer? word with
  | some value => .ok value
  | none => .error (bytes "Illegal number: " ++ word)

/-- Whether a comparison of two words holds. -/
def compareWords (files : Files) (a sign b : Bytes) : Conditional Bool := do
  let less (a b : Bytes) : Bool := decide (a < b)
  let place (word : Bytes) : Option Place := (files.locate (textOf word)).toOption
  match String.ofList sign with
  | "=" => return a == b
  | "!=" => return a != b
  | "<" => return less a b
  | ">" => return less b a
  | "-nt" => return (place a).isSome && (place b).isNone
  | "-ot" => return (place a).isNone && (place b).isSome
  | "-ef" => return (place a).isSome && place a = place b
  | sign =>
    let x ← conditionNumber a
    let y ← conditionNumber b
    match sign with
    | "-eq" => return x == y
    | "-ne" => return x != y
    | "-lt" => return decide (x < y)
    | "-le" => return decide (x ≤ y)
    | "-gt" => return decide (y < x)
    | _ => return decide (y ≤ x)

/-- Whether a condition of one word holds. -/
def checkWord (files : Files) (sign word : Bytes) : Conditional Bool := do
  let node := (files.node (textOf word)).toOption
  match String.ofList sign with
  | "-n" => return !word.isEmpty
  | "-z" => return word.isEmpty
  | "-t" => do
    let _ ← conditionNumber word
    return false
  | "-e" | "-r" | "-w" | "-O" | "-G" => return node.isSome
  | "-f" => return node.any Node.isFile
  | "-d" => return node.any Node.isDirectory
  | "-c" => return node.any fun
    | .device _ => true
    | _ => false
  | "-s" => return node.any fun
    | .file content _ => content.size ≠ 0
    | .program _ | .directory _ => true
    | .device _ => false
  | "-x" => return node.any fun
    | .file _ executable => executable
    | .program _ | .directory _ => true
    | .device _ => false
  | _ => return false

section

variable (files : Files)

/-- The condition at the beginning of some words that is no conjunction, and the words from the last
one of it on. -/
def simpleCondition (whole : List Bytes → Conditional (Bool × List Bytes)) (words : List Bytes) :
    Conditional (Bool × List Bytes) := do
  let token := conditionToken words
  match words with
  | [] => return (false, [])
  | word :: rest =>
    if token = .openParenthesis then
      if conditionToken rest = .closeParenthesis then return (false, rest)
      else
        let (holds, after) ← whole rest
        if conditionToken after.tail = .closeParenthesis then return (holds, after.tail)
        else throw (bytes "closing paren expected")
    else if token = .unary then
      match rest with
      | [] => throw (word ++ bytes ": argument expected")
      | operand :: _ => return (← checkWord files word operand, rest)
    else
      match rest with
      | sign :: after =>
        if conditionToken rest = .comparison then
          match after with
          | [] => throw (sign ++ bytes ": argument expected")
          | other :: _ => return (← compareWords files word sign other, after)
        else return (!word.isEmpty, words)
      | [] => return (!word.isEmpty, words)

/-- The same, with signs that turn it around. -/
def negatedCondition (whole : List Bytes → Conditional (Bool × List Bytes)) :
    List Bytes → Conditional (Bool × List Bytes)
  | [] => return (false, [])
  | word :: rest =>
    if conditionToken (word :: rest) = .negation then
      if rest.isEmpty then return (true, [word])
      else do
        let (holds, after) ← negatedCondition whole rest
        return (!holds, after)
    else simpleCondition files whole (word :: rest)

/-- Conditions that all have to hold. -/
def allConditions (whole : List Bytes → Conditional (Bool × List Bytes)) :
    Nat → Bool → List Bytes → Conditional (Bool × List Bytes)
  | 0, _, _ => throw (bytes "unexpected operator")
  | fuel + 1, before, words => do
    let (holds, after) ← negatedCondition files whole words
    let holds := before && holds
    if conditionToken after.tail = .conjunction then
      allConditions whole fuel holds (after.drop 2)
    else return (holds, after)

/-- Conditions of which one has to hold. -/
def anyCondition (whole : List Bytes → Conditional (Bool × List Bytes)) :
    Nat → Bool → List Bytes → Conditional (Bool × List Bytes)
  | 0, _, _ => throw (bytes "unexpected operator")
  | fuel + 1, before, words => do
    let (holds, after) ← allConditions files whole (fuel + 1) true words
    let holds := before || holds
    if conditionToken after.tail = .disjunction then
      anyCondition whole fuel holds (after.drop 2)
    else return (holds, after)

/-- The condition at the beginning of some words, and the words from the last one of it on. -/
def wholeCondition : Nat → List Bytes → Conditional (Bool × List Bytes)
  | 0, _ => throw (bytes "unexpected operator")
  | fuel + 1, words => anyCondition files (wholeCondition fuel) (fuel + 1) false words

/-- Whether the condition that some words are holds. -/
def holds : Nat → List Bytes → Conditional Bool
  | 0, _ => throw (bytes "unexpected operator")
  | fuel + 1, words => do
    let isComparison := match words with
      | [_, sign, _] => conditionSign? sign = some .comparison
      | _ => false
    let isShort := (words.length = 3 || words.length = 4) && !isComparison
    if words.isEmpty then return false
    else if isShort && words.head? = some ['('] && words.getLast? = some [')'] then
      holds fuel (words.drop 1).dropLast
    else if isShort && words.head? = some ['!'] then
      return !(← holds fuel (words.drop 1))
    else
      let (result, after) ←
        if isComparison then
          match words with
          | [a, sign, b] => return ← compareWords files a sign b
          | words => wholeCondition files (words.length + 2) words
        else wholeCondition files (words.length + 2) words
      match after with
      | word :: _ :: _ => throw (word ++ bytes ": unexpected operator")
      | _ => return result

end

end FlowCheck.Shell
