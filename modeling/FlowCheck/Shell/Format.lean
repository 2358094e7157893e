import FlowCheck.Decimal.Shortest
import FlowCheck.Shell.Arithmetic

/-!
# Formats

How texts and numbers are written as a format asks: escapes behind backslashes, fields of some
width, and the forms of whole and of decimal numbers.
-/

namespace FlowCheck.Shell

/-! ## Escapes -/

/-- The byte that a letter after a backslash stands for. -/
def escapedByte? : Char → Option Char
  | 'a' => some '\x07'
  | 'b' => some '\x08'
  | 'e' => some '\x1b'
  | 'f' => some '\x0c'
  | 'n' => some '\n'
  | 'r' => some '\r'
  | 't' => some '\t'
  | 'v' => some '\x0b'
  | '\\' => some '\\'
  | _ => none

/-- The byte that up to so many octal digits write, and the text after them. -/
def leadingOctal (limit : Nat) (text : Bytes) : Char × Bytes :=
  let run := (text.take limit).takeWhile fun c => '0' ≤ c && c ≤ '7'
  (Char.ofNat ((leadingDigits 8 run).1 % 256), text.drop run.length)

/-- What stands behind a backslash: the bytes that it means, and the text after it. -/
def leadingEscape (text : Bytes) : Bytes × Bytes :=
  match text with
  | [] => (['\\'], [])
  | c :: rest =>
    match escapedByte? c with
    | some byte => ([byte], rest)
    | none =>
      if '0' ≤ c && c ≤ '7' then
        let (byte, after) := leadingOctal 3 text
        ([byte], after)
      else (['\\'], text)

/-- A text with its escapes replaced, and whether it goes on to the end: a `c` behind a backslash
ends everything. An octal number may have a zero in front of its three digits. -/
def unescape : Nat → Bytes → Bytes → Bytes × Bool
  | 0, done, _ | _, done, [] => (done.reverse, true)
  | fuel + 1, done, '\\' :: rest =>
    match rest with
    | 'c' :: _ => (done.reverse, false)
    | '0' :: digits =>
      let (byte, after) := leadingOctal 3 digits
      unescape fuel (byte :: done) after
    | rest =>
      let (content, after) := leadingEscape rest
      unescape fuel (content ++ done) after
  | fuel + 1, done, c :: rest => unescape fuel (c :: done) rest

/-- What `echo` writes. -/
def echo (arguments : List Bytes) : Bytes :=
  let (newline, words) := match arguments with
    | ['-', 'n'] :: rest => ([], rest)
    | words => (['\n'], words)
  let text := [' '].intercalate words
  let (content, complete) := unescape (text.length + 1) [] text
  if complete then content ++ newline else content

/-! ## Fields -/

/-- How a field is written. -/
structure FieldStyle where
  flags : Bytes := []
  width : Nat := 0
  precision : Option Nat := none
  deriving Repr, DecidableEq

namespace FieldStyle

/-- Whether a flag is given. -/
def has (style : FieldStyle) (flag : Char) : Bool :=
  style.flags.contains flag

/-- A sign and what follows it in a field; zeros fill it between them. -/
def fill (style : FieldStyle) (zeroed : Bool) (sign text : Bytes) : Bytes :=
  let gap := style.width - sign.length - text.length
  if style.has '-' then sign ++ text ++ List.replicate gap ' '
  else if zeroed && style.has '0' then sign ++ List.replicate gap '0' ++ text
  else List.replicate gap ' ' ++ sign ++ text

/-- A text in a field. -/
def text (style : FieldStyle) (text : Bytes) : Bytes :=
  style.fill false [] (match style.precision with
    | some size => text.take size
    | none => text)

/-- The sign of a number. -/
def sign (style : FieldStyle) (negative : Bool) : Bytes :=
  if negative then ['-'] else if style.has '+' then ['+'] else if style.has ' ' then [' '] else []

/-- A sign and the digits of a whole number in a field; there are at least as many as the precision
tells. -/
def whole (style : FieldStyle) (sign digits : Bytes) : Bytes :=
  match style.precision with
  | some size =>
    let digits := if digits = ['0'] then [] else digits
    style.fill false sign (List.replicate (size - digits.length) '0' ++ digits)
  | none => style.fill true sign digits

/-- A whole number with its sign in a field. -/
def signed (style : FieldStyle) (value : Int) : Bytes :=
  style.whole (style.sign (value < 0)) (digits value.natAbs)

/-- A whole number without a sign in a field, in the base of a letter. -/
def unsigned (style : FieldStyle) (letter : Char) (value : Nat) : Bytes :=
  let mark := style.has '#' && value ≠ 0
  match letter with
  | 'o' =>
    let digits := Nat.toDigits 8 value
    style.whole [] (if mark then '0' :: digits else digits)
  | 'x' => style.whole (if mark then ['0', 'x'] else []) (Nat.toDigits 16 value)
  | 'X' => style.whole (if mark then ['0', 'X'] else []) ((Nat.toDigits 16 value).map Char.toUpper)
  | _ => style.whole [] (digits value)

end FieldStyle

/-! ## Decimal numbers -/

/-- The number nearest to `mantissa · 2 ^ exponent · 10 ^ shift`, a tie going to the even one. -/
def scaledDecimal (mantissa : Nat) (exponent shift : Int) : Nat :=
  let top := mantissa * (if exponent < 0 then 1 else Nat.pow 2 exponent.toNat) *
    (if shift < 0 then 1 else Nat.pow 10 shift.toNat)
  let bottom := (if exponent < 0 then Nat.pow 2 (-exponent).toNat else 1) *
    (if shift < 0 then Nat.pow 10 (-shift).toNat else 1)
  roundDiv top bottom

/-- A number of digits, zeros in front if there are too few. -/
def digitsOf (count n : Nat) : Bytes :=
  let text := digits n
  List.replicate (count - text.length) '0' ++ text

/-- Digits with a point before so many of them. -/
def withPoint (places : Nat) (always : Bool) (n : Nat) : Bytes :=
  let text := digitsOf (places + 1) n
  let whole := text.take (text.length - places)
  if places = 0 then (if always then whole ++ ['.'] else whole)
  else whole ++ '.' :: text.drop (text.length - places)

/-- A decimal number with a fixed number of places. -/
def fixedDecimal (mantissa : Nat) (exponent : Int) (places : Nat) (always : Bool) : Bytes :=
  withPoint places always (scaledDecimal mantissa exponent places)

/-- The digits of a decimal number, so many behind the first one, and its power of ten. -/
def scientificParts (mantissa : Nat) (exponent : Int) (places : Nat) : Nat × Int :=
  if mantissa = 0 then (0, 0)
  else
    let top := mantissa * (if exponent < 0 then 1 else Nat.pow 2 exponent.toNat)
    let bottom := if exponent < 0 then Nat.pow 2 (-exponent).toNat else 1
    let power := Binary64.decimalPoint top bottom - 1
    let all := scaledDecimal mantissa exponent (places - power)
    if all = Nat.pow 10 (places + 1) then (Nat.pow 10 places, power + 1) else (all, power)

/-- A power of ten behind its letter. -/
def exponentText (letter : Char) (power : Int) : Bytes :=
  letter :: (if power < 0 then '-' else '+') :: digitsOf 2 power.natAbs

/-- A decimal number with one digit before the point and a power of ten. -/
def scientificDecimal (mantissa : Nat) (exponent : Int) (places : Nat) (always : Bool)
    (letter : Char) : Bytes :=
  let (all, power) := scientificParts mantissa exponent places
  withPoint places always all ++ exponentText letter power

/-- A decimal number without the zeros at its end. -/
def withoutZeros (text : Bytes) : Bytes :=
  if text.contains '.' then
    let kept := text.reverse.dropWhile (· = '0')
    (if kept.head? = some '.' then kept.drop 1 else kept).reverse
  else text

/-- A decimal number of so many significant digits in its shorter form. -/
def generalDecimal (mantissa : Nat) (exponent : Int) (size : Nat) (always : Bool)
    (letter : Char) : Bytes :=
  let size := max size 1
  let (all, power) := scientificParts mantissa exponent (size - 1)
  let trim (text : Bytes) : Bytes := if always then text else withoutZeros text
  if power < -4 || power ≥ size then
    trim (withPoint (size - 1) always all) ++ exponentText letter power
  else trim (fixedDecimal mantissa exponent (size - 1 - power).toNat always)

/-- A double as a letter asks. -/
def FieldStyle.decimal (style : FieldStyle) (letter : Char) (value : Binary64) : Bytes :=
  let lower := letter.toLower
  let mark : Char := if letter = lower then 'e' else 'E'
  let named (text : String) : Bytes :=
    if letter = lower then text.toList else text.toList.map Char.toUpper
  let places := style.precision.getD 6
  match value with
  | .nan => style.fill false (style.sign false) (named "nan")
  | .infinite negative => style.fill false (style.sign negative) (named "inf")
  | .finite negative mantissa exponent =>
    style.fill true (style.sign negative) <|
      if lower = 'e' then scientificDecimal mantissa exponent places (style.has '#') mark
      else if lower = 'g' then generalDecimal mantissa exponent places (style.has '#') mark
      else fixedDecimal mantissa exponent places (style.has '#')

/-- The double at the beginning of a text, and the text after it. -/
def leadingDouble? (text : Bytes) : Option (Binary64 × Bytes) :=
  let text := text.dropWhile isSpace
  let (negative, text) := match text with
    | '-' :: rest => (true, rest)
    | '+' :: rest => (false, rest)
    | rest => (false, rest)
  let lower := (text.take 8).map Char.toLower
  if "infinity".toList.isPrefixOf lower then some (.infinite negative, text.drop 8)
  else if "inf".toList.isPrefixOf lower then some (.infinite negative, text.drop 3)
  else if "nan".toList.isPrefixOf lower then some (.nan, text.drop 3)
  else
    let whole := text.takeWhile Char.isDigit
    let rest := text.drop whole.length
    let (fraction, rest) := match rest with
      | '.' :: rest => (rest.takeWhile Char.isDigit, rest.dropWhile Char.isDigit)
      | rest => ([], rest)
    if whole.isEmpty && fraction.isEmpty then none
    else
      let power : Option (Int × Bytes) := match rest with
        | c :: rest =>
          if c = 'e' || c = 'E' then leadingInteger? leadingDecimal? (rest.takeWhile fun c =>
            c = '-' || c = '+' || c.isDigit) |>.map fun (value, _) =>
              let signed := rest.head?.any fun c => c = '-' || c = '+'
              let rest := if signed then rest.drop 1 else rest
              (value, rest.dropWhile Char.isDigit)
          else none
        | [] => none
      let (exponent, rest) := power.getD (0, rest)
      some (Binary64.ofDecimal negative (naturalOf (whole ++ fraction))
        (exponent - fraction.length), rest)

/-! ## Formats -/

/-- How far a format has been followed. -/
structure Formatting where
  /-- What was written so far, last first. -/
  done : Bytes := []
  arguments : List Bytes
  /-- What was wrong with arguments, last first; none of it ends the format. -/
  complaints : List Bytes := []
  /-- What was wrong with the format itself. -/
  broken : Option Bytes := none
  /-- Whether nothing is written any more. -/
  ended : Bool := false

namespace Formatting

/-- Write bytes. -/
def put (formatting : Formatting) (content : Bytes) : Formatting :=
  { formatting with done := content.reverseAux formatting.done }

/-- The next argument, empty if there is none. -/
def next (formatting : Formatting) : Bytes × Formatting :=
  match formatting.arguments with
  | argument :: rest => (argument, { formatting with arguments := rest })
  | [] => ([], formatting)

/-- Complain about an argument of which so much could not be read. -/
def check (formatting : Formatting) (argument after : Bytes) : Formatting :=
  if after.isEmpty then formatting
  else
    let reason := if after.length = argument.length then "expected numeric value"
      else "not completely converted"
    { formatting with
      complaints := (argument ++ bytes s!": {reason}") :: formatting.complaints }

/-- The next argument as a whole number. A quote in front of a byte stands for its number. -/
def nextInteger (formatting : Formatting) (signed : Bool) : Int × Formatting :=
  let (argument, formatting) := formatting.next
  match argument with
  | '\'' :: c :: _ | '"' :: c :: _ => (c.toNat, formatting)
  | _ =>
    match leadingInteger? leadingNatural? argument with
    | none => (0, formatting.check argument argument)
    | some (value, after) =>
      let formatting := formatting.check argument after
      let (least, most) : Int × Int := if signed then (-greatestNumber - 1, greatestNumber)
        else (-0xffffffffffffffff, 0xffffffffffffffff)
      if after.isEmpty && (value < least || most < value) then
        (if value < least then (if signed then least else most) else most,
          { formatting with
            complaints := (argument ++ bytes ": Numerical result out of range") ::
              formatting.complaints })
      else (max least (min most value), formatting)

/-- The next argument as a double. -/
def nextDouble (formatting : Formatting) : Binary64 × Formatting :=
  let (argument, formatting) := formatting.next
  match argument with
  | '\'' :: c :: _ | '"' :: c :: _ => (Binary64.ofDecimal false c.toNat 0, formatting)
  | _ =>
    match leadingDouble? argument with
    | none => (Binary64.ofDecimal false 0 0, formatting.check argument argument)
    | some (value, after) => (value, formatting.check argument after)

/-- A number in a format: digits, or a star for the next argument. -/
def number? (formatting : Formatting) (text : Bytes) : Option Int × Formatting × Bytes :=
  match text with
  | '*' :: rest =>
    let (value, formatting) := formatting.nextInteger true
    (some value, formatting, rest)
  | text =>
    let run := text.takeWhile Char.isDigit
    (if run.isEmpty then none else some (naturalOf run), formatting, text.drop run.length)

/-- Write an argument as a letter asks. -/
def convert (formatting : Formatting) (style : FieldStyle) (letter : Char) (spelled : Bytes) :
    Formatting :=
  match letter with
  | 's' =>
    let (argument, formatting) := formatting.next
    formatting.put (style.text argument)
  | 'b' =>
    let (argument, formatting) := formatting.next
    let (content, complete) := unescape (argument.length + 1) [] argument
    { formatting.put (style.text content) with ended := !complete }
  | 'c' =>
    let (argument, formatting) := formatting.next
    let byte := if argument.isEmpty then ['\x00'] else argument.take 1
    formatting.put ({ style with precision := none }.text byte)
  | 'd' | 'i' =>
    let (value, formatting) := formatting.nextInteger true
    formatting.put (style.signed value)
  | 'o' | 'u' | 'x' | 'X' =>
    let (value, formatting) := formatting.nextInteger false
    formatting.put (style.unsigned letter (value % 0x10000000000000000).toNat)
  | 'e' | 'E' | 'f' | 'F' | 'g' | 'G' =>
    let (value, formatting) := formatting.nextDouble
    formatting.put (style.decimal letter value)
  | _ => { formatting with broken := some (spelled ++ bytes ": invalid directive") }

/-- Follow a format to its end. -/
def follow : Nat → Bytes → Formatting → Formatting
  | 0, _, formatting | _, [], formatting => formatting
  | fuel + 1, '\\' :: rest, formatting =>
    let (content, after) := leadingEscape rest
    follow fuel after (formatting.put content)
  | fuel + 1, '%' :: '%' :: rest, formatting => follow fuel rest (formatting.put ['%'])
  | fuel + 1, '%' :: rest, formatting =>
    let flags := rest.takeWhile fun c => ['-', '0', '+', ' ', '#'].contains c
    let (width, formatting, after) := formatting.number? (rest.drop flags.length)
    let (precision, formatting, after) := match after with
      | '.' :: after =>
        let (precision, formatting, after) := formatting.number? after
        (some (precision.getD 0), formatting, after)
      | after => (none, formatting, after)
    let width := width.getD 0
    let style : FieldStyle :=
      { flags := if width < 0 then '-' :: flags else flags
        width := width.natAbs
        precision := precision.bind fun size => if size < 0 then none else some size.toNat }
    match after with
    | [] => { formatting with broken := some (bytes "missing format character") }
    | letter :: after =>
      let spelled := '%' :: rest.take (rest.length - after.length)
      let formatting := formatting.convert style letter spelled
      if formatting.broken.isSome || formatting.ended then formatting
      else follow fuel after formatting
  | fuel + 1, c :: rest, formatting => follow fuel rest (formatting.put [c])

/-- Follow a format again and again as long as it takes arguments. -/
def followAll (format : Bytes) : Nat → Formatting → Formatting
  | 0, formatting => formatting
  | fuel + 1, formatting =>
    let after := follow (format.length + 1) format formatting
    if after.broken.isSome || after.ended || after.arguments.isEmpty ||
        after.arguments.length = formatting.arguments.length then after
    else followAll format fuel after

end Formatting

/-- What comes of a format and its arguments. -/
def formatted (format : Bytes) (arguments : List Bytes) : Formatting :=
  Formatting.followAll format (arguments.length + 1) { arguments }

end FlowCheck.Shell
