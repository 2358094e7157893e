/-!
# Reading bytes as text

Bytes are read as UTF-8. What is not UTF-8 is cut into the longest parts that could have begun a
character, and each part is read as one replacement character.
-/

namespace FlowCheck.Text

/-- What stands for bytes that are no text. -/
def replacement : Char := '\ufffd'

/-- Whether a byte continues a character. -/
def continues (byte : UInt8) : Bool :=
  0x80 ≤ byte && byte ≤ 0xBF

/-- Whether a byte can be the second one of a character of three bytes or more. Spellings that are
too long, surrogates, and what lies beyond the last character are excluded. -/
def isSecond (lead byte : UInt8) : Bool :=
  continues byte &&
    (if lead = 0xE0 then 0xA0 ≤ byte
     else if lead = 0xED then byte ≤ 0x9F
     else if lead = 0xF0 then 0x90 ≤ byte
     else if lead = 0xF4 then byte ≤ 0x8F
     else true)

/-- The character with the given bits, six from each continuing byte. -/
def assemble (bits : Nat) (more : List UInt8) : Char :=
  Char.ofNat (more.foldl (fun bits byte => bits * 64 + (byte.toNat - 0x80)) bits)

/-- The first character of a text that begins with a byte, and how many of the following bytes
belong to it. -/
def firstChar (lead : UInt8) (rest : List UInt8) : Char × Nat :=
  if lead < 0x80 then (Char.ofNat lead.toNat, 0)
  else if 0xC2 ≤ lead && lead ≤ 0xDF then
    match rest with
    | b :: _ => if continues b then (assemble (lead.toNat - 0xC0) [b], 1) else (replacement, 0)
    | [] => (replacement, 0)
  else if 0xE0 ≤ lead && lead ≤ 0xEF then
    match rest with
    | b :: tail =>
      if isSecond lead b then
        match tail with
        | c :: _ =>
          if continues c then (assemble (lead.toNat - 0xE0) [b, c], 2) else (replacement, 1)
        | [] => (replacement, 1)
      else (replacement, 0)
    | [] => (replacement, 0)
  else if 0xF0 ≤ lead && lead ≤ 0xF4 then
    match rest with
    | b :: tail =>
      if isSecond lead b then
        match tail with
        | c :: last =>
          if continues c then
            match last with
            | d :: _ =>
              if continues d then (assemble (lead.toNat - 0xF0) [b, c, d], 3) else (replacement, 2)
            | [] => (replacement, 2)
          else (replacement, 1)
        | [] => (replacement, 1)
      else (replacement, 0)
    | [] => (replacement, 0)
  else (replacement, 0)

/-- The characters of bytes, after those already read, last first. -/
def readOnto (done : List Char) : List UInt8 → List Char
  | [] => done.reverse
  | lead :: rest =>
    let first := firstChar lead rest
    readOnto (first.1 :: done) (rest.drop first.2)
termination_by bytes => bytes.length
decreasing_by simp only [List.length_drop, List.length_cons]; omega

/-- The text that bytes are read as. -/
def ofBytes (bytes : List UInt8) : String :=
  String.ofList (readOnto [] bytes)

end FlowCheck.Text
