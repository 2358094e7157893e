import FlowCheck.Text.Printable

/-!
# Quoted text in the log

The log shows a text in double quotes. Quotes and backslashes are escaped, and so is every character
that would not show; the common controls have a letter, the others their code in braces.
-/

namespace FlowCheck.Text

/-- A code point in hexadecimal, between braces. -/
def bracedCode (c : Char) : List Char :=
  '\\' :: 'u' :: '\x7b' :: (Nat.toDigits 16 c.toNat ++ ['\x7d'])

/-- One character of a quoted text. -/
def quoteChar (c : Char) : List Char :=
  if c = '"' then ['\\', '"']
  else if c = '\\' then ['\\', '\\']
  else if c = '\n' then ['\\', 'n']
  else if c = '\r' then ['\\', 'r']
  else if c = '\t' then ['\\', 't']
  else if c = '\x00' then ['\\', '0']
  else if isPrintable c then [c]
  else bracedCode c

/-- A text as the log shows it. -/
def quoted (text : String) : String :=
  String.ofList ('"' :: (text.toList.flatMap quoteChar ++ ['"']))

end FlowCheck.Text
