import LspClient.Text.Printable

/-!
# Quoted text

How a message shows text that a peer chose: between double quotes, with everything
escaped that would not be seen as itself. A single quote stands for itself.
-/

namespace LspClient.Text

/-- The escape `\u{hex}` of a character, in lower case. -/
def codePointEscape (c : Char) : List Char :=
  '\\' :: 'u' :: '\x7b' :: (Nat.toDigits 16 c.toNat ++ ['\x7d'])

/-- A character as it stands in quoted text. -/
def quoteChar (c : Char) : List Char :=
  if c = '\x00' then ['\\', '0']
  else if c = '\t' then ['\\', 't']
  else if c = '\r' then ['\\', 'r']
  else if c = '\n' then ['\\', 'n']
  else if c = '\\' then ['\\', '\\']
  else if c = '"' then ['\\', '"']
  else if isExtending c || !isPrintable c then codePointEscape c
  else [c]

/-- Text between double quotes, on one line and with nothing invisible in it. -/
def quote (text : String) : String :=
  String.ofList ('"' :: (text.toList.flatMap quoteChar ++ ['"']))

end LspClient.Text
