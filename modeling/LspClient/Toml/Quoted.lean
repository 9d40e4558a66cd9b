import LspClient.Text.Hexadecimal

/-!
# Quoted text

Strings come in four forms: with or without escapes, on one line or on several. No control
characters but the tabulator stand in them, and a line ends with a line feed, which a
carriage return may precede. Line ends are kept as they are written.
-/

namespace LspClient.Toml

/-- A character that may stand in a comment or in quotes. -/
def isTextChar (c : Char) : Bool := c = '\t' || (0x20 ≤ c.toNat && c.toNat != 0x7F)

/-- The character with a number, unless that is a surrogate or out of range. -/
def charOf? (n : Nat) : Option Char := if n.isValidChar then some (Char.ofNat n) else none

/-- The character that a number of hexadecimal digits write, and what follows them. -/
def hexEscape? (count : Nat) (input : List Char) : Option (Char × List Char) := do
  let digits := input.take count
  if digits.length = count then
    let c ← (Text.numberIn? 16 digits).bind charOf?
    return (c, input.drop count)
  else none

/-- The character of an escape, and what follows it; the backslash has been read. -/
def escape? : List Char → Option (Char × List Char)
  | '"' :: rest => some ('"', rest)
  | '\\' :: rest => some ('\\', rest)
  | 'b' :: rest => some ('\x08', rest)
  | 'e' :: rest => some ('\x1b', rest)
  | 'f' :: rest => some ('\x0c', rest)
  | 'n' :: rest => some ('\n', rest)
  | 'r' :: rest => some ('\r', rest)
  | 't' :: rest => some ('\t', rest)
  | 'x' :: rest => hexEscape? 2 rest
  | 'u' :: rest => hexEscape? 4 rest
  | 'U' :: rest => hexEscape? 8 rest
  | _ => none

/-- What follows a line end, if the input starts with one. -/
def afterLineEnd? : List Char → Option (List Char)
  | '\n' :: rest => some rest
  | '\r' :: '\n' :: rest => some rest
  | _ => none

/-- A blank within a line. -/
def isSpace (c : Char) : Bool := c = ' ' || c = '\t'

/-- What follows blanks and line ends. -/
def afterBlankLines : List Char → List Char
  | '\r' :: '\n' :: rest => afterBlankLines rest
  | c :: rest => if isSpace c || c = '\n' then afterBlankLines rest else c :: rest
  | [] => []

/-- What follows blanks and line ends, the first of which ends the line of a backslash. -/
def afterContinuation? (input : List Char) : Option (List Char) :=
  (afterLineEnd? (input.dropWhile isSpace)).map afterBlankLines

/-- How text between quotes is written. -/
structure QuoteStyle where
  quote : Char
  hasEscapes : Bool
  isMultiline : Bool

/-- Reads up to the closing quotes, in at most `fuel` steps of one character or more.
`done` is what was read so far, in reverse. -/
def quotedBody (style : QuoteStyle) : Nat → List Char → List Char → Option (List Char × List Char)
  | 0, _, _ => none
  | _ + 1, _, [] => none
  | fuel + 1, done, c :: rest =>
    if c = style.quote then
      if style.isMultiline then
        let run := (c :: rest).takeWhile (· = style.quote)
        if run.length < 3 then quotedBody style fuel (c :: done) rest
        else
          let kept := min (run.length - 3) 2
          some (done.reverse ++ List.replicate kept style.quote, (c :: rest).drop (kept + 3))
      else some (done.reverse, rest)
    else if c = '\\' && style.hasEscapes then
      match escape? rest with
      | some (escaped, rest) => quotedBody style fuel (escaped :: done) rest
      | none =>
        if style.isMultiline then
          (afterContinuation? rest).bind (quotedBody style fuel done)
        else none
    else if isTextChar c then quotedBody style fuel (c :: done) rest
    else if style.isMultiline then
      match c :: rest with
      | '\n' :: rest => quotedBody style fuel ('\n' :: done) rest
      | '\r' :: '\n' :: rest => quotedBody style fuel ('\n' :: '\r' :: done) rest
      | _ => none
    else none

/-- Reads quoted text from its opening quotes. -/
def quoted? (input : List Char) : Option (List Char × List Char) :=
  let multiline (quote : Char) (hasEscapes : Bool) (rest : List Char) :=
    let rest := (afterLineEnd? rest).getD rest
    quotedBody ⟨quote, hasEscapes, true⟩ (rest.length + 1) [] rest
  match input with
  | '"' :: '"' :: '"' :: rest => multiline '"' true rest
  | '\'' :: '\'' :: '\'' :: rest => multiline '\'' false rest
  | '"' :: rest => quotedBody ⟨'"', true, false⟩ (rest.length + 1) [] rest
  | '\'' :: rest => quotedBody ⟨'\'', false, false⟩ (rest.length + 1) [] rest
  | _ => none

/-- Reads quoted text on one line from its opening quote. -/
def quotedLine? (input : List Char) : Option (List Char × List Char) :=
  match input with
  | '"' :: rest => quotedBody ⟨'"', true, false⟩ (rest.length + 1) [] rest
  | '\'' :: rest => quotedBody ⟨'\'', false, false⟩ (rest.length + 1) [] rest
  | _ => none

end LspClient.Toml
