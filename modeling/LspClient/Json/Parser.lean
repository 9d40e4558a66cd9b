import LspClient.Json.Numeral
import LspClient.Text.Hexadecimal

/-!
# Reading JSON text

One value with blanks around it, read from bytes. Structural faults are met in the order
of the input; the UTF-8 of a string is checked when its closing quote is reached. Lists
and objects nest at most 127 deep, and `value` recurses on how deep they still may.
-/

namespace LspClient.Json

/-- How deep lists and objects may nest. -/
def maxDepth : Nat := 127

/-- The blanks of JSON: space, line feed, tabulator and carriage return. -/
def isBlank (b : UInt8) : Bool := b == 0x20 || b == 0x0A || b == 0x09 || b == 0x0D

/-- The input from the first byte that is no blank. -/
def skipBlanks (input : Bytes) : Bytes := input.dropWhile isBlank

/-- Reads the rest of an identifier. -/
def identifier : List Char → Bytes → Except Stop Bytes
  | [], rest => .ok rest
  | _ :: _, [] => .error (.here .endInValue [])
  | c :: word, b :: rest =>
    if b = c.toUInt8 then identifier word rest else .error (.here .noIdentifier rest)

/-! ## Strings -/

/-- The number that four hexadecimal digits write. -/
def hexQuad? (a b c d : UInt8) : Option Nat := do
  return (((← Text.hexValue? a) * 16 + (← Text.hexValue? b)) * 16 + (← Text.hexValue? c)) * 16 +
    (← Text.hexValue? d)

/-- The byte that an escape of two characters stands for. -/
def shortEscape? (b : UInt8) : Option UInt8 :=
  if b = '"'.toUInt8 then some '"'.toUInt8
  else if b = '\\'.toUInt8 then some '\\'.toUInt8
  else if b = '/'.toUInt8 then some '/'.toUInt8
  else if b = 'b'.toUInt8 then some 0x08
  else if b = 'f'.toUInt8 then some 0x0C
  else if b = 'n'.toUInt8 then some 0x0A
  else if b = 'r'.toUInt8 then some 0x0D
  else if b = 't'.toUInt8 then some 0x09
  else none

/-- The first half of a surrogate pair. -/
def isHighSurrogate (n : Nat) : Bool := 0xD800 ≤ n && n ≤ 0xDBFF

/-- The second half of a surrogate pair. -/
def isLowSurrogate (n : Nat) : Bool := 0xDC00 ≤ n && n ≤ 0xDFFF

/-- The code point of a surrogate pair. -/
def pairValue (high low : Nat) : Nat := (high - 0xD800) * 1024 + (low - 0xDC00) + 0x10000

/-- Puts the bytes of a code point before the ones read so far, which stand in reverse. -/
def pushCodePoint (n : Nat) (done : Bytes) : Bytes :=
  (Utf8.encodeChar (Char.ofNat n)).reverse ++ done

/-- Reads a string up to its closing quote with the escapes resolved. `done` are the
bytes so far in reverse. -/
def stringBytes (done : Bytes) : Bytes → Except Stop (Bytes × Bytes)
  | [] => .error (.here .endInString [])
  | b :: rest =>
    if b = '"'.toUInt8 then .ok (done.reverse, rest)
    else if b = '\\'.toUInt8 then
      match rest with
      | [] => .error (.here .endInString [])
      | e :: rest =>
        match shortEscape? e with
        | some c => stringBytes (c :: done) rest
        | none =>
          if e = 'u'.toUInt8 then
            match rest with
            | h1 :: h2 :: h3 :: h4 :: rest =>
              match hexQuad? h1 h2 h3 h4 with
              | none => .error (.here .invalidEscape rest)
              | some n =>
                if isLowSurrogate n then .error (.here .loneSurrogate rest)
                else if isHighSurrogate n then
                  match rest with
                  | [] => .error (.here .endInString [])
                  | s :: rest =>
                    if s = '\\'.toUInt8 then
                      match rest with
                      | [] => .error (.here .endInString [])
                      | u :: rest =>
                        if u = 'u'.toUInt8 then
                          match rest with
                          | l1 :: l2 :: l3 :: l4 :: rest =>
                            match hexQuad? l1 l2 l3 l4 with
                            | none => .error (.here .invalidEscape rest)
                            | some m =>
                              if isLowSurrogate m then
                                stringBytes (pushCodePoint (pairValue n m) done) rest
                              else .error (.here .loneSurrogate rest)
                          | _ => .error (.here .endInString [])
                        else .error (.here .unpairedSurrogate rest)
                    else .error (.here .unpairedSurrogate rest)
                else stringBytes (pushCodePoint n done) rest
            | _ => .error (.here .endInString [])
          else .error (.here .invalidEscape rest)
    else if b < 0x20 then .error (.here .controlCharacter rest)
    else stringBytes (b :: done) rest

/-- Reads a string after its opening quote. -/
def stringBody (input : Bytes) : Except Stop (String × Bytes) := do
  let (content, rest) ← stringBytes [] input
  match Utf8.decode content with
  | .ok text => .ok (String.ofList text, rest)
  | .error fault => .error ⟨.invalidCodePoint, rest.length, content.length - fault.valid⟩

/-! ## Lists and objects -/

/-- Reads items, each followed by a comma or the closing bracket. `done` are the items so
far in reverse; `fuel` is at least the number of bytes, of which every item takes one. -/
def listItems (item : Bytes → Except Stop (Json × Bytes)) :
    Nat → List Json → Bytes → Except Stop (List Json × Bytes)
  | 0, _, input => .error (.atNext .endInList input)
  | fuel + 1, done, input => do
    let (x, rest) ← item input
    match skipBlanks rest with
    | [] => .error (.atNext .endInList [])
    | b :: rest =>
      if b = ']'.toUInt8 then .ok ((x :: done).reverse, rest)
      else if b = ','.toUInt8 then
        match skipBlanks rest with
        | [] => .error (.atNext .endInValue [])
        | c :: more =>
          if c = ']'.toUInt8 then .error (.atNext .trailingComma (c :: more))
          else listItems item fuel (x :: done) (c :: more)
      else .error (.atNext .noListSeparator (b :: rest))

/-- Reads a list after its opening bracket. -/
def listBody (item : Bytes → Except Stop (Json × Bytes)) (input : Bytes) :
    Except Stop (Json × Bytes) :=
  match skipBlanks input with
  | [] => .error (.atNext .endInList [])
  | b :: rest =>
    if b = ']'.toUInt8 then .ok (.array [], rest)
    else do
      let (items, rest) ← listItems item (rest.length + 1) [] (b :: rest)
      .ok (.array items, rest)

/-- Reads the colon after a key, and the blanks around it. -/
def colon (input : Bytes) : Except Stop Bytes :=
  match skipBlanks input with
  | [] => .error (.atNext .endInObject [])
  | b :: rest =>
    if b = ':'.toUInt8 then .ok rest else .error (.atNext .noColon (b :: rest))

/-- Reads members, each followed by a comma or the closing brace, from the opening quote
of the first key. `done` are the members so far in reverse. -/
def objectMembers (item : Bytes → Except Stop (Json × Bytes)) :
    Nat → List (String × Json) → Bytes → Except Stop (List (String × Json) × Bytes)
  | 0, _, input => .error (.atNext .endInObject input)
  | _ + 1, _, [] => .error (.atNext .endInObject [])
  | fuel + 1, done, q :: input => do
    if q = '"'.toUInt8 then
      let (key, rest) ← stringBody input
      let rest ← colon rest
      let (x, rest) ← item rest
      match skipBlanks rest with
      | [] => .error (.atNext .endInObject [])
      | b :: rest =>
        if b = '\x7d'.toUInt8 then .ok (((key, x) :: done).reverse, rest)
        else if b = ','.toUInt8 then
          match skipBlanks rest with
          | [] => .error (.atNext .endInValue [])
          | c :: more =>
            if c = '\x7d'.toUInt8 then .error (.atNext .trailingComma (c :: more))
            else objectMembers item fuel ((key, x) :: done) (c :: more)
        else .error (.atNext .noObjectSeparator (b :: rest))
    else .error (.atNext .keyNotString (q :: input))

/-- Reads an object after its opening brace. -/
def objectBody (item : Bytes → Except Stop (Json × Bytes)) (input : Bytes) :
    Except Stop (Json × Bytes) :=
  match skipBlanks input with
  | [] => .error (.atNext .endInObject [])
  | b :: rest =>
    if b = '\x7d'.toUInt8 then .ok (.object [], rest)
    else do
      let (members, rest) ← objectMembers item (rest.length + 1) [] (b :: rest)
      .ok (ofMembers members, rest)

/-! ## Values -/

/-- Reads a value after blanks, given how to read a list or an object from its bracket. -/
def valueWith (list object : Bytes → Except Stop (Json × Bytes)) (input : Bytes) :
    Except Stop (Json × Bytes) :=
  match skipBlanks input with
  | [] => .error (.atNext .endInValue [])
  | b :: rest =>
    if b = '\x7b'.toUInt8 then object (b :: rest)
    else if b = '['.toUInt8 then list (b :: rest)
    else if b = '"'.toUInt8 then do
      let (s, rest) ← stringBody rest
      .ok (.string s, rest)
    else if b = '-'.toUInt8 then do
      let (n, rest) ← numeral true rest
      .ok (.number n, rest)
    else if isDigit b then do
      let (n, rest) ← numeral false (b :: rest)
      .ok (.number n, rest)
    else if b = 'n'.toUInt8 then do
      let rest ← identifier ['u', 'l', 'l'] rest
      .ok (.null, rest)
    else if b = 't'.toUInt8 then do
      let rest ← identifier ['r', 'u', 'e'] rest
      .ok (.bool true, rest)
    else if b = 'f'.toUInt8 then do
      let rest ← identifier ['a', 'l', 's', 'e'] rest
      .ok (.bool false, rest)
    else .error (.atNext .noValue (b :: rest))

/-- Reads a value in which lists and objects nest at most `depth` deep. -/
def value : Nat → Bytes → Except Stop (Json × Bytes)
  | 0, input =>
    let refuse (at_ : Bytes) := .error (.atNext .tooDeep at_)
    valueWith refuse refuse input
  | depth + 1, input =>
    valueWith (fun at_ => listBody (value depth) at_.tail)
      (fun at_ => objectBody (value depth) at_.tail) input

/-- Reads a text that is one value and nothing else. -/
def document (input : Bytes) : Except Stop Json := do
  let (x, rest) ← value maxDepth input
  match skipBlanks rest with
  | [] => .ok x
  | b :: rest => .error (.atNext .trailingCharacters (b :: rest))

/-- The value that a text writes, or what is wrong with the text and where. -/
def parse (input : Bytes) : Except SyntaxError Json :=
  match document input with
  | .ok x => .ok x
  | .error stop => .error (stop.locate input)

end LspClient.Json
