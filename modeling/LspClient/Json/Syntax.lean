import LspClient.Text.Utf8

/-!
# Faults in JSON text

What can be wrong with a text, and where a message says it is. A fault is met at a point
of the input, given by the number of bytes that follow it; lines count from one, and the
column is the number of bytes between the last line end before the point and the point.
-/

namespace LspClient.Json

/-- What is wrong with a text. -/
inductive SyntaxFault where
  | endInValue
  | endInList
  | endInObject
  | endInString
  | noValue
  | noIdentifier
  | noListSeparator
  | noObjectSeparator
  | noColon
  | keyNotString
  | trailingComma
  | trailingCharacters
  | tooDeep
  | invalidNumber
  | numberOutOfRange
  | controlCharacter
  | invalidEscape
  | loneSurrogate
  | unpairedSurrogate
  | invalidCodePoint
  deriving Repr, DecidableEq

/-- The wording of a fault. -/
def SyntaxFault.message : SyntaxFault → String
  | .endInValue => "EOF while parsing a value"
  | .endInList => "EOF while parsing a list"
  | .endInObject => "EOF while parsing an object"
  | .endInString => "EOF while parsing a string"
  | .noValue => "expected value"
  | .noIdentifier => "expected ident"
  | .noListSeparator => "expected `,` or `]`"
  | .noObjectSeparator => "expected `,` or `\x7d`"
  | .noColon => "expected `:`"
  | .keyNotString => "key must be a string"
  | .trailingComma => "trailing comma"
  | .trailingCharacters => "trailing characters"
  | .tooDeep => "recursion limit exceeded"
  | .invalidNumber => "invalid number"
  | .numberOutOfRange => "number out of range"
  | .controlCharacter => "control character (\\u0000-\\u001F) found while parsing a string"
  | .invalidEscape => "invalid escape"
  | .loneSurrogate => "lone leading surrogate in hex escape"
  | .unpairedSurrogate => "unexpected end of hex escape"
  | .invalidCodePoint => "invalid unicode code point"

/-- A fault at the point with `unread` bytes after it, shown `back` columns further left. -/
structure Stop where
  fault : SyntaxFault
  unread : Nat
  back : Nat := 0
  deriving Repr, DecidableEq

/-- A fault at the bytes read so far; `rest` is what follows them. -/
def Stop.here (fault : SyntaxFault) (rest : Bytes) : Stop where
  fault := fault
  unread := rest.length

/-- A fault of the next byte, which is looked at and counted but not read. -/
def Stop.atNext (fault : SyntaxFault) (rest : Bytes) : Stop where
  fault := fault
  unread := rest.length - 1

/-- A fault with its place in the text. -/
structure SyntaxError where
  fault : SyntaxFault
  line : Nat
  column : Nat
  deriving Repr, DecidableEq

/-- The byte that ends a line. -/
def lineEnd : UInt8 := 0x0A

/-- The place of a stop in the input it was met in. -/
def Stop.locate (stop : Stop) (input : Bytes) : SyntaxError :=
  let before := input.take (input.length - stop.unread)
  { fault := stop.fault
    line := before.count lineEnd + 1
    column := (before.reverse.takeWhile (· != lineEnd)).length - stop.back }

/-- The message of a fault with its place. -/
def SyntaxError.message (e : SyntaxError) : String :=
  e.fault.message ++ " at line " ++ toString e.line ++ " column " ++ toString e.column

end LspClient.Json
