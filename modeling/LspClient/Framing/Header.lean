import LspClient.Decimal.Natural
import LspClient.Text.Blank
import LspClient.Text.Quoted
import LspClient.Text.Utf8

/-!
# Frame headers

Every frame starts with header lines, ended by an empty line. A line is a name and a
value with a colon between them; `Content-Length` in any case gives the length of the
body, and all other names are skipped. A header may have at most `maxHeaderBytes` bytes.
-/

namespace LspClient.Framing

/-- The longest body that is accepted. -/
def maxFrameBytes : Nat := 4 * 1024 * 1024

/-- The longest header that is accepted. -/
def maxHeaderBytes : Nat := 8 * 1024

/-- The name of the header line that gives the length of the body. -/
def lengthName : String := "Content-Length"

/-- Why a stream holds no frame. -/
inductive FramingError where
  | endInHeader
  | endInBody (length : Nat)
  | headerTooLong
  | headerNotText (fault : Utf8.Fault)
  | malformedLine (line : String)
  | invalidLength (value : String) (fault : Decimal.NaturalFault)
  | conflictingLengths (first second : Nat)
  | missingLength
  | frameTooLong (length : Nat)
  deriving DecidableEq, Repr

/-- The wording of a framing error. -/
def FramingError.message : FramingError → String
  | .endInHeader => "stream ended inside a frame header"
  | .endInBody length => "reading " ++ toString length ++ " byte frame body: early eof"
  | .headerTooLong => "frame header exceeds " ++ toString maxHeaderBytes ++ " bytes"
  | .headerNotText fault => "reading frame header: " ++ fault.message
  | .malformedLine line => "malformed header line " ++ Text.quote line
  | .invalidLength value fault =>
    "invalid " ++ lengthName ++ " " ++ Text.quote value ++ ": " ++ fault.message
  | .conflictingLengths first second =>
    "conflicting " ++ lengthName ++ " headers: " ++ toString first ++ " and " ++ toString second
  | .missingLength => "frame header has no " ++ lengthName
  | .frameTooLong length =>
    "frame of " ++ toString length ++ " bytes exceeds the " ++ toString maxFrameBytes ++
      " byte limit"

/-- The byte that ends a line. -/
def newline : UInt8 := 0x0A

/-- The first line of the input with its newline, cut off after `budget` bytes, and what
follows it. -/
def takeLine : Nat → Bytes → Bytes × Bytes
  | 0, input => ([], input)
  | _ + 1, [] => ([], [])
  | budget + 1, b :: rest =>
    if b = newline then ([b], rest)
    else
      let (line, left) := takeLine budget rest
      (b :: line, left)

/-- Nothing of the input is lost. -/
theorem takeLine_append (budget : Nat) (input : Bytes) :
    (takeLine budget input).1 ++ (takeLine budget input).2 = input := by
  fun_induction takeLine budget input with
  | case1 => rfl
  | case2 => rfl
  | case3 => rfl
  | case4 budget b rest h line left heq ih => simp [heq] at ih; simp [ih]

/-- A line without the line end characters at its end. -/
def stripLineEnd (line : List Char) : List Char :=
  Text.dropEnd (fun c => c = '\r' || c = '\n') line

/-- The part before the first colon and the part after it. -/
def splitAtColon (line : List Char) : Option (List Char × List Char) :=
  match line.dropWhile (· != ':') with
  | [] => none
  | _ :: value => some (line.takeWhile (· != ':'), value)

/-- Whether a header line of this name gives the length of the body. -/
def isLengthName (name : List Char) : Bool :=
  (Text.trim name).map Char.toLower = lengthName.toList.map Char.toLower

/-- Takes one header line, without its line end, into the length known so far. -/
def headerLine (length : Option Nat) (line : List Char) : Except FramingError (Option Nat) :=
  match splitAtColon line with
  | none => .error (.malformedLine (String.ofList line))
  | some (name, value) =>
    if isLengthName name then
      match Decimal.natural (Text.trim value) with
      | .error fault => .error (.invalidLength (String.ofList (Text.trim value)) fault)
      | .ok n =>
        match length with
        | none => .ok (some n)
        | some m => if m = n then .ok (some m) else .error (.conflictingLengths m n)
    else .ok length

end LspClient.Framing
