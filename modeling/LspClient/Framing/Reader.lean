import LspClient.Framing.Header

/-!
# Reading frames

`readFrame` takes the next frame body off a stream. The stream may still grow: as long as
it has not ended, a header or a body that is not all there yet gives `more`, and nothing
is taken. Once the stream has ended the reader always comes to a decision, and what it
leaves unread is part of the answer, so that reading can go on after an error.
-/

namespace LspClient.Framing

/-- What a read leads to. -/
inductive ReadResult where
  /-- A frame, and what follows it. -/
  | frame (body rest : Bytes)
  /-- The stream has ended between frames. -/
  | done
  /-- There is no frame here; `rest` is what follows the bytes that were looked at. -/
  | failed (error : FramingError) (rest : Bytes)
  /-- The stream has to grow first. -/
  | more

/-- What reading a header leads to. -/
inductive HeaderResult where
  /-- The length of the body, and what follows the header. -/
  | complete (length : Nat) (rest : Bytes)
  | done
  | failed (error : FramingError) (rest : Bytes)
  | more

/-- Whether more bytes could still change the line that was taken. -/
def lineIsOpen (ended : Bool) (budget : Nat) (line : Bytes) : Bool :=
  !ended && line.length < budget && line.getLast? != some newline

/-- Reads header lines up to the empty one. The lines before had the bytes that `budget`
lacks to one more than the longest header, and gave `length`. -/
def readHeader (ended : Bool) (budget : Nat) (length : Option Nat) (input : Bytes) :
    HeaderResult :=
  let taken := takeLine budget input
  let line := taken.1
  let rest := taken.2
  if lineIsOpen ended budget line then .more
  else
    match Utf8.decode line with
    | .error fault => .failed (.headerNotText fault) rest
    | .ok text =>
      if _h : line = [] then
        if budget = maxHeaderBytes + 1 then .done else .failed .endInHeader rest
      else if _h' : budget ≤ line.length then .failed .headerTooLong rest
      else if line.getLast? ≠ some newline then .failed .endInHeader rest
      else
        match stripLineEnd text with
        | [] =>
          match length with
          | some n => .complete n rest
          | none => .failed .missingLength rest
        | stripped =>
          match headerLine length stripped with
          | .error e => .failed e rest
          | .ok length => readHeader ended (budget - line.length) length rest
termination_by budget
decreasing_by
  have : 0 < (takeLine budget input).1.length := List.length_pos_iff.2 _h
  omega

/-- Splits `n` bytes off the input, if it has that many. -/
def splitBody (n : Nat) (input : Bytes) : Option (Bytes × Bytes) :=
  let body := input.take n
  if body.length = n then some (body, input.drop n) else none

/-- Takes the next frame off a stream that has ended or may still grow. -/
def readFrame (ended : Bool) (input : Bytes) : ReadResult :=
  match readHeader ended (maxHeaderBytes + 1) none input with
  | .done => .done
  | .more => .more
  | .failed e rest => .failed e rest
  | .complete length rest =>
    if maxFrameBytes < length then .failed (.frameTooLong length) rest
    else
      match splitBody length rest with
      | some (body, rest) => .frame body rest
      | none => if ended then .failed (.endInBody length) [] else .more

/-- How many bytes at least have to follow before a read that gives `more` can give
something else. -/
def wanted (input : Bytes) : Nat :=
  match readHeader false (maxHeaderBytes + 1) none input with
  | .complete length rest => length - rest.length
  | _ => 1

/-! ## Reading again and again -/

/-- One answer of a reader. -/
inductive ReadStep where
  | frame (body : Bytes)
  | done
  | failed (error : FramingError)

/-- Reads once from a stream that has ended. Gives the answer and what is left. -/
def readStep (input : Bytes) : ReadStep × Bytes :=
  match readFrame true input with
  | .frame body rest => (.frame body, rest)
  | .done => (.done, [])
  | .failed e rest => (.failed e, rest)
  | .more => (.done, [])

/-- The answers of `count` reads in a row, which go on after an error. -/
def readTimes : Nat → Bytes → List ReadStep
  | 0, _ => []
  | count + 1, input =>
    let (step, rest) := readStep input
    step :: readTimes count rest

/-- The answers up to the first one that is no frame; `fuel` bounds their number. -/
def readUntilEnd : Nat → Bytes → List ReadStep
  | 0, _ => []
  | fuel + 1, input =>
    match readStep input with
    | (.frame body, rest) => .frame body :: readUntilEnd fuel rest
    | (step, _) => [step]

/-- The answers of a reader that stops at the end of the stream or at the first error.
Every frame takes a byte, so there are at most as many frames as bytes. -/
def readAll (input : Bytes) : List ReadStep := readUntilEnd (input.length + 1) input

end LspClient.Framing
