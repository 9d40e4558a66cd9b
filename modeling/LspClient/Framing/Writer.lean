import LspClient.Framing.Header

/-!
# Writing frames

`frame` is the one written form of a body: its length in a header line, an empty line,
and the body. `Sink` is a place to write to with room for a number of bytes, which fails
when it is full; `writeFrame` and `shutdown` say which part of the work failed.
-/

namespace LspClient.Framing

/-- The header of a body with `length` bytes. -/
def header (length : Nat) : Bytes :=
  Utf8.encode (lengthName.toList ++ ':' :: ' ' :: Nat.toDigits 10 length ++ ['\r', '\n', '\r', '\n'])

/-- The written form of a body. -/
def frame (body : Bytes) : Bytes := header body.length ++ body

/-- What a sink refuses. -/
inductive SinkError where
  | full
  | flushRefused
  | alreadyShutDown
  deriving DecidableEq, Repr

/-- The wording of a sink's refusal. -/
def SinkError.message : SinkError → String
  | .full => "disk on fire"
  | .flushRefused => "flush refused"
  | .alreadyShutDown => "already shut down"

/-- Which part of the work with a sink failed. -/
inductive WriteError where
  | writing (cause : SinkError)
  | flushing (cause : SinkError)
  | shuttingDown (cause : SinkError)
  deriving DecidableEq, Repr

/-- The wording of a write error. -/
def WriteError.message : WriteError → String
  | .writing cause => "writing frame: " ++ cause.message
  | .flushing cause => "flushing frame: " ++ cause.message
  | .shuttingDown cause => "shutting down writer: " ++ cause.message

/-- A place to write to. Without a bound on its room it never fills up. -/
structure Sink where
  /-- The bytes written so far, the last write first. -/
  writes : List Bytes := []
  /-- How many bytes still fit. -/
  room : Option Nat := none
  isShutDown : Bool := false

namespace Sink

/-- What was written, in order. -/
def contents (sink : Sink) : Bytes := sink.writes.reverse.flatten

/-- Writes as much of `data` as fits; it is an error if that is not all. -/
def write (sink : Sink) (data : Bytes) : Sink × Except SinkError Unit :=
  match sink.room with
  | none => ({ sink with writes := data :: sink.writes }, .ok ())
  | some room =>
    let sink := { sink with writes := data.take room :: sink.writes, room := some (room - data.length) }
    (sink, if data.length ≤ room then .ok () else .error .full)

/-- Passes on what was written; a full sink refuses. -/
def flush (sink : Sink) : Except SinkError Unit :=
  if sink.room = some 0 then .error .flushRefused else .ok ()

/-- Writes a body as one frame and flushes it. -/
def writeFrame (sink : Sink) (body : Bytes) : Sink × Except WriteError Unit :=
  match sink.write (frame body) with
  | (sink, .error e) => (sink, .error (.writing e))
  | (sink, .ok ()) => (sink, sink.flush.mapError .flushing)

/-- Shuts the sink down, which works once. -/
def shutdown (sink : Sink) : Sink × Except WriteError Unit :=
  if sink.isShutDown then (sink, .error (.shuttingDown .alreadyShutDown))
  else ({ sink with isShutDown := true }, .ok ())

end Sink

end LspClient.Framing
