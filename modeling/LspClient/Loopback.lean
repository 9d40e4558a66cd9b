import LspClient.Clock
import LspClient.Error
import LspClient.Framing.Reader
import LspClient.Framing.Writer

/-!
# A server end in the same process

A loopback stands in for a server: it accepts the connections that a session opens, hands
out the other end of each as a `Peer`, and can make opening fail or hang. Its connections
carry whole messages, or a stream of bytes in which messages are framed and of which only
so many bytes may be under way in either direction.
-/

namespace LspClient

/-- What the connections of a loopback carry. -/
inductive Medium where
  /-- Whole messages, any number of them under way. -/
  | messages
  /-- Framed bytes, at most `capacity` of them under way in either direction. -/
  | stream (capacity : Nat)
  deriving DecidableEq, Repr

namespace Medium

/-- How an endpoint of this medium is named. -/
def endpoint : Medium → String
  | .messages => "memory://"
  | .stream _ => "framed://"

/-- The reason for a refused attempt. -/
def refusal (attempt : Nat) : Medium → String
  | .messages => "connection refused (attempt " ++ toString attempt ++ ")"
  | .stream _ => "refused " ++ toString attempt

/-- The reason for an attempt when the server has gone. -/
def absence : Medium → String
  | .messages => "memory server is gone"
  | .stream _ => "server is gone"

/-- A message as it goes over the medium. -/
def wrap : Medium → Bytes → Bytes
  | .messages, body => body
  | .stream _, body => Framing.frame body

/-- What was read at once from the peer `number`: of a stream all bytes in one piece, and
whether its end was reached. -/
def joined (number : Nat) (pieces : List (Option Bytes)) : List (Nat × Option Bytes) :=
  let data := (pieces.filterMap id).flatten
  (if data.isEmpty then [] else [(number, some data)]) ++
    (if pieces.contains none then [(number, none)] else [])

/-- What was read from several peers, by the number of the peer. -/
def arranged (m : Medium) (pieces : List (Nat × Option Bytes)) : List (Nat × Option Bytes) :=
  let sorted := pieces.mergeSort fun a b => decide (a.1 ≤ b.1)
  match m with
  | .messages => sorted
  | .stream _ =>
    (sorted.map Prod.fst).eraseDups.flatMap fun number =>
      joined number ((sorted.filter (·.1 = number)).map Prod.snd)

/-- What writing to a server fails with that has dropped its end. -/
def brokenWrite : Medium → SendError
  | .messages => .closed
  | .stream _ => .io "writing frame: broken pipe"

end Medium

/-- One connection, seen from the server's end. -/
structure Peer where
  /-- What the client sent and the server has not read, the oldest piece first. -/
  toServer : List Bytes := []
  /-- What the server sent and the client has not read, the oldest piece first. -/
  toClient : List Bytes := []
  /-- The server has dropped its end. -/
  isGone : Bool := false
  /-- The server does not read for the time being. -/
  isPaused : Bool := false
  /-- The client sends nothing any more. -/
  isClosed : Bool := false
  /-- The client reads nothing any more. -/
  isUnheard : Bool := false
  /-- The server has seen that the client sends nothing any more. -/
  sawClose : Bool := false

namespace Peer

/-- The bytes under way to the server. -/
def underWay (p : Peer) : Nat := (p.toServer.map List.length).sum

/-- The room for bytes to the server, if it is bounded. -/
def room? (p : Peer) : Medium → Option Nat
  | .messages => none
  | .stream capacity => some (capacity - p.underWay)

/-- Whether a write would come to something: it fails, or some of it goes through. -/
def canWrite (p : Peer) (medium : Medium) : Bool := p.isGone || p.room? medium != some 0

/-- Writes as much as there is room for, and gives what is left. -/
def write (p : Peer) (medium : Medium) (data : Bytes) : Except SendError (Peer × Bytes) :=
  if p.isGone then .error medium.brokenWrite
  else
    match p.room? medium with
    | none => .ok ({ p with toServer := p.toServer ++ [data] }, [])
    | some room => .ok ({ p with toServer := p.toServer ++ [data.take room] }, data.drop room)

/-- What reading from the server's end gives. -/
inductive Incoming where
  | nothing
  | message (body : Bytes)
  | ended
  | broken (error : TransportError)

/-- The bytes under way to the client. -/
def incoming (p : Peer) : Bytes :=
  match p.toClient with
  | [data] => data
  | pieces => pieces.flatten

theorem incoming_eq_flatten (p : Peer) : p.incoming = p.toClient.flatten := by
  unfold incoming
  split <;> simp_all

/-- Reads the next message that the server sent, once it is there as a whole. -/
def read (p : Peer) : Medium → Peer × Incoming
  | .messages =>
    match p.toClient with
    | body :: rest => ({ p with toClient := rest }, .message body)
    | [] => (p, if p.isGone then .ended else .nothing)
  | .stream _ =>
    match Framing.readFrame p.isGone p.incoming with
    | .more => (p, .nothing)
    | .done => (p, .ended)
    | .frame body rest => ({ p with toClient := [rest] }, .message body)
    | .failed e rest => ({ p with toClient := [rest] }, .broken ⟨e.message⟩)

/-- Whether reading would come to something. -/
def canRead (p : Peer) (medium : Medium) : Bool :=
  match (p.read medium).2 with
  | .nothing => false
  | _ => true

/-- The server sends a piece of data. Nobody reads it if the client has stopped reading. -/
def send (p : Peer) (data : Bytes) : Peer :=
  if p.isUnheard then p else { p with toClient := p.toClient ++ [data] }

/-- How many bytes at least the client has to be sent until it can go on reading. -/
def wanted (p : Peer) : Nat := Framing.wanted p.incoming

/-- The client stops reading. -/
def unhear (p : Peer) : Peer := { p with isUnheard := true, toClient := [] }

/-- The client stops sending. -/
def close (p : Peer) : Peer := { p with isClosed := true }

/-- The server drops its end. -/
def leave (p : Peer) : Peer := { p with isGone := true, toServer := [] }

/-- What the server reads in one go: pieces of data, and once the end of them. -/
def collect (p : Peer) : Peer × List (Option Bytes) :=
  if p.isGone || p.isPaused then (p, [])
  else
    let seesClose := p.isClosed && !p.sawClose
    ({ p with toServer := [], sawClose := p.sawClose || p.isClosed },
      p.toServer.map some ++ if seesClose then [none] else [])

end Peer

/-- The server end: how it treats attempts to connect, and the peers accepted so far. -/
structure Loopback where
  medium : Medium := .messages
  peers : List Peer := []
  /-- The attempts made so far, successful or not. -/
  attempts : Nat := 0
  /-- How many of the next attempts fail. -/
  failures : Nat := 0
  /-- Every attempt fails. -/
  isRefusing : Bool := false
  /-- Attempts that begin hang. -/
  isStalled : Bool := false
  /-- The server has gone; the peers stay. -/
  isGone : Bool := false
  /-- How many milliseconds an attempt takes. -/
  delay : Nat := 0

namespace Loopback

/-- The peer of a connection. -/
def peer? (l : Loopback) (index : Nat) : Option Peer := l.peers[index]?

/-- Changes one peer. -/
def modifyPeer (l : Loopback) (index : Nat) (change : Peer → Peer) : Loopback :=
  { l with peers := l.peers.modify index change }

/-- The server disappears. -/
def leave (l : Loopback) : Loopback := { l with isGone := true }

/-- So many of the next attempts that are not refused fail, whatever is left of an earlier
number. -/
def failNext (l : Loopback) (count : Nat) : Loopback := { l with failures := count }

/-- Every attempt is refused from now on, or none any more. -/
def refuse (l : Loopback) (isOn : Bool) : Loopback := { l with isRefusing := isOn }

/-- Attempts that begin hang from now on, or do so no more. -/
def stall (l : Loopback) (isOn : Bool) : Loopback := { l with isStalled := isOn }

/-- An attempt begins. It is counted, and it hangs for ever if attempts are stalled; else
it goes on at the time given back. -/
def beginOpen (l : Loopback) (now : Nat) : Loopback × Option Nat :=
  ({ l with attempts := l.attempts + 1 }, if l.isStalled then none else some (Clock.due now l.delay))

/-- Whether the next attempt that goes on fails, and what is left of the failures asked
for. A refused attempt uses none of them up. -/
def takeFailure (l : Loopback) : Bool × Loopback :=
  if l.isRefusing then (true, l)
  else if 0 < l.failures then (true, { l with failures := l.failures - 1 })
  else (false, l)

/-- An attempt goes on: it fails, or the server accepts a new peer. -/
def finishOpen (l : Loopback) (attempt : Nat) : Loopback × Except ConnectError Nat :=
  match l.takeFailure with
  | (true, l) => (l, .error (.failed (l.medium.refusal attempt)))
  | (false, l) =>
    if l.isGone then (l, .error (.failed l.medium.absence))
    else ({ l with peers := l.peers ++ [{}] }, .ok l.peers.length)

/-- The server reads what has arrived: the data with the number of its peer, and `none`
where a client has closed. -/
def collect (l : Loopback) : Loopback × List (Nat × Option Bytes) :=
  let read := l.peers.map Peer.collect
  ({ l with peers := read.map Prod.fst },
    read.zipIdx.flatMap fun (entry, index) => entry.2.map fun item => (index, item))

end Loopback

end LspClient
