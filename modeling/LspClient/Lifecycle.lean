/-!
# The lifecycle of a session

A session starts out connecting, is ready while it has a connection, is degraded while
it looks for a new one, and ends closed. `Lifecycle.canMoveTo` is the whole of what may
follow what; nothing follows `closed`.
-/

namespace LspClient

/-- Where a session is in its life. -/
inductive Lifecycle where
  | connecting
  | ready
  /-- The connection was lost and a new one is being looked for. -/
  | degraded
  | closed
  deriving DecidableEq, Repr

namespace Lifecycle

/-- The state as messages show it. -/
def label : Lifecycle → String
  | .connecting => "connecting"
  | .ready => "ready"
  | .degraded => "degraded"
  | .closed => "closed"

/-- The state as a session's description shows it. -/
def name : Lifecycle → String
  | .connecting => "Connecting"
  | .ready => "Ready"
  | .degraded => "Degraded"
  | .closed => "Closed"

/-- All states. -/
def all : List Lifecycle := [.connecting, .ready, .degraded, .closed]

/-- The state with this label. -/
def ofLabel? (label : String) : Option Lifecycle := all.find? (·.label == label)

/-- Nothing follows this state. -/
def isTerminal : Lifecycle → Bool
  | .closed => true
  | _ => false

/-- Whether the second state may follow the first one. -/
def canMoveTo : Lifecycle → Lifecycle → Bool
  | .connecting, .ready => true
  | .connecting, .closed => true
  | .ready, .degraded => true
  | .ready, .closed => true
  | .degraded, .ready => true
  | .degraded, .closed => true
  | _, _ => false

/-- The states that may follow. -/
def next (s : Lifecycle) : List Lifecycle := all.filter s.canMoveTo

/-- A session can be closed unless it is. -/
theorem canMoveTo_closed_iff (s : Lifecycle) : s.canMoveTo .closed = true ↔ s ≠ .closed := by
  cases s <;> decide

end Lifecycle

end LspClient
