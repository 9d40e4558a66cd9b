import LspClient.Log
import LspClient.Rpc.Envelope

/-!
# Routing what the server starts

One handler a method: registering a method again replaces the handler, whatever its kind.
A request handler does its work in its own time and gives the reply. A notification
handler runs at once, which keeps notifications in the order of their arrival. A handler
that crashes is contained: its request is answered with an internal error, its
notification is dropped. Only a request handler that crashes while it is being called,
before there is any work to wait for, takes its reply with it.
-/

namespace LspClient

/-- A handler gave up; it may have said why. -/
structure Crash where
  reason? : Option String
  deriving DecidableEq, Repr

/-- What messages say about a crash. -/
def Crash.reason (c : Crash) : String := c.reason?.getD "non-string panic payload"

/-- How the work on a request ends. -/
inductive Ending where
  | answered (outcome : RpcOutcome)
  | crashed (crash : Crash)

/-- What calling a request handler gives. -/
inductive Work where
  /-- Work that takes this many milliseconds. -/
  | running (millis : Nat) (ending : Ending)
  /-- The call itself crashed, so there is no work. -/
  | crashed (crash : Crash)

/-- What running a notification handler does: it may log, and it may crash after that. -/
structure NotificationRun where
  records : List LogRecord := []
  crash? : Option Crash := none

/-- A handler of what the server sends, as a function of the parameters. -/
inductive Handler where
  | request (call : Option Json → Work)
  | notification (run : Option Json → NotificationRun)

/-- The two kinds of messages that have handlers. -/
inductive HandlerKind where
  | request
  | notification
  deriving DecidableEq, Repr

/-- The kind of messages that a handler is for. -/
def Handler.kind : Handler → HandlerKind
  | .request _ => .request
  | .notification _ => .notification

/-- One call of a handler. -/
structure Invocation where
  kind : HandlerKind
  method : String
  params : Option Json

/-- The handlers by method, each method once. -/
structure Dispatcher where
  handlers : List (String × Handler) := []

namespace Dispatcher

/-- The handler of a method. -/
def find? (d : Dispatcher) (method : String) : Option Handler :=
  d.handlers.lookup method

/-- Whether a method has a handler. -/
def contains (d : Dispatcher) (method : String) : Bool := (d.find? method).isSome

/-- The registry without a handler for this method. -/
def erase (d : Dispatcher) (method : String) : Dispatcher :=
  ⟨d.handlers.filter (·.1 != method)⟩

/-- The registry with this handler as the only one for the method. -/
def insert (d : Dispatcher) (method : String) (handler : Handler) : Dispatcher :=
  ⟨(method, handler) :: (d.erase method).handlers⟩

/-- Registers a handler for a method; also tells whether it replaces one, of whatever kind. -/
def register (d : Dispatcher) (method : String) (handler : Handler) : Dispatcher × Bool :=
  (d.insert method handler, d.contains method)

/-- Removes the handler of a method; also tells whether there was one. -/
def remove (d : Dispatcher) (method : String) : Dispatcher × Bool :=
  (d.erase method, d.contains method)

private theorem lookup_filter_ne_self {α : Type} (method : String) (l : List (String × α)) :
    (l.filter (·.1 != method)).lookup method = none := by
  induction l with
  | nil => rfl
  | cons entry rest ih =>
    rw [List.filter_cons]
    split
    · next kept =>
      have apart : (method == entry.1) = false := by
        rw [beq_eq_false_iff_ne]
        intro same
        rw [same] at kept
        simp at kept
      rw [List.lookup_cons, apart]
      exact ih
    · exact ih

private theorem lookup_filter_ne_of_ne {α : Type} {method other : String} (h : other ≠ method)
    (l : List (String × α)) : (l.filter (·.1 != method)).lookup other = l.lookup other := by
  induction l with
  | nil => rfl
  | cons entry rest ih =>
    rw [List.filter_cons]
    split
    · rw [List.lookup_cons, List.lookup_cons, ih]
    · next dropped =>
      have same : entry.1 = method := by simpa using dropped
      have apart : (other == entry.1) = false := by
        rw [beq_eq_false_iff_ne, same]
        exact h
      rw [List.lookup_cons, apart]
      exact ih

/-- A method has no handler after its handler was erased. -/
@[simp] theorem find?_erase_self (d : Dispatcher) (method : String) :
    (d.erase method).find? method = none :=
  lookup_filter_ne_self method d.handlers

/-- Erasing leaves the handlers of other methods alone. -/
theorem find?_erase_of_ne {method other : String} (h : other ≠ method) (d : Dispatcher) :
    (d.erase method).find? other = d.find? other :=
  lookup_filter_ne_of_ne h d.handlers

/-- A method has the handler that was inserted last. -/
@[simp] theorem find?_insert_self (d : Dispatcher) (method : String) (handler : Handler) :
    (d.insert method handler).find? method = some handler := by
  unfold insert find?
  rw [List.lookup_cons, beq_self_eq_true]

/-- Inserting leaves the handlers of other methods alone. -/
theorem find?_insert_of_ne {method other : String} (h : other ≠ method) (d : Dispatcher)
    (handler : Handler) : (d.insert method handler).find? other = d.find? other := by
  have apart : (other == method) = false := beq_eq_false_iff_ne.mpr h
  unfold insert find?
  rw [List.lookup_cons, apart]
  exact find?_erase_of_ne h d

/-- The methods with a handler, in order. -/
def methods (d : Dispatcher) : List String :=
  (d.handlers.map Prod.fst).mergeSort fun a b => decide (a ≤ b)

/-- The registry as a description shows it. -/
def describe (d : Dispatcher) : String :=
  "Dispatcher \x7b methods: [" ++ ", ".intercalate (d.methods.map Text.quote) ++ "] \x7d"

/-! ## Requests -/

/-- How a request is taken up. -/
inductive Uptake where
  /-- No request handler: the reply is ready. -/
  | replied (reply : Response)
  /-- The handler was called. -/
  | called (work : Work)

/-- The reply to a request that nobody handles. -/
def notFound (request : Request) : Response :=
  ⟨some request.id, .error (.methodNotFound request.method)⟩

/-- Takes up a request: calls its handler, or replies that there is none. -/
def take (d : Dispatcher) (request : Request) : Uptake :=
  match d.find? request.method with
  | some (.request call) => .called (call request.params)
  | _ => .replied (notFound request)

/-- The error that tells the server of a crash. -/
def crashError (method : String) (crash : Crash) : RpcError :=
  .internal ("handler for " ++ method ++ " panicked: " ++ crash.reason)

/-- The reply that the end of the work gives. -/
def reply (request : Request) : Ending → Response
  | .answered outcome => ⟨some request.id, outcome⟩
  | .crashed crash => ⟨some request.id, .error (crashError request.method crash)⟩

/-- What is logged at the end of the work. -/
def endingRecords (request : Request) : Ending → List LogRecord
  | .answered _ => []
  | .crashed crash =>
    [⟨.error, "Server request handler panicked: " ++ crash.reason,
      [("id", .string request.id.text), ("method", .string request.method)]⟩]

/-! ## Notifications -/

/-- What a notification does: its handler's records, and one more if it crashed. -/
def runNotification (d : Dispatcher) (notification : Notification) : List LogRecord :=
  match d.find? notification.method with
  | some (.notification run) =>
    let result := run notification.params
    result.records ++
      (result.crash?.map fun crash =>
        { level := .error
          message := "Notification handler panicked: " ++ crash.reason
          fields := [("method", .string notification.method)] : LogRecord }).toList
  | _ => []

/-! ## Any message -/

/-- The handler call that a message leads to. -/
def invocation? (d : Dispatcher) : Envelope → Option Invocation
  | .request r =>
    match d.find? r.method with
    | some (.request _) => some ⟨.request, r.method, r.params⟩
    | _ => none
  | .notification n =>
    match d.find? n.method with
    | some (.notification _) => some ⟨.notification, n.method, n.params⟩
    | _ => none
  | .response _ => none

/-- What became of a message, with all the time its handler needs. -/
structure Handled where
  invocation? : Option Invocation := none
  records : List LogRecord := []
  reply? : Option Response := none
  /-- The crash that nothing contains. -/
  crash? : Option Crash := none

/-- Routes one message. A request always gets a reply, unless the call of its handler
crashes; a notification never gets one; responses belong to the correlator. -/
def handle (d : Dispatcher) (message : Envelope) : Handled :=
  let seen : Handled := { invocation? := d.invocation? message }
  match message with
  | .request r =>
    match d.take r with
    | .replied answer => { seen with reply? := some answer }
    | .called (.crashed crash) => { seen with crash? := some crash }
    | .called (.running _ ending) =>
      { seen with records := endingRecords r ending, reply? := some (reply r ending) }
  | .notification n => { seen with records := d.runNotification n }
  | .response r =>
    { seen with
      records := [.warning "Dispatcher received a response; ignoring"
        [("id", .string (RequestId.describeOption r.id))]] }

end Dispatcher

end LspClient
