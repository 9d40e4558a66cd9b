import LspClient.Proofs.Client.Shift
import LspClient.Proofs.Client.World
import LspClient.Proofs.Session.Logged

/-!
# Who does what

A `Stir` says what a small change makes of an outline. A `Deed` also says who makes it: only
the job whose turn it is goes on, ends or notes a result; a call comes with its timer, and
whoever waits for a call has its ticket from there. No deed brings an answer of the server
into the session, or hands one on.

That is left to two ways in which a step may begin. A reader takes in a frame and does
nothing else, and a job that waits for a call notes the outcome that the table has for it.
`Does` puts them beside the deeds and the shifts; `World.Happens` does so for events.
-/

namespace LspClient

/-- The ticket that a job holds: the timer of a call, or one that waits for a call. -/
def Activity.ticket? : Activity → Option Ticket
  | .expire ticket _ => some ticket
  | .await request _ _ => some request.ticket
  | _ => none

/-- Whether somebody who waits keeps the session does not depend on the point that he is at. -/
theorem Activity.holdsSession_await (request : PendingRequest) (receiver : Receiver)
    (stage other : AwaitStage) :
    (Activity.await request receiver stage).holdsSession =
      (Activity.await request receiver other).holdsSession := by
  cases receiver <;> rfl

/-! ## Frames that come in -/

/-- The frame that a job takes in at its next step. -/
def Client.incoming? (c : Client) (job : Job) : Option Bytes :=
  match job.activity with
  | .read peer _ =>
    if job.isCancelled || c.session.isDropped then none
    else
      match c.loopback.peer? peer with
      | some p =>
        match (p.read c.loopback.medium).2 with
        | .message frame => some frame
        | _ => none
      | none => none
  | _ => none

/-- The frame that the session takes in at an event. -/
def World.incoming? (w : World) : Event → Option Bytes
  | .turn id heeds =>
    match w.client.turning? id heeds with
    | some job => if w.client.isReady job then w.client.incoming? job else none
    | none => none
  | _ => none

namespace Outline

/-- A frame is taken in: the session changes, and a request gets a job that replies. -/
def intake (k : Outline) (frame : Bytes) : Outline :=
  match (k.session.receive frame).2.request? with
  | some request => (k.withSession (k.session.receive frame).1).add (.reply request .arriving)
  | none => k.withSession (k.session.receive frame).1

theorem intake_of_request {k : Outline} {frame : Bytes} {request : Request}
    (h : (k.session.receive frame).2.request? = some request) : k.intake frame =
      (k.withSession (k.session.receive frame).1).add (.reply request .arriving) := by
  unfold intake
  rw [h]

theorem intake_of_none {k : Outline} {frame : Bytes}
    (h : (k.session.receive frame).2.request? = none) :
    k.intake frame = k.withSession (k.session.receive frame).1 := by
  unfold intake
  rw [h]

theorem session_intake (k : Outline) (frame : Bytes) :
    (k.intake frame).session = (k.session.receive frame).1 := by
  unfold intake
  split <;> rfl

/-! ## Deeds -/

/-- Whether some job holds this ticket. -/
def Holds (k : Outline) (ticket : Ticket) : Prop := ∃ j ∈ k.jobs, j.2.ticket? = some ticket

/-- One small change during the turn of a job, or during no turn at all. -/
inductive Deed (who? : Option JobId) (k : Outline) : Outline → Prop
  | session {s : Session} (quiets : k.session.Quiets s) (silently : k.session.Silently s) :
      Deed who? k (k.withSession s)
  | issue {s : Session} {ticket : Ticket} {method : String} {now deadline : Nat}
      (quiets : k.session.Quiets s) (free : k.session.correlator.contains ticket.id = false)
      (serial : ticket.serial = k.session.correlator.nextSerial)
      (logs : k.session.Logs s [.register ticket.id method now]) :
      Deed who? k ((k.withSession s).add (.expire ticket deadline))
  | start {a : Activity} (aside : a.isAside = true)
      (kept : a.holdsSession = true → k.isHeld = true)
      (known : ∀ ticket, a.ticket? = some ticket → k.Holds ticket) : Deed who? k (k.add a)
  | connect (held : k.isHeld = true) : Deed who? k (k.add (.search .first .arriving))
  | move {id : JobId} {a b : Activity} (own : who? = some id) (live : (id, a) ∈ k.jobs)
      (aside : a.isAside = true) (next : b.isAside = true)
      (kept : b.holdsSession = true → a.holdsSession = true)
      (known : ∀ ticket, b.ticket? = some ticket → k.Holds ticket) : Deed who? k (k.put id b)
  | leave {id : JobId} {a : Activity} (own : who? = some id) (live : (id, a) ∈ k.jobs)
      (aside : a.isAside = true) : Deed who? k (k.erase id)
  | note {id : JobId} {result : JobResult} (own : who? = some id)
      (other : ∀ outcome, result = .called outcome → ¬ IsAnswer outcome) :
      Deed who? k (k.note id result)
  | serve {peers : Nat} (more : k.peers ≤ peers) : Deed who? k { k with peers }
  | letGo : Deed who? k { k with isHeld := false }
  | drop (alone : ¬ k.IsKept) : Deed who? k (k.withSession k.session.drop)

/-- Any number of deeds. -/
abbrev Deeds (who? : Option JobId) : Outline → Outline → Prop := Relation.ReflTransGen (Deed who?)

variable {k k' : Outline} {who? : Option JobId} {id : JobId} {a : Activity} {frame? : Option Bytes}

/-- Every deed is made of small changes. -/
theorem Deed.stirs (h : k.Deed who? k') : k.Stirs k' := by
  cases h with
  | session quiets => exact stirs_session quiets
  | issue quiets => exact (stirs_session quiets).tail (.start rfl nofun)
  | start aside kept => exact .single (.start aside kept)
  | connect held => exact .single (.connect held)
  | move _ live aside next kept => exact .single (.move live aside next kept)
  | leave _ live aside => exact .single (.leave live aside)
  | @note id result => exact .single (.note id result)
  | serve more => exact .single (.serve more)
  | letGo => exact .single .letGo
  | drop alone => exact .single (.drop alone)

theorem Deeds.stirs (h : k.Deeds who? k') : k.Stirs k' := by
  induction h with
  | refl => exact .refl
  | tail _ last ih => exact ih.trans last.stirs

theorem stirs_intake (k : Outline) (frame : Bytes) : k.Stirs (k.intake frame) := by
  have quiets := stirs_session (k := k) (Session.quiets_receive k.session frame)
  unfold intake
  split
  · exact quiets.tail (.start rfl nofun)
  · exact quiets

/-! ## Steps and events -/

/-- What a step of a job at this point does, if it takes in this frame: deeds, with one thing
before them that is more than a deed. -/
inductive Does (k : Outline) (id : JobId) : Activity → Option Bytes → Outline → Prop
  | deeds {a : Activity} {k' : Outline} (deeds : k.Deeds (some id) k') : Does k id a none k'
  | shift {a : Activity} {m k' : Outline} (shift : k.Shift id a m) (deeds : m.Deeds (some id) k') :
      Does k id a none k'
  | resolve {request : PendingRequest} {receiver : Receiver} {outcome : Outcome} {k' : Outline}
      (found : k.session.outcome? request.ticket = some outcome)
      (deeds : (k.note id (.called outcome)).Deeds (some id) k') :
      Does k id (.await request receiver .looking) none k'
  | intake {peer generation : Nat} (frame : Bytes) :
      Does k id (.read peer generation) (some frame) (k.intake frame)

theorem Shift.does {m : Outline} (h : k.Shift id a m) : k.Does id a none m := .shift h .refl

/-- What an event leads to: only the turn of a job makes a shift. -/
def Follows (k : Outline) (event : Event) (k' : Outline) : Prop :=
  Stirs k k' ∨ ∃ id heeds a m, event = .turn id heeds ∧ (id, a) ∈ k.jobs ∧ k.Shift id a m ∧
    Stirs m k'

theorem Does.follows (h : k.Does id a frame? k') (live : (id, a) ∈ k.jobs) (heeds : Bool) :
    k.Follows (.turn id heeds) k' := by
  cases h with
  | deeds deeds => exact .inl deeds.stirs
  | shift shift deeds => exact .inr ⟨id, heeds, a, _, rfl, live, shift, deeds.stirs⟩
  | resolve _ deeds => exact .inl (.head (.note id _) deeds.stirs)
  | intake frame => exact .inl (stirs_intake k frame)

end Outline

/-- What an event does to the outline of a world. -/
inductive World.Happens (w : World) : Event → Outline → Prop
  | turn {id : JobId} {heeds : Bool} {a : Activity} {k : Outline}
      (live : (id, a) ∈ w.client.outline.jobs)
      (does : w.client.outline.Does id a (w.incoming? (.turn id heeds)) k) :
      Happens w (.turn id heeds) k
  | await {request : PendingRequest} (held : request ∈ w.held) :
      Happens w (.await request) (w.client.outline.add (.await request .caller .looking))
  | other {event : Event} {k : Outline} (nothing : w.incoming? event = none)
      (deeds : w.client.outline.Deeds none k) : Happens w event k

theorem World.Happens.follows {w : World} {event : Event} {k : Outline} (h : w.Happens event k) :
    w.client.outline.Follows event k := by
  cases h with
  | turn live does => exact does.follows live _
  | await => exact .inl (.single (.start rfl nofun))
  | other _ deeds => exact .inl deeds.stirs

/-- If a frame is taken in, a reader does it, and nothing else happens. -/
theorem World.Happens.of_incoming {w : World} {event : Event} {k : Outline} {frame : Bytes}
    (h : w.Happens event k) (taken : w.incoming? event = some frame) :
    k = w.client.outline.intake frame ∧ ∃ id heeds peer generation, event = .turn id heeds ∧
      (id, .read peer generation) ∈ w.client.outline.jobs := by
  cases h with
  | @turn id heeds a _ live does =>
    rw [taken] at does
    cases does with
    | @intake peer generation => exact ⟨rfl, id, heeds, peer, generation, rfl, live⟩
  | await => cases taken
  | other nothing =>
    rw [nothing] at taken
    cases taken

end LspClient
