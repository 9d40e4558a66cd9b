import LspClient.Proofs.Client.Dealing
import LspClient.Proofs.Client.Lines
import LspClient.Proofs.Session.Queue

/-!
# What goes over the wire

A run has a history: the peers of the connections that were installed (`World.opened`), the
frames that were sent over each of them while it was the current one (`World.sentOver`) and
what was asked of the sink that leads to a peer (`World.sinkCalls`). `World.Wired` ties it to
the state that the run has come to. What was sent over a connection is what was handed to
its sink and what is left in the queue of its writer, in that order; and a sink is closed
only when nothing is left, by a writer that ends with it.
-/

namespace LspClient

/-- What a writer asks of the sink of its connection. -/
inductive SinkCall where
  | send (frame : Bytes)
  | close
  deriving DecidableEq, Repr

/-- The frame that is handed over. -/
def SinkCall.frame? : SinkCall → Option Bytes
  | .send frame => some frame
  | .close => none

/-- What a job asks of a sink at its next step, and to which peer the sink leads. -/
def Client.sinkCall? (c : Client) (job : Job) : Option (Nat × SinkCall) :=
  match job.activity with
  | .write peer _ outbox .idle =>
    match c.session.queues[outbox]? with
    | some (.send frame :: _) => some (peer, .send frame)
    | _ => none
  | .write peer _ _ .closing => some (peer, .close)
  | _ => none

namespace World

/-- The peer of the connection that is installed at an event. -/
def opens (w : World) (event : Event) : List Nat :=
  match w.acting? event with
  | some job => w.client.outline.opens job.activity
  | none => []

/-- The frames that are sent over a connection at an event, if it is the current one. -/
def sendsOver (w : World) (index : Nat) (event : Event) : List Bytes :=
  if w.client.session.outbox? = some index then (w.sends? event).toList.map Envelope.encode
  else []

/-- What is asked at an event of the sink that leads to a peer. -/
def callsTo (w : World) (peer : Nat) (event : Event) : List SinkCall :=
  match (w.acting? event).bind w.client.sinkCall? with
  | some (p, call) => if p = peer then [call] else []
  | none => []

/-! ## One event -/

variable {settings : Settings} {medium : Medium} {w : World} {event : Event} {id : JobId}
  {peer generation index : Nat} {stage : WriteStage} {job : Job}

theorem opens_of_acting (acts : w.acting? event = some job) :
    w.opens event = w.client.outline.opens job.activity := by
  unfold opens
  rw [acts]

theorem opens_of_idle (idle : w.acting? event = none) : w.opens event = [] := by
  unfold opens
  rw [idle]

/-- Nobody can cancel a writer. -/
theorem goesOn_of_writer (acts : w.acting? event = some job)
    (activity : job.activity = .write peer generation index stage) : job.isCancelled = false := by
  obtain ⟨-, -, -, cancels⟩ := acting?_eq_some acts
  by_contra cancelled
  have may := cancels ((Bool.not_eq_false _).mp cancelled)
  rw [activity] at may
  cases may

theorem hasRoom_of_writer (room : w.client.session.correlator.size ≤ mostCalls)
    (acts : w.acting? event = some job)
    (activity : job.activity = .write peer generation index stage) :
    w.hasRoom event = true := by
  refine hasRoom_of_connection room acts ?_
  unfold Client.dealing Client.dealingAt
  rw [activity]
  split
  · rfl
  · cases stage <;> rfl

theorem perform_of_writer (room : w.client.session.correlator.size ≤ mostCalls)
    (acts : w.acting? event = some job)
    (activity : job.activity = .write peer generation index stage) :
    (w.perform event).client = w.client.stepWrite job.id peer generation index stage := by
  rw [perform_of_acting (hasRoom_of_writer room acts activity) acts]
  show w.client.step job = _
  unfold Client.step
  rw [goesOn_of_writer acts activity, activity]
  rfl

theorem dealing_of_idle (room : w.client.session.correlator.size ≤ mostCalls)
    (acts : w.acting? event = some job)
    (activity : job.activity = .write peer generation index .idle) :
    w.dealing event = .take index := by
  rw [dealing_of_acting (hasRoom_of_writer room acts activity) acts]
  unfold Client.dealing Client.dealingAt
  rw [goesOn_of_writer acts activity, activity]
  rfl

/-- A writer that waits for commands takes the first one, or comes to its end. -/
theorem writer_cases (room : w.client.session.correlator.size ≤ mostCalls)
    (acts : w.acting? event = some job)
    (activity : job.activity = .write peer generation index .idle)
    (inside : index < w.client.session.outboxes.length) :
    ∃ (session : Session) (stage : WriteStage),
      (w.perform event).client.outline = (w.client.outline.withSession session).put job.id
        (.write peer generation index stage) ∧ session.outbox? = w.client.session.outbox? ∧
      session.outboxes.length = w.client.session.outboxes.length ∧
      (∀ i ≠ index, session.queues[i]? = w.client.session.queues[i]?) ∧
      ((∃ frame rest, w.client.session.queues[index]? = some (.send frame :: rest) ∧
          session.queues[index]? = some rest ∧
          stage = .writing (w.client.loopback.medium.wrap frame)) ∨
        (∃ rest, w.client.session.queues[index]? = some (.stop :: rest) ∧
          session.queues[index]? = some rest ∧ stage = .closing) ∨
        w.client.session.queues[index]? = some [] ∧
          session.queues[index]? = some [] ∧ stage = .closing) := by
  have found : w.client.session.outboxes[index]? = some w.client.session.outboxes[index] :=
    List.getElem?_eq_getElem inside
  generalize w.client.session.outboxes[index] = box at found
  have queue : w.client.session.queues[index]? = some box.commands := by
    show (w.client.session.outboxes.map Outbox.commands)[index]? = _
    rw [List.getElem?_map, found]
    rfl
  have taken (rest : List WriterCommand) := Session.queues_take w.client.session found rest
  have length (rest : List WriterCommand) : (w.client.session.modifyOutbox index fun o =>
      { o with commands := rest }).outboxes.length = w.client.session.outboxes.length :=
    List.length_modify ..
  rw [perform_of_writer room acts activity, queue]
  unfold Client.stepWrite
  dsimp only
  rw [found]
  dsimp only
  split
  · next frame rest head =>
    refine ⟨_, _, Client.outline_become .., rfl, length rest, fun i other => ?_, .inl ?_⟩
    · rw [taken, if_neg other.symm]
    · exact ⟨frame, rest, congrArg some head, by rw [taken, if_pos rfl], rfl⟩
  · next rest head =>
    refine ⟨_, _, Client.outline_become .., rfl, length rest, fun i other => ?_, .inr (.inl ?_)⟩
    · rw [taken, if_neg other.symm]
    · exact ⟨rest, congrArg some head, by rw [taken, if_pos rfl], rfl⟩
  · next head =>
    -- with an empty queue it can only go on because its sender has gone
    have done : box.isSealed = true := by
      obtain ⟨-, -, ready, -⟩ := acting?_eq_some acts
      unfold Client.isReady Client.isWriteReady at ready
      rw [goesOn_of_writer acts activity, activity] at ready
      simpa [found, head] using ready
    rw [if_pos done]
    exact ⟨_, _, Client.outline_become .., rfl, rfl, fun i _ => rfl,
      .inr (.inr ⟨congrArg some head, queue.trans (congrArg some head), rfl⟩)⟩

theorem hasRoom_of_opens (room : w.client.session.correlator.size ≤ mostCalls)
    (acts : w.acting? event = some job) {why : Search} {attempt : Nat}
    (activity : job.activity = .search why (.installing attempt peer))
    (expected : w.client.session.lifecycle = why.state) : job.isCancelled = false ∧
      w.client.dealing job = .install ∧ w.hasRoom event = true := by
  obtain ⟨-, -, -, cancels⟩ := acting?_eq_some acts
  have goesOn : job.isCancelled = false := by
    by_contra cancelled
    have may := cancels ((Bool.not_eq_false _).mp cancelled)
    rw [activity] at may
    cases why <;> cases may
  have own : w.client.dealing job = .install := by
    unfold Client.dealing Client.dealingAt
    rw [goesOn, activity]
    exact if_pos expected
  exact ⟨goesOn, own, hasRoom_of_connection room acts (by rw [own]; rfl)⟩

/-- A search that may install a connection does so. -/
theorem shift_of_opens (room : w.client.session.correlator.size ≤ mostCalls)
    (acts : w.acting? event = some job) {why : Search} {attempt : Nat}
    (activity : job.activity = .search why (.installing attempt peer))
    (expected : w.client.session.lifecycle = why.state) :
    w.client.outline.Shift job.id job.activity (w.perform event).client.outline ∧
      (w.perform event).client.session.queues = w.client.session.queues ++ [[]] ∧
      (w.perform event).client.session.outbox? = some w.client.session.outboxes.length := by
  obtain ⟨goesOn, -, hasRoom⟩ := hasRoom_of_opens room acts activity expected
  have step : (w.perform event).client =
      w.client.stepSearch job.id why (.installing attempt peer) := by
    rw [perform_of_acting hasRoom acts]
    show w.client.step job = _
    unfold Client.step
    rw [goesOn, activity]
    rfl
  rw [step, activity]
  unfold Client.stepSearch
  dsimp only
  split
  · next session done =>
    obtain ⟨-, rfl⟩ := Session.install_eq_ok_iff.mp done
    unfold Client.leaveSearch
    rw [Client.outline_become, Client.outline_spawn, Client.outline_spawn]
    exact ⟨.install done, List.map_append, rfl⟩
  · next refused => exact absurd expected (Session.install_eq_error refused).1

/-- Every event keeps the lines, and adds the one of the connection that it installs. -/
theorem lines_perform (reached : Outline.Reachable settings medium w.client.outline)
    (room : w.client.session.correlator.size ≤ mostCalls) {opened : List Nat}
    (lines : w.client.outline.Lines opened) (event : Event) :
    (w.perform event).client.outline.Lines (opened ++ w.opens event) := by
  cases acts : w.acting? event with
  | none =>
    rw [opens_of_idle acts, List.append_nil]
    rcases follows_perform w event with stirs | ⟨id, heeds, a, m, rfl, -⟩
    · exact lines.stirs stirs
    · rw [perform_of_idle acts]
      exact lines
  | some job =>
    obtain ⟨⟨heeds, rfl⟩, live, -⟩ := acting?_eq_some acts
    rw [opens_of_acting acts]
    by_cases nothing : w.client.outline.opens job.activity = []
    · rcases follows_perform w (.turn job.id heeds) with stirs |
          ⟨id, heeds', a, m, same, live', shift, stirs⟩
      · rw [nothing, List.append_nil]
        exact lines.stirs stirs
      · cases same
        cases reached.orderly.unique live live'
        exact (lines.shift reached.gated reached.staffed live shift).stirs stirs
    · obtain ⟨why, attempt, peer, activity, expected, -⟩ := Outline.opens_eq_cons nothing
      exact lines.shift reached.gated reached.staffed live
        (shift_of_opens room acts activity expected).1

/-- A writer that runs after an event has kept its line, unless it works off a new outbox. -/
theorem write_cases_perform (hj : (id, .write peer generation index stage) ∈
    (w.perform event).client.outline.jobs) :
    (∃ before, (id, .write peer generation index before) ∈ w.client.outline.jobs) ∨
      index = w.client.session.outboxes.length := by
  have still {k k' : Outline} (stirs : k.Stirs k')
      (hj : (id, .write peer generation index stage) ∈ k'.jobs) :
      (id, .write peer generation index stage) ∈ k.jobs :=
    Outline.Stirs.mem_of_other stirs hj rfl nofun
  rcases follows_perform w event with stirs | ⟨_, _, a, m, -, live, shift, stirs⟩
  · exact .inl ⟨stage, still stirs hj⟩
  · rcases shift.write_cases live (still stirs hj) with old | ⟨-, new, -⟩
    · exact .inl old
    · exact .inr new

/-- A writer that is about to close its sink was so before, unless it has waited for commands
and taken its turn. -/
theorem closing_perform (o : w.client.outline.Orderly)
    (busy : ∀ job, w.acting? event = some job → ∀ peer generation index,
      job.activity ≠ .write peer generation index .idle)
    (hj : (id, .write peer generation index .closing) ∈ (w.perform event).client.outline.jobs) :
    (id, .write peer generation index .closing) ∈ w.client.outline.jobs := by
  rcases follows_perform w event with stirs | ⟨_, heeds, a, m, rfl, live, shift, stirs⟩
  · exact Outline.Stirs.mem_of_other stirs hj rfl nofun
  · cases acts : w.acting? (.turn _ heeds) with
    | none =>
      rw [perform_of_idle acts] at hj
      exact hj
    | some job =>
      obtain ⟨⟨_, same⟩, live', -⟩ := acting?_eq_some acts
      cases same
      have other := busy job acts
      rw [o.unique live' live] at other
      have before := Outline.Stirs.mem_of_other stirs hj rfl nofun
      rcases shift.mem_cases before with old | ⟨-, yields⟩ | begins
      · exact old.1
      · generalize target : Activity.write peer generation index .closing = b at yields
        cases yields with
        | move step =>
          cases step with
          | written goesOn =>
            cases target
            exact absurd rfl goesOn
          | exhausted => exact absurd rfl (other _ _ _)
          | _ => cases target
        | take => exact absurd rfl (other _ _ _)
        | close closes => cases closes <;> cases target
        | drain drains => cases drains <;> cases target
        | _ => cases target
      · generalize target : Activity.write peer generation index .closing = b at begins
        cases begins <;> cases target

/-- If nothing is taken from an outbox and nothing is installed, the current outbox is fed with
what is sent. -/
theorem feeds_perform (takes : ∀ index, w.dealing event ≠ .take index)
    (installs : w.dealing event ≠ .install) :
    w.client.session.Feeds (w.perform event).client.session
      ((w.sends? event).toList.map Envelope.encode) := by
  have sent : w.client.session.sentFrames w.client.clock (w.dealing event) =
      (w.sends? event).toList.map Envelope.encode := by
    unfold sends? errand?
    cases w.dealing event <;> rfl
  rw [← sent]
  obtain ⟨t, deals, same | ⟨-, -, dropped⟩⟩ := comes_perform w event
  · rw [same]
    exact deals.feeds takes installs
  · rw [dropped]
    exact (deals.feeds takes installs).drop

/-- Commands are taken and connections installed at turns of jobs. -/
theorem exists_acting
    (own : (∃ index, w.dealing event = .take index) ∨ w.dealing event = .install) :
    ∃ job, w.acting? event = some job ∧ w.client.dealing job = w.dealing event := by
  unfold dealing at own ⊢
  split at own
  · next room =>
    rw [if_pos room]
    cases event with
    | turn id heeds =>
      dsimp only at own ⊢
      cases acts : w.acting? (.turn id heeds) with
      | none =>
        rw [acts] at own
        rcases own with ⟨_, same⟩ | same <;> cases same
      | some job => exact ⟨job, rfl, rfl⟩
    | request | notify | cancelRequest =>
      dsimp only at own
      split at own <;> rcases own with ⟨_, same⟩ | same <;> cases same
    | _ => rcases own with ⟨_, same⟩ | same <;> cases same
  · rcases own with ⟨_, same⟩ | same <;> cases same

/-- Only a writer that waits for commands takes one. -/
theorem dealing_eq_take (h : w.dealing event = .take index) : ∃ job peer generation,
    w.acting? event = some job ∧ job.activity = .write peer generation index .idle := by
  obtain ⟨job, acts, same⟩ := exists_acting (.inl ⟨index, h⟩)
  have dealer := w.client.dealer job
  rw [same, h] at dealer
  obtain ⟨peer, generation, activity⟩ := dealer
  exact ⟨job, peer, generation, acts, activity⟩

theorem dealing_eq_install (h : w.dealing event = .install) : w.opens event ≠ [] := by
  obtain ⟨job, acts, same⟩ := exists_acting (.inr h)
  have dealer := w.client.dealer job
  rw [same, h] at dealer
  obtain ⟨why, attempt, peer, activity, expected⟩ := dealer
  rw [opens_of_acting acts, activity]
  show (if w.client.session.lifecycle = why.state then [peer] else []) ≠ []
  rw [if_pos expected]
  exact List.cons_ne_nil _ _

/-- What a job takes or installs is all that comes of its turn, so nothing is sent. -/
theorem sends?_of_dealing (own : (∃ index, w.dealing event = .take index) ∨
    w.dealing event = .install) : w.sends? event = none := by
  unfold sends? errand?
  rcases own with ⟨index, same⟩ | same <;> rw [same] <;> rfl

theorem sendsOver_of_dealing (own : (∃ index, w.dealing event = .take index) ∨
    w.dealing event = .install) (index : Nat) : w.sendsOver index event = [] := by
  unfold sendsOver
  rw [sends?_of_dealing own]
  exact ite_self _

/-- What is asked of a sink is asked by the writer of its connection. -/
theorem exists_writer {call : SinkCall} (asked : call ∈ w.callsTo peer event) :
    ∃ job generation index stage, w.acting? event = some job ∧
      job.activity = .write peer generation index stage ∧
      ((∃ frame, call = .send frame ∧ stage = .idle) ∨ call = .close ∧ stage = .closing) := by
  unfold callsTo at asked
  split at asked
  · next p call' found =>
    obtain ⟨job, acts, sink⟩ := Option.bind_eq_some_iff.mp found
    split at asked
    · next same =>
      cases List.mem_singleton.mp asked
      unfold Client.sinkCall? at sink
      split at sink
      · next peer' generation index activity =>
        split at sink
        · next frame rest queue =>
          cases sink
          cases same
          exact ⟨job, generation, index, .idle, acts, activity, .inl ⟨frame, rfl, rfl⟩⟩
        · cases sink
      · next peer' generation index activity =>
        cases sink
        cases same
        exact ⟨job, generation, index, .closing, acts, activity, .inr ⟨rfl, rfl⟩⟩
      · cases sink
    · exact absurd asked List.not_mem_nil
  · exact absurd asked List.not_mem_nil

theorem callsTo_of_writer (acts : w.acting? event = some job)
    (activity : job.activity = .write peer generation index .closing) :
    w.callsTo peer event = [.close] := by
  unfold callsTo Client.sinkCall?
  rw [acts, Option.bind_some, activity]
  exact if_pos rfl

/-- A writer that waits for commands asks its sink to send the frame that it takes. -/
theorem callsTo_of_idle (acts : w.acting? event = some job)
    (activity : job.activity = .write peer generation index .idle) (other : Nat) :
    w.callsTo other event = match w.client.session.queues[index]? with
      | some (.send frame :: _) => if peer = other then [.send frame] else []
      | _ => [] := by
  unfold callsTo Client.sinkCall?
  rw [acts, Option.bind_some, activity]
  dsimp only
  rcases w.client.session.queues[index]? with _ | _ | ⟨command, rest⟩
  · rfl
  · rfl
  · cases command <;> rfl

theorem loopback_endLoss (c : Client) (id : JobId) (outbox? : Option Nat) :
    (c.endLoss id outbox?).loopback = c.loopback := by
  unfold Client.endLoss Client.finish Client.reap
  dsimp only
  split
  · rfl
  · unfold Client.cancelReader
    split <;> rfl

/-- Whether a sink does what it is asked: from now on its writer has the whole frame before it,
as it goes over this medium, or nothing more is sent to the peer. -/
def Obeys (w w' : World) (peer : Nat) : SinkCall → Prop
  | .send frame => ∃ id generation index, (id, .write peer generation index
      (.writing (w.client.loopback.medium.wrap frame))) ∈ w'.client.outline.jobs
  | .close => ∀ p, w'.client.loopback.peer? peer = some p → p.isClosed = true

theorem obeys_perform (room : w.client.session.correlator.size ≤ mostCalls) {opened : List Nat}
    (lines : w.client.outline.Lines opened) {call : SinkCall}
    (asked : call ∈ w.callsTo peer event) : w.Obeys (w.perform event) peer call := by
  obtain ⟨job, generation, index, stage, acts, activity, ⟨frame, rfl, rfl⟩ | ⟨rfl, rfl⟩⟩ :=
    exists_writer asked
  · obtain ⟨-, live, -⟩ := acting?_eq_some acts
    rw [activity] at live
    obtain ⟨session, stage, outline, -, -, -, ways⟩ :=
      writer_cases room acts activity (lines.inside live)
    rw [callsTo_of_idle acts activity] at asked
    rcases ways with ⟨next, rest, queue, -, rfl⟩ | ⟨rest, queue, -⟩ | ⟨queue, -⟩
    · rw [queue] at asked
      dsimp only at asked
      rw [if_pos rfl] at asked
      cases List.mem_singleton.mp asked
      refine ⟨job.id, generation, index, ?_⟩
      rw [outline]
      exact Outline.mem_put.mpr (.inr ⟨rfl, _, live⟩)
    · rw [queue] at asked
      exact absurd asked List.not_mem_nil
    · rw [queue] at asked
      exact absurd asked List.not_mem_nil
  · intro p found
    rw [perform_of_writer room acts activity] at found
    unfold Client.stepWrite at found
    dsimp only at found
    rw [loopback_endLoss] at found
    have found : (w.client.loopback.peers.modify peer Peer.close)[peer]? = some p := found
    rw [List.getElem?_modify_eq] at found
    obtain ⟨q, -, rfl⟩ := Option.map_eq_some_iff.mp found
    rfl

/-- If a connection is installed, nothing else happens, and it gets a queue of its own. -/
theorem queues_of_opens (room : w.client.session.correlator.size ≤ mostCalls)
    (installs : w.opens event ≠ []) : w.dealing event = .install ∧
      (w.perform event).client.session.outbox? = some w.client.session.outboxes.length ∧
      ∀ index < w.client.session.outboxes.length,
        (w.perform event).client.session.queues[index]? = w.client.session.queues[index]? := by
  cases acts : w.acting? event with
  | none => exact absurd (opens_of_idle acts) installs
  | some job =>
    rw [opens_of_acting acts] at installs
    obtain ⟨why, attempt, peer, activity, expected, -⟩ := Outline.opens_eq_cons installs
    obtain ⟨-, queues, current⟩ := shift_of_opens room acts activity expected
    obtain ⟨-, install, hasRoom⟩ := hasRoom_of_opens room acts activity expected
    refine ⟨(dealing_of_acting hasRoom acts).trans install, current, fun index inside => ?_⟩
    rw [queues]
    refine List.getElem?_append_left ?_
    show index < (w.client.session.outboxes.map Outbox.commands).length
    rw [List.length_map]
    exact inside

/-- A queue that frames are not put into changes only when its writer takes a command. -/
theorem queue_perform (event : Event) (room : w.client.session.correlator.size ≤ mostCalls)
    {opened : List Nat} (lines : w.client.outline.Lines opened)
    (inside : index < w.client.session.outboxes.length)
    (other : w.client.session.outbox? ≠ some index)
    (aside : ∀ job, w.acting? event = some job → ∀ peer generation,
      job.activity ≠ .write peer generation index .idle) :
    (w.perform event).client.session.queues[index]? = w.client.session.queues[index]? ∧
      (w.perform event).client.session.outbox? ≠ some index := by
  by_cases takes : ∃ i, w.dealing event = .take i
  · obtain ⟨i, take⟩ := takes
    obtain ⟨job, peer, generation, acts, activity⟩ := dealing_eq_take take
    obtain ⟨-, live, -⟩ := acting?_eq_some acts
    rw [activity] at live
    obtain ⟨session, stage, outline, current, -, others, -⟩ :=
      writer_cases room acts activity (lines.inside live)
    have apart : index ≠ i := by
      rintro rfl
      exact aside job acts peer generation activity
    have same : (w.perform event).client.session = session := congrArg Outline.session outline
    rw [same, current]
    exact ⟨others index apart, other⟩
  · by_cases installs : w.opens event = []
    · have feeds := feeds_perform (fun i take => takes ⟨i, take⟩)
        fun install => dealing_eq_install install installs
      obtain ⟨stops, -, queues⟩ := feeds.queues
      constructor
      · rw [queues index, if_neg other]
        cases w.client.session.queues[index]? with
        | none => rfl
        | some queue => exact congrArg some (List.append_nil queue)
      · rcases feeds.current with same | none
        · rw [same]
          exact other
        · rw [none]
          nofun
    · obtain ⟨-, current, queues⟩ := queues_of_opens room installs
      refine ⟨queues index inside, ?_⟩
      rw [current]
      exact fun same => Nat.ne_of_gt inside (Option.some.inj same)

/-! ## The wire -/

/-- Whether a connection has come to its end: nothing is left in its queue, nothing will be put
there, and its writer has gone. -/
structure HasRunDry (w : World) (index : Nat) : Prop where
  empty : w.client.session.queues[index]? = some []
  past : w.client.session.outbox? ≠ some index
  gone : ∀ id peer generation stage,
    (id, .write peer generation index stage) ∉ w.client.outline.jobs

/-- What ties the history of a run to the state that it has come to. -/
structure Wired (w : World) (opened : List Nat) (sent : Nat → List Bytes)
    (calls : Nat → List SinkCall) : Prop where
  lines : w.client.outline.Lines opened
  /-- What was sent over a connection was handed over, or is left in the queue. -/
  flow : ∀ index peer, opened[index]? = some peer →
    w.client.session.Flow index (sent index) ((calls peer).filterMap SinkCall.frame?)
  /-- A writer that is about to close its sink has nothing left. -/
  closing : ∀ id peer generation index,
    (id, .write peer generation index .closing) ∈ w.client.outline.jobs →
    w.client.session.queues[index]? = some []
  /-- A sink that was closed was handed everything before, and is asked nothing any more. -/
  closed : ∀ index peer, opened[index]? = some peer → .close ∈ calls peer →
    calls peer = (sent index).map .send ++ [.close] ∧ w.HasRunDry index
  future : ∀ index, w.client.session.outboxes.length ≤ index → sent index = []
  strangers : ∀ peer, peer ∉ opened → calls peer = []

/-- What is asked of a sink until it is closed are frames. -/
theorem eq_map_send {calls : List SinkCall} (goesOn : .close ∉ calls) :
    calls = (calls.filterMap SinkCall.frame?).map .send := by
  induction calls with
  | nil => rfl
  | cons first rest ih =>
    rw [List.mem_cons, not_or] at goesOn
    cases first with
    | send frame => exact congrArg (List.cons (.send frame)) (ih goesOn.2)
    | close => exact absurd rfl goesOn.1

section

variable {opened : List Nat} {sent : Nat → List Bytes} {calls : Nat → List SinkCall}

/-- Different connections have different peers. -/
theorem Wired.index_unique (h : w.Wired opened sent calls) {i j : Nat}
    (hi : opened[i]? = some peer) (hj : opened[j]? = some peer) : i = j := by
  have within := (List.getElem?_eq_some_iff.mp hi).1
  exact (List.getElem?_inj within h.lines.apart).mp (hi.trans hj.symm)

theorem Wired.inside (h : w.Wired opened sent calls) (own : opened[index]? = some peer) :
    index < w.client.session.outboxes.length := by
  have within := (List.getElem?_eq_some_iff.mp own).1
  rw [h.lines.length] at within
  exact within

theorem HasRunDry.perform (dry : w.HasRunDry index)
    (room : w.client.session.correlator.size ≤ mostCalls) (lines : w.client.outline.Lines opened)
    (inside : index < w.client.session.outboxes.length) (event : Event) :
    (w.perform event).HasRunDry index := by
  obtain ⟨same, past⟩ := queue_perform event room lines inside dry.past <| by
    intro job acts peer generation activity
    obtain ⟨-, live, -⟩ := acting?_eq_some acts
    rw [activity] at live
    exact dry.gone _ _ _ _ live
  refine ⟨same.trans dry.empty, past, fun id peer generation stage live => ?_⟩
  rcases write_cases_perform live with ⟨before, old⟩ | new
  · exact dry.gone _ _ _ _ old
  · exact Nat.ne_of_lt inside new

/-- A connection that has run dry is not asked anything. -/
theorem HasRunDry.callsTo_eq (dry : w.HasRunDry index) (h : w.Wired opened sent calls)
    (own : opened[index]? = some peer) (event : Event) : w.callsTo peer event = [] := by
  refine List.eq_nil_iff_forall_not_mem.mpr fun call asked => ?_
  obtain ⟨job, generation, i, stage, acts, activity, -⟩ := exists_writer asked
  obtain ⟨-, live, -⟩ := acting?_eq_some acts
  rw [activity] at live
  cases h.index_unique own (h.lines.writes _ _ _ _ _ live)
  exact dry.gone _ _ _ _ live

/-- A writer that is about to close its sink works off a connection that is not current. -/
theorem past_of_closing (reached : Outline.Reachable settings medium w.client.outline)
    (live : (id, .write peer generation index .closing) ∈ w.client.outline.jobs) :
    w.client.session.outbox? ≠ some index := fun current =>
  ((reached.staffed.sound _ live).2 current).2.2 rfl

/-- The queue of a writer that is about to close its sink stays empty. -/
theorem Wired.still_empty (h : w.Wired opened sent calls)
    (reached : Outline.Reachable settings medium w.client.outline)
    (room : w.client.session.correlator.size ≤ mostCalls)
    (live : (id, .write peer generation index .closing) ∈ w.client.outline.jobs) (event : Event) :
    (w.perform event).client.session.queues[index]? = some [] := by
  obtain ⟨same, -⟩ := queue_perform event room h.lines (h.lines.inside live)
    (past_of_closing reached live) <| by
      intro job acts peer' generation' activity
      obtain ⟨-, live', -⟩ := acting?_eq_some acts
      rw [activity] at live'
      cases h.lines.single _ _ _ _ _ _ _ _ _ live live'
      cases reached.orderly.unique live live'
  exact same.trans (h.closing _ _ _ _ live)

theorem Wired.closing_perform (h : w.Wired opened sent calls)
    (reached : Outline.Reachable settings medium w.client.outline)
    (room : w.client.session.correlator.size ≤ mostCalls)
    (live : (id, .write peer generation index .closing) ∈ (w.perform event).client.outline.jobs) :
    (w.perform event).client.session.queues[index]? = some [] := by
  by_cases idle : ∃ job peer generation index, w.acting? event = some job ∧
      job.activity = .write peer generation index .idle
  · obtain ⟨job, peer', generation', i, acts, activity⟩ := idle
    obtain ⟨-, live', -⟩ := acting?_eq_some acts
    rw [activity] at live'
    obtain ⟨session, stage, outline, -, -, -, ways⟩ :=
      writer_cases room acts activity (h.lines.inside live')
    rw [outline] at live
    rcases Outline.mem_put.mp live with ⟨old, -⟩ | ⟨own, -⟩
    · exact h.still_empty reached room old event
    · cases own
      have flow := h.flow _ _ (h.lines.writes _ _ _ _ _ live')
      have same : (w.perform event).client.session = session := congrArg Outline.session outline
      rw [same]
      rcases ways with ⟨frame, rest, -, -, sends⟩ | ⟨rest, queue, left, -⟩ | ⟨-, left, -⟩
      · cases sends
      · rw [(flow.take_stop queue).1] at left
        exact left
      · exact left
  · have busy : ∀ job, w.acting? event = some job → ∀ peer generation index,
        job.activity ≠ .write peer generation index .idle :=
      fun job acts peer generation index activity =>
        idle ⟨job, peer, generation, index, acts, activity⟩
    exact h.still_empty reached room (World.closing_perform reached.orderly busy live) event

/-- A sink is closed when everything was handed over, and its writer ends with it. -/
theorem Wired.runDry_of_close (h : w.Wired opened sent calls)
    (reached : Outline.Reachable settings medium w.client.outline)
    (room : w.client.session.correlator.size ≤ mostCalls) (own : opened[index]? = some peer)
    (asked : .close ∈ w.callsTo peer event) :
    calls peer = (sent index).map .send ∧ w.callsTo peer event = [.close] ∧
      w.client.session.outbox? ≠ some index ∧ (w.perform event).HasRunDry index := by
  obtain ⟨job, generation, i, stage, acts, activity, ways⟩ := exists_writer asked
  obtain ⟨-, rfl⟩ : _ ∧ stage = .closing := by
    rcases ways with ⟨frame, same, -⟩ | ways
    · cases same
    · exact ways
  obtain ⟨-, live, -⟩ := acting?_eq_some acts
  rw [activity] at live
  cases h.index_unique own (h.lines.writes _ _ _ _ _ live)
  have past := past_of_closing reached live
  have goesOn : .close ∉ calls peer := fun early =>
    (h.closed _ _ own early).2.gone _ _ _ _ live
  have all := (h.flow _ _ own).eq_of_nil (h.closing _ _ _ _ live)
  refine ⟨?_, callsTo_of_writer acts activity, past, ?_⟩
  · rw [all]
    exact eq_map_send goesOn
  · -- its writer ends with this step, and no other works off the same queue
    obtain ⟨-, past'⟩ := queue_perform event room h.lines (h.lines.inside live) past <| by
      intro other acts' peer' generation' idle
      rw [acts] at acts'
      cases acts'
      rw [activity] at idle
      cases idle
    refine ⟨h.still_empty reached room live event, past', fun id peer' generation' stage hj => ?_⟩
    have ended : (id, .write peer' generation' index stage) ∈
        ((w.client.outline.withSession
          (w.client.session.unman (some index))).erase job.id).jobs := by
      rw [perform_of_writer room acts activity] at hj
      have same : (w.client.modifyPeer peer Peer.close).outline = w.client.outline :=
        Client.outline_modifyPeer ..
      have stirs := Client.stirs_endLoss (w.client.modifyPeer peer Peer.close) job.id (some index)
      rw [same] at stirs
      exact Outline.Stirs.mem_of_other stirs hj rfl nofun
    obtain ⟨old, other⟩ := Outline.mem_erase.mp ended
    exact other (h.lines.single _ _ _ _ _ _ _ _ _ old live)

/-- What a writer takes from its queue it hands over. -/
theorem Wired.flow_take (h : w.Wired opened sent calls)
    (room : w.client.session.correlator.size ≤ mostCalls) (own : opened[index]? = some peer)
    {i : Nat} (take : w.dealing event = .take i) :
    (w.perform event).client.session.Flow index (sent index)
      ((calls peer).filterMap SinkCall.frame? ++
        (w.callsTo peer event).filterMap SinkCall.frame?) := by
  have flow := h.flow _ _ own
  obtain ⟨job, peer', generation, acts, activity⟩ := dealing_eq_take take
  obtain ⟨-, live, -⟩ := acting?_eq_some acts
  rw [activity] at live
  obtain ⟨session, stage, outline, -, -, others, ways⟩ :=
    writer_cases room acts activity (h.lines.inside live)
  have own' := h.lines.writes _ _ _ _ _ live
  have same : (w.perform event).client.session = session := congrArg Outline.session outline
  rw [same, callsTo_of_idle acts activity]
  by_cases here : index = i
  · subst here
    cases Option.some.inj (own.symm.trans own')
    rcases ways with ⟨frame, rest, queue, left, -⟩ | ⟨rest, queue, left, -⟩ | ⟨queue, left, -⟩
    · rw [queue]
      dsimp only
      rw [if_pos rfl]
      exact flow.take_send queue left
    · obtain ⟨rfl, all⟩ := flow.take_stop queue
      rw [queue, all]
      exact ⟨[], [], left, .inl rfl, by simp⟩
    · rw [queue, flow.eq_of_nil queue]
      exact ⟨[], [], left, .inl rfl, by simp⟩
  · -- the writer of another connection leaves this one alone
    have apart : peer' ≠ peer := by
      rintro rfl
      exact here (h.index_unique own own')
    have nothing : (match w.client.session.queues[i]? with
        | some (.send frame :: _) => if peer' = peer then [SinkCall.send frame] else []
        | _ => []) = [] := by
      split
      · exact if_neg apart
      · rfl
    rw [nothing, List.filterMap_nil, List.append_nil]
    exact flow.congr (others index here)

/-- What is sent at an event goes into the queue of its connection, and what is handed over at
an event comes from there. -/
theorem Wired.flow_perform (h : w.Wired opened sent calls)
    (reached : Outline.Reachable settings medium w.client.outline)
    (room : w.client.session.correlator.size ≤ mostCalls) (own : opened[index]? = some peer)
    (event : Event) :
    (w.perform event).client.session.Flow index (sent index ++ w.sendsOver index event)
      ((calls peer ++ w.callsTo peer event).filterMap SinkCall.frame?) := by
  have flow := h.flow _ _ own
  rw [List.filterMap_append]
  by_cases takes : ∃ i, w.dealing event = .take i
  · obtain ⟨i, take⟩ := takes
    rw [sendsOver_of_dealing (.inl ⟨i, take⟩), List.append_nil]
    exact h.flow_take room own take
  · -- a sink may still be closed, but no frame is handed over
    have nothing : (w.callsTo peer event).filterMap SinkCall.frame? = [] := by
      refine List.filterMap_eq_nil_iff.mpr fun call asked => ?_
      obtain ⟨job, generation, i, stage, acts, activity, ⟨frame, -, rfl⟩ | ⟨rfl, -⟩⟩ :=
        exists_writer asked
      · exact absurd ⟨i, dealing_of_idle room acts activity⟩ takes
      · rfl
    rw [nothing, List.append_nil]
    by_cases installs : w.opens event = []
    · exact flow.feeds reached.staffed.linked <| feeds_perform (fun i take => takes ⟨i, take⟩)
        fun install => dealing_eq_install install installs
    · obtain ⟨install, -, queues⟩ := queues_of_opens room installs
      rw [sendsOver_of_dealing (.inr install), List.append_nil]
      exact flow.congr (queues index (h.inside own))

theorem Wired.closed_perform (h : w.Wired opened sent calls)
    (reached : Outline.Reachable settings medium w.client.outline)
    (room : w.client.session.correlator.size ≤ mostCalls) (own : opened[index]? = some peer)
    (event : Event) (asked : .close ∈ calls peer ++ w.callsTo peer event) :
    calls peer ++ w.callsTo peer event =
        (sent index ++ w.sendsOver index event).map .send ++ [.close] ∧
      (w.perform event).HasRunDry index := by
  rcases List.mem_append.mp asked with early | now
  · obtain ⟨all, dry⟩ := h.closed _ _ own early
    have silent : w.sendsOver index event = [] := if_neg dry.past
    rw [dry.callsTo_eq h own, silent, List.append_nil, List.append_nil]
    exact ⟨all, dry.perform room h.lines (h.inside own) event⟩
  · obtain ⟨all, last, past, dry⟩ := h.runDry_of_close reached room own now
    have silent : w.sendsOver index event = [] := if_neg past
    rw [all, last, silent, List.append_nil]
    exact ⟨rfl, dry⟩

/-- The connection that an event installs is new, and nothing is in its queue. -/
theorem Wired.opens_new (h : w.Wired opened sent calls)
    (room : w.client.session.correlator.size ≤ mostCalls) (new : peer ∈ w.opens event) :
    w.opens event = [peer] ∧ peer ∉ opened ∧
      (w.perform event).client.session.queues[opened.length]? = some [] := by
  cases acts : w.acting? event with
  | none =>
    rw [opens_of_idle acts] at new
    exact absurd new List.not_mem_nil
  | some job =>
    have some : w.opens event ≠ [] := List.ne_nil_of_mem new
    rw [opens_of_acting acts] at some new ⊢
    obtain ⟨why, attempt, p, activity, expected, one⟩ := Outline.opens_eq_cons some
    rw [one] at new ⊢
    cases List.mem_singleton.mp new
    obtain ⟨-, live, -⟩ := acting?_eq_some acts
    rw [activity] at live
    obtain ⟨-, queues, -⟩ := shift_of_opens room acts activity expected
    refine ⟨rfl, h.lines.fresh _ _ _ _ live, ?_⟩
    have length : opened.length = w.client.session.queues.length :=
      h.lines.length.trans (List.length_map _).symm
    rw [queues, length, List.getElem?_concat_length]

/-- What stands in the history of a run and the state that it has come to go on together. -/
theorem Wired.perform (h : w.Wired opened sent calls)
    (reached : Outline.Reachable settings medium w.client.outline)
    (room : w.client.session.correlator.size ≤ mostCalls) (event : Event) :
    (w.perform event).Wired (opened ++ w.opens event)
      (fun index => sent index ++ w.sendsOver index event)
      (fun peer => calls peer ++ w.callsTo peer event) := by
  have lines := lines_perform reached room h.lines event
  have asks {peer : Nat} (unknown : peer ∉ opened) : w.callsTo peer event = [] := by
    refine List.eq_nil_iff_forall_not_mem.mpr fun call asked => ?_
    obtain ⟨job, generation, index, stage, acts, activity, -⟩ := exists_writer asked
    obtain ⟨-, live, -⟩ := acting?_eq_some acts
    rw [activity] at live
    exact unknown (List.mem_of_getElem? (h.lines.writes _ _ _ _ _ live))
  have silent {index : Nat} (beyond : w.client.session.outboxes.length ≤ index) :
      w.sendsOver index event = [] := by
    refine if_neg fun current => ?_
    obtain ⟨box, found, -⟩ := reached.staffed.linked.isOpen index current
    exact Nat.lt_irrefl _ (Nat.lt_of_lt_of_le (List.getElem?_eq_some_iff.mp found).1 beyond)
  -- a connection is an old one, or it is installed now
  have cases {index peer : Nat} (own : (opened ++ w.opens event)[index]? = some peer) :
      opened[index]? = some peer ∨ opened.length ≤ index ∧ peer ∈ w.opens event := by
    rw [List.getElem?_append] at own
    split at own
    · exact .inl own
    · next beyond => exact .inr ⟨Nat.le_of_not_lt beyond, List.mem_of_getElem? own⟩
  constructor
  · exact lines
  · intro index peer own
    rcases cases own with old | ⟨beyond, new⟩
    · exact h.flow_perform reached room old event
    · obtain ⟨one, unknown, queue⟩ := h.opens_new room new
      have last : index = opened.length := by
        have within := (List.getElem?_eq_some_iff.mp own).1
        rw [one, List.length_append, List.length_singleton] at within
        omega
      have beyond' : w.client.session.outboxes.length ≤ index := by
        rw [h.lines.length] at beyond
        exact beyond
      rw [h.future index beyond', silent beyond', h.strangers peer unknown, asks unknown, last]
      exact ⟨[], [], queue, .inl rfl, rfl⟩
  · intro id peer generation index live
    exact h.closing_perform reached room live
  · intro index peer own asked
    rcases cases own with old | ⟨beyond, new⟩
    · exact h.closed_perform reached room old event asked
    · obtain ⟨-, unknown, -⟩ := h.opens_new room new
      rw [h.strangers peer unknown, asks unknown] at asked
      exact absurd asked List.not_mem_nil
  · intro index beyond
    have grown := lines.length
    rw [List.length_append, h.lines.length] at grown
    have beyond' : w.client.session.outboxes.length ≤ index :=
      Nat.le_trans (Nat.le_trans (Nat.le_add_right _ _) (Nat.le_of_eq grown)) beyond
    rw [h.future index beyond', silent beyond']
    rfl
  · intro peer unknown
    rw [List.mem_append, not_or] at unknown
    rw [h.strangers peer unknown.1, asks unknown.1]
    rfl

end

/-! ## Runs -/

/-- The peers of the connections that were installed in a run, one after another. -/
def opened (settings : Settings) (medium : Medium) (events : List Event) : List Nat :=
  gathered opens { client := Client.create settings medium } events

/-- The frames that were sent over a connection in a run while it was the current one, one after
another. -/
def sentOver (settings : Settings) (medium : Medium) (events : List Event) (index : Nat) :
    List Bytes :=
  gathered (fun w => w.sendsOver index) { client := Client.create settings medium } events

/-- What was asked in a run of the sink that leads to a peer, one after another. -/
def sinkCalls (settings : Settings) (medium : Medium) (events : List Event) (peer : Nat) :
    List SinkCall :=
  gathered (fun w => w.callsTo peer) { client := Client.create settings medium } events

theorem opened_concat (settings : Settings) (medium : Medium) (events : List Event)
    (event : Event) : opened settings medium (events ++ [event]) =
      opened settings medium events ++ (run settings medium events).opens event :=
  gathered_concat ..

/-- A connection that was installed keeps its peer. -/
theorem getElem?_opened {events : List Event}
    (own : (opened settings medium events)[index]? = some peer) (more : List Event) :
    (opened settings medium (events ++ more))[index]? = some peer := by
  induction more using List.reverseRecOn with
  | nil =>
    rw [List.append_nil]
    exact own
  | append_singleton more event ih =>
    rw [← List.append_assoc, opened_concat,
      List.getElem?_append_left (List.getElem?_eq_some_iff.mp ih).1]
    exact ih

theorem sentOver_concat (settings : Settings) (medium : Medium) (events : List Event)
    (event : Event) : sentOver settings medium (events ++ [event]) = fun index =>
      sentOver settings medium events index ++ (run settings medium events).sendsOver index event :=
  funext fun _ => gathered_concat ..

theorem sinkCalls_concat (settings : Settings) (medium : Medium) (events : List Event)
    (event : Event) : sinkCalls settings medium (events ++ [event]) = fun peer =>
      sinkCalls settings medium events peer ++ (run settings medium events).callsTo peer event :=
  funext fun _ => gathered_concat ..

theorem wired_run (settings : Settings) (medium : Medium) (events : List Event) :
    (run settings medium events).Wired (opened settings medium events)
      (sentOver settings medium events) (sinkCalls settings medium events) := by
  induction events using List.reverseRecOn with
  | nil =>
    exact ⟨Outline.lines_start settings medium, fun _ _ own => (nomatch own),
      fun _ _ _ _ live => absurd live List.not_mem_nil, fun _ _ own => (nomatch own),
      fun _ _ => rfl, fun _ _ => rfl⟩
  | append_singleton events event ih =>
    rw [run_concat, opened_concat, sentOver_concat, sinkCalls_concat]
    exact ih.perform (Outline.reachable_run settings medium events)
      (size_le_mostCalls settings medium events) event

end World

end LspClient
