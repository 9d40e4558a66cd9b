import LspClient.Proofs.Client.Alike

/-!
# Two clients that go on side by side

Nobody but a reader looks at what is under way to a client, and nobody looks at its log. So
the step of any other job takes clients that are alike to clients that are alike, and a
reader's step does so if it finds the same in both. The same then holds of every event
(`World.Alike.perform`).

If the view shows all that is under way, and hides only the pieces in which a stream was
sent, readers do find the same (`World.Alike.finding?`), so that clients that are alike in this
way stay so whatever happens.
-/

namespace LspClient

variable {v : View}

namespace Client

variable {c d : Client} {id : JobId}

namespace Alike

/-! ### Losing a connection, and writing -/

theorem endLoss (h : Alike v c d) (id : JobId) (outbox? : Option Nat) :
    Alike v (c.endLoss id outbox?) (d.endLoss id outbox?) := by
  unfold Client.endLoss
  rw [h.session]
  exact (h.withSession _).finish id

theorem stepLoss (h : Alike v c d) (id : JobId) (generation : Nat) (outbox? : Option Nat)
    (stage : LossStage) :
    Alike v (c.stepLoss id generation outbox? stage) (d.stepLoss id generation outbox? stage) := by
  cases stage with
  | reporting =>
    unfold Client.stepLoss
    rw [h.session]
    cases d.session.reportLoss? generation with
    | none => exact h.endLoss id outbox?
    | some session => exact (h.cancelReader.withSession session).become id _
  | deciding =>
    unfold Client.stepLoss
    rw [h.session]
    dsimp only
    split
    · exact (h.log _ _).become id _
    · exact ((h.log _ _).spawn _).endLoss id outbox?
  | closing =>
    unfold Client.stepLoss
    obtain ⟨open_, open'⟩ | ⟨closed, closed', writer?, closes, closes', alike⟩ := h.close?
    · rw [open_, open']
      exact h.endLoss id outbox?
    · rw [closes, closes']
      exact alike.become id _
  | draining =>
    unfold Client.stepLoss
    rw [h.session]
    exact (h.withSession _).endLoss id outbox?

theorem stepWrite (h : Alike v c d) (id : JobId) (peer generation outbox : Nat)
    (stage : WriteStage) :
    Alike v (c.stepWrite id peer generation outbox stage)
      (d.stepWrite id peer generation outbox stage) := by
  cases stage with
  | idle =>
    unfold Client.stepWrite
    rw [h.session, h.medium]
    dsimp only
    cases d.session.outboxes[outbox]? with
    | none => exact h.finish id
    | some o =>
      dsimp only
      rcases o.commands with _ | ⟨_ | _, rest⟩
      · dsimp only
        split
        · exact h.become id _
        · exact h
      · exact (h.withSession _).become id _
      · exact (h.withSession _).become id _
  | writing left =>
    unfold Client.stepWrite
    dsimp only
    obtain ⟨gone, gone'⟩ | ⟨p, q, found, found', same⟩ := Loopback.peer?_congr h.loopback peer
    · rw [gone, gone']
      exact h.endLoss id (some outbox)
    · rw [found, found', h.medium]
      dsimp only
      obtain ⟨e, fails, fails'⟩ | ⟨p', q', left, wrote, wrote', rest⟩ := Peer.write_congr same left
      · have logged := h.log [.warning ("LSP write error: " ++ e.message)]
          [.warning ("LSP write error: " ++ e.message)]
        rw [fails, fails']
        dsimp only
        rw [logged.session]
        split
        · exact logged.endLoss id (some outbox)
        · exact logged.become id _
      · rw [wrote, wrote']
        exact (h.modifyPeer fun _ _ _ _ _ => rest).become id _
  | closing =>
    unfold Client.stepWrite
    exact (h.modifyPeer fun _ _ _ _ => Peer.close_congr).endLoss id (some outbox)

/-! ### Answering, waiting and calling -/

theorem stepReply (h : Alike v c d) (id : JobId) (request : Request) (stage : ReplyStage) :
    Alike v (c.stepReply id request stage) (d.stepReply id request stage) := by
  cases stage with
  | arriving =>
    unfold Client.stepReply
    have noted := h.noteInvocation (d.session.dispatcher.invocation? (.request request))
    rw [h.session]
    dsimp only
    rw [noted.session, noted.clock]
    cases (d.noteInvocation (d.session.dispatcher.invocation? (.request request))).session
        |>.dispatcher.take request with
    | replied response => exact noted.become id _
    | called work =>
      cases work with
      | crashed => exact noted.finish id
      | running millis ending => exact noted.become id _
  | working until_ ending => exact (h.log _ _).become id _
  | replying response =>
    unfold Client.stepReply
    rw [h.session]
    dsimp only
    split
    · exact h.finish id
    · cases d.session.send (.response response) with
      | error => exact h.finish id
      | ok session => exact (h.withSession session).finish id

theorem timeoutOf (h : Alike v c d) (ticket : Ticket) :
    c.timeoutOf ticket = d.timeoutOf ticket := by
  unfold Client.timeoutOf
  rw [h.session]

theorem stepExpire (h : Alike v c d) (id : JobId) (ticket : Ticket) :
    Alike v (c.stepExpire id ticket) (d.stepExpire id ticket) := by
  unfold Client.stepExpire
  rw [h.timeoutOf, h.session]
  cases d.session.expire? ticket (d.timeoutOf ticket) with
  | none => exact h.finish id
  | some session => exact ((h.withSession session).log _ _).finish id

theorem conclude (h : Alike v c d) (id : JobId) (request : PendingRequest) (receiver : Receiver)
    (outcome : Outcome) :
    Alike v (c.conclude id request receiver outcome) (d.conclude id request receiver outcome) := by
  have cancelled := h.cancelJob request.timer
  cases receiver with
  | printer echo => exact (cancelled.print _).finish id
  | caller | keeper => exact (cancelled.noteResult id _).finish id

theorem stepAwait (h : Alike v c d) (id : JobId) (request : PendingRequest)
    (receiver : Receiver) (stage : AwaitStage) :
    Alike v (c.stepAwait id request receiver stage) (d.stepAwait id request receiver stage) := by
  unfold Client.stepAwait
  cases stage with
  | looking =>
    dsimp only
    rw [h.session]
    cases d.session.outcome? request.ticket with
    | some outcome => exact h.conclude id request receiver outcome
    | none =>
      dsimp only
      by_cases early : d.clock < request.deadline
      · rw [if_pos early, if_pos (h.clock ▸ early)]
        exact h
      · rw [if_neg early, if_neg (h.clock ▸ early)]
        exact h.become id _
  | late =>
    dsimp only
    rw [h.timeoutOf, h.session]
    cases d.session.abandon? request.ticket with
    | none => exact h.conclude id request receiver _
    | some session => exact ((h.withSession session).log _ _).conclude id request receiver _

theorem stepCall (h : Alike v c d) (id : JobId) (method : String) (params : Option Json) :
    Alike v (c.stepCall id method params) (d.stepCall id method params) := by
  unfold Client.stepCall
  obtain ⟨c', d', result, asked, asked', alike⟩ := h.request none method params
  rw [asked, asked']
  cases result with
  | ok request => exact alike.become id _
  | error e => exact (alike.noteResult id _).finish id

/-! ### Looking for a connection, and shutting down -/

theorem openGate (h : Alike v c d) : Alike v c.openGate d.openGate := by
  unfold Client.openGate
  rw [h.gateQueue]
  cases d.gateQueue with
  | nil => exact h.withGate none []
  | cons next rest => exact h.withGate (some next) rest

theorem endSearch (h : Alike v c d) (id : JobId) (why : Search) (error? : Option SessionError) :
    Alike v (c.endSearch id why error?) (d.endSearch id why error?) := by
  cases why with
  | first => exact (h.openGate.noteResult id _).finish id
  | again => exact h.openGate.finish id

theorem giveUpSearch (h : Alike v c d) (id : JobId) :
    Alike v (c.giveUpSearch id) (d.giveUpSearch id) := by
  unfold Client.giveUpSearch
  rw [h.gateHolder?, h.gateQueue]
  split
  · exact h.openGate.finish id
  · exact (h.withGate d.gateHolder? _).finish id

theorem toAttempt (h : Alike v c d) (id : JobId) (why : Search) (attempt : Nat) :
    Alike v (c.toAttempt id why attempt) (d.toAttempt id why attempt) := by
  unfold Client.toAttempt
  rw [h.clock, h.session]
  cases why.retry attempt with
  | zero => exact h.become id _
  | succ retry => exact h.become id _

theorem failSearch (h : Alike v c d) (id : JobId) (why : Search) (error : SessionError) :
    Alike v (c.failSearch id why error) (d.failSearch id why error) := by
  cases why with
  | first => exact h.become id _
  | again =>
    cases error with
    | invalidState => exact h.become id _
    | connectFailed => exact (h.log _ _).become id _

theorem nextAttempt (h : Alike v c d) (id : JobId) (why : Search) (made : Nat)
    (last : ConnectError) :
    Alike v (c.nextAttempt id why made last) (d.nextAttempt id why made last) := by
  unfold Client.nextAttempt
  rw [h.session]
  dsimp only
  split
  · exact h.toAttempt id why _
  · exact h.failSearch id why _

theorem failAttempt (h : Alike v c d) (id : JobId) (why : Search) (attempt : Nat)
    (error : ConnectError) :
    Alike v (c.failAttempt id why attempt error) (d.failAttempt id why attempt error) := by
  unfold Client.failAttempt
  rw [h.session]
  exact (h.log _ _).nextAttempt id why attempt error

theorem stepSearch (h : Alike v c d) (id : JobId) (why : Search) (stage : SearchStage) :
    Alike v (c.stepSearch id why stage) (d.stepSearch id why stage) := by
  unfold Client.stepSearch
  cases stage with
  | arriving =>
    dsimp only
    rw [h.gateHolder?, h.gateQueue]
    cases d.gateHolder? with
    | none => exact (h.withGate (some id) _).become id _
    | some holder => exact (h.withGate (some holder) _).become id _
  | atGate =>
    dsimp only
    rw [h.session]
    split
    · exact h.nextAttempt id why 0 Client.noAttempt
    · exact h.become id _
  | backingOff attempt until_ => exact h.become id _
  | checking attempt =>
    dsimp only
    rw [h.session]
    split
    · exact h.become id _
    · exact h.failSearch id why _
  | starting attempt =>
    have begun : ((c.loopback.beginOpen c.clock).1.through v, (c.loopback.beginOpen c.clock).2) =
        ((d.loopback.beginOpen d.clock).1.through v, (d.loopback.beginOpen d.clock).2) := by
      rw [← Loopback.beginOpen_through, ← Loopback.beginOpen_through, h.loopback, h.clock]
    obtain ⟨same, resume⟩ := Prod.mk.inj begun
    have due : Clock.due c.clock c.session.settings.connectTimeout.toNat =
        Clock.due d.clock d.session.settings.connectTimeout.toNat := by rw [h.clock, h.session]
    dsimp only
    rw [due, resume, Loopback.attempts_congr same]
    exact (h.withLoopback same).become id _
  | opening attempt number deadline resume? =>
    have finished : ((c.loopback.finishOpen number).1.through v, (c.loopback.finishOpen number).2) =
        ((d.loopback.finishOpen number).1.through v, (d.loopback.finishOpen number).2) := by
      rw [← Loopback.finishOpen_through, ← Loopback.finishOpen_through, h.loopback]
    have timeout : c.session.settings.connectTimeout = d.session.settings.connectTimeout := by
      rw [h.session]
    dsimp only
    rw [timeout]
    by_cases resumed : resume?.any (· ≤ d.clock) = true
    · rw [if_pos resumed, if_pos (h.clock ▸ resumed)]
      generalize c.loopback.finishOpen number = opened at finished ⊢
      generalize d.loopback.finishOpen number = opened' at finished ⊢
      obtain ⟨l, result⟩ := opened
      obtain ⟨l', result'⟩ := opened'
      obtain ⟨same, same'⟩ := Prod.mk.inj finished
      cases same'
      cases result with
      | ok peer => exact (h.withLoopback same).become id _
      | error e => exact (h.withLoopback same).failAttempt id why attempt e
    · rw [if_neg resumed, if_neg (h.clock ▸ resumed)]
      exact h.failAttempt id why attempt _
  | installing attempt peer =>
    have installs : c.session.install why.state c.nextJob (c.nextJob + 1) =
        d.session.install why.state d.nextJob (d.nextJob + 1) := by rw [h.session, h.nextJob]
    dsimp only
    rw [installs, h.session]
    cases d.session.install why.state d.nextJob (d.nextJob + 1) with
    | ok session => exact (((h.withSession session).spawn _).spawn _).become id _
    | error e =>
      exact (h.modifyPeer fun _ _ _ _ same =>
        Peer.unhear_congr (Peer.close_congr same)).failSearch id why e
  | closing error =>
    dsimp only
    obtain ⟨open_, open'⟩ | ⟨closed, closed', writer?, closes, closes', alike⟩ := h.close?
    · rw [open_, open']
      exact h.become id _
    · rw [closes, closes']
      exact alike.become id _
  | draining error =>
    dsimp only
    rw [h.session]
    exact (h.withSession _).become id _
  | leaving error? => exact h.endSearch id why error?

theorem stepShutdown (h : Alike v c d) (id : JobId) (stage : ShutdownStage) :
    Alike v (c.stepShutdown id stage) (d.stepShutdown id stage) := by
  unfold Client.stepShutdown
  cases stage with
  | closing =>
    dsimp only
    obtain ⟨open_, open'⟩ | ⟨closed, closed', writer?, closes, closes', alike⟩ := h.close?
    · rw [open_, open']
      exact (h.noteResult id _).finish id
    · rw [closes, closes']
      exact alike.become id _
  | draining writer? =>
    have due : c.clock + flushTimeout = d.clock + flushTimeout := by rw [h.clock]
    dsimp only
    rw [due, h.session]
    exact (h.withSession _).become id _
  | flushing => exact (h.noteResult id _).finish id

/-! ### The command line -/

theorem sendLine (h : Alike v c d) (line : CommandLine.Outgoing) :
    Alike v (c.sendLine line).1 (d.sendLine line).1 ∧
      (c.sendLine line).2 = (d.sendLine line).2 := by
  unfold Client.sendLine
  cases line with
  | notification method params =>
    obtain ⟨c', d', result, told, told', alike⟩ := h.notify method params
    dsimp only
    rw [told, told']
    cases result with
    | ok => exact ⟨alike, rfl⟩
    | error e => exact ⟨alike.log _ _, rfl⟩
  | request echo method params =>
    obtain ⟨c', d', result, asked, asked', alike⟩ := h.request none method params
    dsimp only
    rw [asked, asked']
    cases result with
    | ok request => exact ⟨alike.spawn _, congrArg some alike.nextJob⟩
    | error e => exact ⟨alike.print _, rfl⟩

theorem takeLine (h : Alike v c d) (line : List Char) :
    Alike v (c.takeLine line).1 (d.takeLine line).1 ∧
      (c.takeLine line).2 = (d.takeLine line).2 := by
  unfold Client.takeLine
  rcases CommandLine.readLine line with e | _ | outgoing
  · exact ⟨h.log _ _, rfl⟩
  · exact ⟨h, rfl⟩
  · exact h.sendLine outgoing

theorem endForward (h : Alike v c d) (id : JobId) (waiting : List JobId)
    (result : Except ForwardError Unit) :
    Alike v (c.endForward id waiting result) (d.endForward id waiting result) :=
  ((h.cancelJobs waiting).noteResult id _).finish id

theorem stepIdleForward (h : Alike v c d) (id : JobId) (waiting : List JobId) :
    Alike v (c.stepIdleForward id waiting) (d.stepIdleForward id waiting) := by
  unfold Client.stepIdleForward
  rw [h.console, h.session]
  cases d.console.interrupt? with
  | some interrupt => exact (h.log _ _).endForward id waiting _
  | none =>
    dsimp only
    split
    · exact h.endForward id waiting _
    · exact h

theorem stepForward (h : Alike v c d) (id : JobId) (waiting : List JobId) (stage : ForwardStage) :
    Alike v (c.stepForward id waiting stage) (d.stepForward id waiting stage) := by
  cases stage with
  | reading =>
    unfold Client.stepForward
    rw [h.console]
    dsimp only
    cases d.console.next with
    | none => exact h.stepIdleForward id waiting
    | ended => exact h.become id _
    | line content rest =>
      have taken := h.withConsole { d.console with input := rest }
      dsimp only
      cases Utf8.decode content with
      | error fault => exact taken.endForward id waiting _
      | ok line =>
        obtain ⟨alike, same⟩ := taken.takeLine line
        dsimp only
        rw [same]
        exact alike.become id _
  | finishing => exact h.endForward id waiting _

/-! ### Reading -/

/-- Readers that find the same take alike clients to alike clients. -/
theorem stepRead (h : Alike v c d) (id : JobId) (peer generation : Nat)
    (finds : ∀ p q, c.loopback.peer? peer = some p → d.loopback.peer? peer = some q →
      (p.read d.loopback.medium).2 = (q.read d.loopback.medium).2) :
    Alike v (c.stepRead id peer generation) (d.stepRead id peer generation) := by
  unfold Client.stepRead
  obtain ⟨gone, gone'⟩ | ⟨p, q, found, found', same⟩ := Loopback.peer?_congr h.loopback peer
  · rw [gone, gone']
    exact h.finish id
  · have incoming := finds p q found found'
    have rest := Peer.read_congr_through same incoming
    rw [found, found', h.medium]
    dsimp only
    generalize p.read d.loopback.medium = read at incoming rest ⊢
    generalize q.read d.loopback.medium = read' at incoming rest ⊢
    obtain ⟨p', incoming⟩ := read
    obtain ⟨q', incoming'⟩ := read'
    cases incoming
    -- from here on both readers have the same message, or none, and the same session
    have left : Alike v (c.modifyPeer peer fun _ => p') (d.modifyPeer peer fun _ => q') :=
      h.modifyPeer fun _ _ _ _ _ => rest
    dsimp only
    rw [left.session]
    split
    · exact (left.unhear peer).finish id
    · cases incoming with
      | nothing => exact left
      | message body =>
        dsimp only
        generalize (d.modifyPeer peer fun _ => q').session.receive body = received
        obtain ⟨session, reaction⟩ := received
        have told := ((left.withSession session).log reaction.records reaction.records)
          |>.noteInvocation reaction.invocation?
        cases reaction.request? with
        | none => exact told
        | some request => exact told.spawn _
      | broken e => exact ((left.unhear peer).log _ _).become id _
      | ended => exact (left.unhear peer).become id _

theorem stepCancelled (h : Alike v c d) (job : Job) :
    Alike v (c.stepCancelled job) (d.stepCancelled job) := by
  unfold Client.stepCancelled
  cases job.activity with
  | read peer generation => exact (h.unhear peer).finish job.id
  | await request receiver stage => exact (h.dropRequest request).finish job.id
  | search why stage => exact h.giveUpSearch job.id
  | _ => exact h.finish job.id

end Alike

/-- What a reader finds that has not heeded that it was cancelled. -/
def finding? (c : Client) (job : Job) : Option Peer.Incoming :=
  match job.activity with
  | .read peer _ =>
    if job.isCancelled then none
    else (c.loopback.peer? peer).map fun p => (p.read c.loopback.medium).2
  | _ => none

namespace Alike

variable {job : Job}

theorem step (h : Alike v c d) (finds : c.finding? job = d.finding? job) :
    Alike v (c.step job) (d.step job) := by
  unfold Client.step
  split
  · exact h.stepCancelled job
  · next goesOn =>
    cases activity : job.activity with
    | read peer generation =>
      refine h.stepRead job.id peer generation fun p q found found' => ?_
      unfold finding? at finds
      rw [activity, h.medium] at finds
      dsimp only at finds
      rw [if_neg goesOn, if_neg goesOn, found, found'] at finds
      exact Option.some.inj finds
    | write peer generation outbox stage => exact h.stepWrite job.id peer generation outbox stage
    | lose generation outbox? stage => exact h.stepLoss job.id generation outbox? stage
    | reply request stage => exact h.stepReply job.id request stage
    | expire ticket deadline => exact h.stepExpire job.id ticket
    | call method params => exact h.stepCall job.id method params
    | await request receiver stage => exact h.stepAwait job.id request receiver stage
    | search why stage => exact h.stepSearch job.id why stage
    | shutDown stage => exact h.stepShutdown job.id stage
    | forward stage waiting => exact h.stepForward job.id waiting stage

theorem isWriteReady (h : Alike v c d) (peer outbox : Nat) (stage : WriteStage) :
    c.isWriteReady peer outbox stage = d.isWriteReady peer outbox stage := by
  cases stage with
  | idle =>
    unfold Client.isWriteReady
    rw [h.session]
  | writing left =>
    unfold Client.isWriteReady
    dsimp only
    obtain ⟨gone, gone'⟩ | ⟨p, q, found, found', same⟩ := Loopback.peer?_congr h.loopback peer
    · rw [gone, gone']
      rfl
    · rw [found, found', h.medium]
      show (p.through v d.loopback.medium).canWrite _ = (q.through v d.loopback.medium).canWrite _
      rw [same]
  | closing => rfl

theorem isForwardReady (h : Alike v c d) (waiting : List JobId) (stage : ForwardStage) :
    c.isForwardReady waiting stage = d.isForwardReady waiting stage := by
  cases stage with
  | reading =>
    unfold Client.isForwardReady
    rw [h.console, h.session]
  | finishing =>
    unfold Client.isForwardReady
    simp only [h.job?]

/-- A job can go on in both clients or in neither. -/
theorem isReady (h : Alike v c d) (finds : c.finding? job = d.finding? job) :
    c.isReady job = d.isReady job := by
  unfold Client.isReady
  cases cancelled : job.isCancelled with
  | true => rfl
  | false =>
    -- only a reader looks at what may differ, and what it finds does not
    cases activity : job.activity with
    | read peer generation =>
      unfold finding? at finds
      rw [activity, cancelled] at finds
      dsimp only at finds ⊢
      obtain ⟨gone, gone'⟩ | ⟨p, q, found, found', -⟩ := Loopback.peer?_congr h.loopback peer
      · rw [gone, gone']
        rfl
      · rw [if_neg Bool.false_ne_true, if_neg Bool.false_ne_true, found, found'] at finds
        have same : (p.read c.loopback.medium).2 = (q.read d.loopback.medium).2 :=
          Option.some.inj finds
        rw [found, found', Option.all_some, Option.all_some]
        unfold Peer.canRead
        rw [same]
    | write peer generation outbox stage => exact h.isWriteReady peer outbox stage
    | forward stage waiting => exact h.isForwardReady waiting stage
    | reply request stage => cases stage <;> simp only [h.clock]
    | expire ticket deadline => simp only [h.clock]
    | await request receiver stage => cases stage <;> simp only [h.clock, h.session]
    | search why stage => cases stage <;> simp only [h.clock, h.gateHolder?]
    | shutDown stage => cases stage <;> simp only [h.clock, h.job?]
    | lose | call => rfl

theorem takeTurn (h : Alike v c d) (id : JobId) (heeds : Bool)
    (finds : (d.turning? id heeds).bind c.finding? = (d.turning? id heeds).bind d.finding?) :
    Alike v (c.takeTurn id heeds) (d.takeTurn id heeds) := by
  unfold Client.takeTurn
  rw [h.turning?]
  cases found : d.turning? id heeds with
  | none => exact h
  | some job =>
    rw [found] at finds
    dsimp only
    rw [h.isReady finds]
    split
    · exact h.step finds
    · exact h

end Alike

/-- If all that is under way can be seen, readers find the same. -/
theorem Alike.finding? (h : Alike .split c d) (job : Job) : c.finding? job = d.finding? job := by
  unfold Client.finding?
  cases job.activity with
  | read peer generation =>
    dsimp only
    split
    · rfl
    · obtain ⟨gone, gone'⟩ | ⟨p, q, found, found', same⟩ := Loopback.peer?_congr h.loopback peer
      · rw [gone, gone']
        rfl
      · rw [found, found', h.medium]
        exact congrArg some
          (Peer.read_split (Peer.isGone_congr same) (Peer.toClient_congr same)).1
  | _ => rfl

end Client

/-! ## Worlds -/

namespace World

variable {w w' : World} {event : Event}

/-- Whether two worlds differ at most in what the view does not show of their clients. -/
structure Alike (v : View) (w w' : World) : Prop where
  client : w.client.Alike v w'.client
  held : w.held = w'.held

/-- What the reader finds whose turn it is, unless it heeds that it was cancelled. -/
def finding? (w : World) : Event → Option Peer.Incoming
  | .turn id heeds => (w.client.turning? id heeds).bind w.client.finding?
  | _ => none

namespace Alike

theorem trans {w'' : World} (h : Alike v w w') (next : Alike v w' w'') : Alike v w w'' :=
  ⟨Eq.trans h.client next.client, h.held.trans next.held⟩

/-- Whatever the server and the medium come to be, and whatever they send. -/
theorem serve (h : Alike v w w') {l l' : Loopback} (same : l.through v = l'.through v) :
    Alike v (w.occur (.serve l)) (w'.occur (.serve l')) := by
  unfold World.occur
  dsimp only
  rw [Loopback.length_peers_congr h.client.loopback, Loopback.attempts_congr h.client.loopback,
    Loopback.length_peers_congr same, Loopback.attempts_congr same]
  split
  · exact ⟨h.client.withLoopback same, h.held⟩
  · exact h

theorem occur (h : Alike v w w') (finds : w.finding? event = w'.finding? event) :
    Alike v (w.occur event) (w'.occur event) := by
  have client := h.client
  -- what takes a handle does nothing in either world, or something in both
  have guarded {c d : Client} (alike : c.Alike v d) :
      Alike v (if w.client.isHeld then { w with client := c } else w)
        (if w'.client.isHeld then { w' with client := d } else w') := by
    rw [client.isHeld]
    split
    · exact ⟨alike, h.held⟩
    · exact h
  cases event with
  | turn id heeds =>
    unfold World.finding? at finds
    dsimp only at finds
    rw [client.turning?] at finds
    exact ⟨client.takeTurn id heeds finds, h.held⟩
  | request id? method params =>
    obtain ⟨c', d', result, asked, asked', alike⟩ := client.request id? method params
    unfold World.occur
    dsimp only
    rw [client.isHeld, h.held]
    split
    · rw [asked, asked']
      cases result with
      | ok request => exact ⟨alike, rfl⟩
      | error e => exact ⟨alike, rfl⟩
    · exact h
  | notify method params =>
    obtain ⟨c', d', result, told, told', alike⟩ := client.notify method params
    have after : (w.client.notify method params).1.Alike v (w'.client.notify method params).1 := by
      rw [told, told']
      exact alike
    exact guarded after
  | cancel id => exact guarded (client.cancel id)
  | cancelRequest id => exact guarded (client.cancelRequest id)
  | connect => exact guarded (client.spawn _)
  | call method params => exact guarded (client.spawn _)
  | shutDown => exact guarded (client.spawn _)
  | forward => exact guarded (client.spawn _)
  | route dispatcher =>
    exact guarded (client.map
      (fun c => { c with session := { c.session with dispatcher } }) fun _ => rfl)
  | dropHandle => exact ⟨client.dropHandle, h.held⟩
  | await request =>
    unfold World.occur
    dsimp only
    rw [h.held]
    split
    · exact ⟨client.spawn _, rfl⟩
    · exact h
  | dropRequest request =>
    unfold World.occur
    dsimp only
    rw [h.held]
    split
    · exact ⟨client.dropRequest request, rfl⟩
    · exact h
  | abort id => exact ⟨client.abortJob id, h.held⟩
  | serve loopback => exact h.serve rfl
  | type console => exact ⟨client.withConsole console, h.held⟩
  | wait millis =>
    exact ⟨client.map (fun c => { c with clock := c.clock + millis }) fun _ => rfl, h.held⟩

/-- The same job goes on in both worlds. -/
theorem acting? (h : Alike v w w') (finds : w.finding? event = w'.finding? event) :
    w.acting? event = w'.acting? event := by
  cases event with
  | turn id heeds =>
    unfold World.finding? at finds
    unfold World.acting?
    dsimp only at finds ⊢
    rw [h.client.turning?] at finds ⊢
    cases found : w'.client.turning? id heeds with
    | none => rfl
    | some job =>
      rw [found] at finds
      rw [Option.filter_some, Option.filter_some, h.client.isReady finds]
  | _ => rfl

/-- There is room for what happens in both worlds or in neither. -/
theorem perform_of_occur {event' : Event} (h : Alike v w w')
    (next : Alike v (w.occur event) (w'.occur event')) :
    Alike v (w.perform event) (w'.perform event') := by
  unfold World.perform
  dsimp only
  rw [next.client.session]
  split
  · exact next
  · exact h

/-- An event at which readers find the same takes worlds that are alike to worlds that are
alike. -/
theorem perform (h : Alike v w w') (finds : w.finding? event = w'.finding? event) :
    Alike v (w.perform event) (w'.perform event) := h.perform_of_occur (h.occur finds)

/-- If all that is under way can be seen, the reader whose turn it is finds the same. -/
theorem finding? (h : Alike .split w w') (event : Event) :
    w.finding? event = w'.finding? event := by
  cases event with
  | turn id heeds =>
    unfold World.finding?
    dsimp only
    rw [h.client.turning?]
    cases w'.client.turning? id heeds with
    | none => rfl
    | some job => exact h.client.finding? job
  | _ => rfl

end Alike

end World

end LspClient
