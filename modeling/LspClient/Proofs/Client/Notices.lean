import LspClient.Proofs.Client.Reconnect
import LspClient.Proofs.Client.Touch
import LspClient.Proofs.Framing.RoundTrip

/-!
# Notifications are handled in order

A reader takes the frames of its connection one at a time, the oldest first
(`World.gathered_takes`), and does nothing else in between. If a frame is a
notification whose method has a handler for notifications at that moment, the handler runs
to its end before the event is over, and nothing else happens but that its records are
logged, the one of its crash included. So the calls of these handlers are the notifications
that were taken in, in that order and each once, and a response that comes after them in the
stream finds them all handled (`World.notifies_in_order`).
-/

namespace LspClient

/-- A notification whose handler is called, with what the handler does. -/
structure Notice where
  notification : Notification
  run : NotificationRun

/-- The call of the handler. -/
def Notice.invocation (n : Notice) : Invocation :=
  ⟨.notification, n.notification.method, n.notification.params⟩

/-- What the handler logs, and the record of its crash. -/
def Notice.records (n : Notice) : List LogRecord :=
  n.run.records ++
    (n.run.crash?.map fun crash =>
      { level := .error
        message := "Notification handler panicked: " ++ crash.reason
        fields := [("method", .string n.notification.method)] : LogRecord }).toList

/-- What a frame leads to if it is a notification whose method has a handler for
notifications. -/
def Dispatcher.notice? (d : Dispatcher) (frame : Bytes) : Option Notice :=
  match Envelope.decode frame with
  | .ok (.notification n) =>
    match d.find? n.method with
    | some (.notification run) => some ⟨n, run n.params⟩
    | _ => none
  | _ => none

/-- A frame leads to the call of a notification handler only in this way. -/
theorem Session.invocation?_receive (s : Session) (frame : Bytes) :
    (s.receive frame).2.invocation? = (s.dispatcher.notice? frame).map Notice.invocation := by
  unfold receive Dispatcher.notice?
  cases decoded : Envelope.decode frame with
  | error => rfl
  | ok message =>
    cases message with
    | request => rfl
    | response r =>
      obtain ⟨id?, outcome⟩ := r
      cases id? with
      | none => cases outcome <;> rfl
      | some id =>
        dsimp only
        cases s.correlator.answer id outcome <;> rfl
    | notification n =>
      unfold Dispatcher.invocation?
      dsimp only
      cases s.dispatcher.find? n.method with
      | none => rfl
      | some handler => cases handler <;> rfl

/-- A notification that has a handler changes nothing in the session. -/
theorem Session.receive_notice {s : Session} {frame : Bytes} {n : Notice}
    (h : s.dispatcher.notice? frame = some n) :
    s.receive frame = (s, { records := n.records, invocation? := some n.invocation }) := by
  unfold Dispatcher.notice? at h
  split at h
  · next notification decoded =>
    split at h
    · next run found =>
      cases h
      unfold receive Dispatcher.runNotification Dispatcher.invocation?
      rw [decoded]
      dsimp only
      rw [found]
      rfl
    · cases h
  · cases h

/-! ## Frames are taken from the head of the stream -/

namespace Peer

variable {p q : Peer} {medium : Medium}

/-- The first messages that reading gives, if nothing more comes in. -/
def firstMessages (medium : Medium) : Nat → Peer → List Bytes
  | 0, _ => []
  | n + 1, p =>
    match (p.read medium).2 with
    | .message body => body :: firstMessages medium n (p.read medium).1
    | _ => []

/-- Reading depends on what is under way to the client, and on whether more can come. -/
theorem read_congr (same : q.toClient = p.toClient) (gone : q.isGone = p.isGone) :
    (q.read medium).2 = (p.read medium).2 ∧
      (q.read medium).1.toClient = (p.read medium).1.toClient ∧
      (q.read medium).1.isGone = (p.read medium).1.isGone := by
  unfold read
  cases medium with
  | messages =>
    dsimp only
    rw [same, gone]
    cases p.toClient with
    | nil => exact ⟨rfl, same, gone⟩
    | cons => exact ⟨rfl, rfl, rfl⟩
  | stream capacity =>
    have incoming : q.incoming = p.incoming := by
      unfold Peer.incoming
      rw [same]
    dsimp only
    rw [incoming, gone]
    cases Framing.readFrame p.isGone p.incoming with
    | more | done => exact ⟨rfl, same, gone⟩
    | frame | failed => exact ⟨rfl, rfl, rfl⟩

theorem isGone_read (p : Peer) (medium : Medium) : (p.read medium).1.isGone = p.isGone := by
  unfold read
  cases medium with
  | messages => dsimp only; split <;> rfl
  | stream capacity => dsimp only; split <;> rfl

theorem read_of_nothing (nothing : (p.read medium).2 = .nothing) : (p.read medium).1 = p := by
  unfold read at nothing ⊢
  cases medium with
  | messages =>
    dsimp only at nothing ⊢
    split at nothing
    · cases nothing
    · rfl
  | stream capacity =>
    dsimp only at nothing ⊢
    split at nothing
    · rfl
    all_goals cases nothing

theorem firstMessages_congr (same : q.toClient = p.toClient) (gone : q.isGone = p.isGone)
    (n : Nat) : q.firstMessages medium n = p.firstMessages medium n := by
  induction n generalizing p q with
  | zero => rfl
  | succ n ih =>
    obtain ⟨read, same', gone'⟩ := read_congr (p := p) (q := q) same gone
    unfold firstMessages
    rw [read]
    split
    · rw [ih same' gone']
    · rfl

/-- No message is read from an empty stream. -/
theorem read_of_nil (empty : p.toClient = []) (body : Bytes) :
    (p.read medium).2 ≠ .message body := by
  unfold read
  cases medium with
  | messages =>
    dsimp only
    rw [empty]
    dsimp only
    split <;> exact nofun
  | stream capacity =>
    have nothing : p.incoming = [] := by
      unfold Peer.incoming
      rw [empty]
      rfl
    dsimp only
    rw [nothing]
    cases p.isGone with
    | false =>
      rw [Framing.readFrame_of_open_nil]
      exact nofun
    | true =>
      rw [Framing.readFrame_nil]
      exact nofun

theorem firstMessages_of_nil (empty : p.toClient = []) (n : Nat) :
    p.firstMessages medium n = [] := by
  cases n with
  | zero => rfl
  | succ n =>
    unfold firstMessages
    split
    · next body read => exact absurd read (read_of_nil empty body)
    · rfl

end Peer

namespace Client

variable {c : Client} {id : JobId} {job : Job} {frame : Bytes}

/-! ## A reader's step -/

/-- The client once its reader has taken a frame, with what is left of the peer. -/
def takeIn (c : Client) (peer : Nat) (p : Peer) (frame : Bytes) : Client :=
  let reaction := (c.session.receive frame).2
  let told := (({ c.modifyPeer peer fun _ => p with
    session := (c.session.receive frame).1 } : Client).log reaction.records).noteInvocation
      reaction.invocation?
  match reaction.request? with
  | some request => told.spawn (.reply request .arriving)
  | none => told

theorem loopback_takeIn (c : Client) (peer : Nat) (p : Peer) (frame : Bytes) :
    (c.takeIn peer p frame).loopback = c.loopback.modifyPeer peer fun _ => p := by
  unfold takeIn
  dsimp only
  split <;> rfl

theorem report_takeIn (c : Client) (peer : Nat) (p : Peer) (frame : Bytes) :
    (c.takeIn peer p frame).report =
      { c.report with
        records := c.report.records ++ (c.session.receive frame).2.records
        invocations :=
          c.report.invocations ++ (c.session.receive frame).2.invocation?.toList } := by
  unfold takeIn
  dsimp only
  split <;> rfl

theorem incoming?_eq_some (h : c.incoming? job = some frame) :
    ∃ peer generation p, job.activity = .read peer generation ∧ job.isCancelled = false ∧
      c.session.isDropped = false ∧ c.loopback.peer? peer = some p ∧
      (p.read c.loopback.medium).2 = .message frame := by
  unfold incoming? at h
  split at h
  · next peer generation activity =>
    split at h
    · cases h
    · next goesOn =>
      rw [Bool.or_eq_true, not_or, Bool.not_eq_true, Bool.not_eq_true] at goesOn
      split at h
      · next p found =>
        split at h
        · next body read =>
          cases h
          exact ⟨peer, generation, p, activity, goesOn.1, goesOn.2, found, read⟩
        · cases h
      · cases h
  · cases h

theorem incoming?_of_read {peer generation : Nat} {p : Peer}
    (activity : job.activity = .read peer generation) (goesOn : job.isCancelled = false)
    (alive : c.session.isDropped = false) (found : c.loopback.peer? peer = some p)
    (read : (p.read c.loopback.medium).2 = .message frame) : c.incoming? job = some frame := by
  unfold incoming?
  rw [activity, goesOn, alive]
  dsimp only
  rw [if_neg (by decide), found]
  dsimp only
  rw [read]

/-- A reader that can take in a frame need not wait. -/
theorem isReady_of_incoming (h : c.incoming? job = some frame) : c.isReady job = true := by
  obtain ⟨peer, generation, p, activity, goesOn, -, found, read⟩ := incoming?_eq_some h
  unfold isReady
  rw [activity, goesOn]
  dsimp only
  rw [found, Option.all_some, Bool.false_or]
  unfold Peer.canRead
  rw [read]

theorem step_of_incoming (h : c.incoming? job = some frame) :
    ∃ peer generation p, job.activity = .read peer generation ∧
      c.loopback.peer? peer = some p ∧ (p.read c.loopback.medium).2 = .message frame ∧
      c.step job = c.takeIn peer (p.read c.loopback.medium).1 frame := by
  obtain ⟨peer, generation, p, activity, goesOn, alive, found, read⟩ := incoming?_eq_some h
  refine ⟨peer, generation, p, activity, found, read, ?_⟩
  unfold step stepRead
  rw [activity, goesOn]
  dsimp only
  rw [found]
  dsimp only
  have alive' : (c.modifyPeer peer fun _ => (p.read c.loopback.medium).1).session.isDropped =
      false := alive
  rw [alive', read]
  rfl

theorem peer?_modifyPeer (c : Client) (index : Nat) (change : Peer → Peer) :
    (c.modifyPeer index change).loopback.peer? index =
      (c.loopback.peer? index).map change :=
  List.getElem?_modify_eq ..

/-- A reader that takes in no frame calls no handler, and what is under way stays or is lost. -/
theorem stepRead_of_nothing {peer generation : Nat}
    (activity : job.activity = .read peer generation) (nothing : c.incoming? job = none) :
    (c.step job).report.invocations = c.report.invocations ∧
      c.loopback.KeepsStream (c.step job).loopback peer := by
  have unheard {d : Client} (peers : d.loopback.KeepsStream d.loopback peer)
      (same : c.loopback.KeepsStream d.loopback peer) :
      c.loopback.KeepsStream (d.modifyPeer peer Peer.unhear).loopback peer :=
    same.trans (d.loopback.keepsStream_modifyPeer (fun p _ => p.keeps_unhear) peer)
  have refl := c.loopback.keepsStream_refl peer
  unfold step stepCancelled
  rw [activity]
  cases cancelled : job.isCancelled with
  | true =>
    rw [if_pos rfl]
    dsimp only
    rw [report_finish, loopback_finish]
    exact ⟨rfl, unheard (Loopback.keepsStream_refl _ _) refl⟩
  | false =>
    rw [if_neg Bool.false_ne_true]
    dsimp only
    unfold stepRead
    split
    · rw [report_finish, loopback_finish]
      exact ⟨rfl, refl⟩
    · next p found =>
      -- reading takes nothing away, for the connection is done with at once or was waited for
      have lost (d : Client) (peers : d.loopback =
          ((c.modifyPeer peer fun _ => (p.read c.loopback.medium).1).modifyPeer peer
            Peer.unhear).loopback) : c.loopback.KeepsStream d.loopback peer := by
        rw [peers]
        intro q found'
        rw [found] at found'
        cases found'
        refine ⟨(p.read c.loopback.medium).1.unhear, ?_, ?_⟩
        · rw [peer?_modifyPeer, peer?_modifyPeer, found]
          rfl
        · exact ⟨Peer.isGone_read .., fun _ => rfl, .inr ⟨rfl, rfl⟩⟩
      dsimp only
      split
      · rw [report_finish, loopback_finish]
        exact ⟨rfl, lost _ rfl⟩
      · next alive =>
        split
        · next idle =>
          refine ⟨rfl, c.loopback.keepsStream_modifyPeer (fun q found' => ?_) peer⟩
          rw [found] at found'
          cases found'
          rw [Peer.read_of_nothing idle]
          exact p.keeps_refl
        · next body read =>
          unfold incoming? at nothing
          have alive' : c.session.isDropped = false := Bool.eq_false_iff.mpr alive
          rw [activity, cancelled, alive'] at nothing
          dsimp only at nothing
          rw [if_neg (by decide), found] at nothing
          dsimp only at nothing
          rw [read] at nothing
          cases nothing
        · exact ⟨rfl, lost _ rfl⟩
        · exact ⟨rfl, lost _ rfl⟩

end Client

/-! ## Events -/

/-- Whether the job reads from this connection. -/
def Activity.isReaderOf (peer : Nat) : Activity → Bool
  | .read index _ => index == peer
  | _ => false

namespace World

variable {settings : Settings} {medium : Medium} {w : World} {event : Event} {frame : Bytes}
  {peer : Nat} {p : Peer}

/-- The frame that is taken from a connection at an event. -/
def takes (peer : Nat) (w : World) (event : Event) : List Bytes :=
  match w.acting? event with
  | some job => if job.activity.isReaderOf peer then (w.client.incoming? job).toList else []
  | none => []

/-- The notification whose handler is called at an event. -/
def notice? (w : World) (event : Event) : Option Notice :=
  (w.incoming? event).bind w.client.session.dispatcher.notice?

/-- The notifications that were taken in while their methods had handlers. -/
def noticesOf (settings : Settings) (medium : Medium) (events : List Event) : List Notice :=
  gathered (fun w event => (w.notice? event).toList)
    { client := Client.create settings medium } events

theorem acting_of_incoming (taken : w.incoming? event = some frame) :
    ∃ job, w.acting? event = some job ∧ w.client.incoming? job = some frame := by
  cases event with
  | turn id heeds =>
    unfold incoming? at taken
    dsimp only at taken
    split at taken
    · next job found =>
      split at taken
      · next ready => exact ⟨job, Option.filter_eq_some_iff.mpr ⟨found, ready⟩, taken⟩
      · cases taken
    · cases taken
  | _ => cases taken

/-- A frame that is taken in is the first message under way to its reader, and what is left is
all that changes at the server's end. -/
structure Takes (w : World) (event : Event) (frame : Bytes) (peer : Nat) (p : Peer) : Prop where
  reader : ∃ job generation, w.acting? event = some job ∧
    job.activity = .read peer generation ∧ w.client.incoming? job = some frame
  found : w.client.loopback.peer? peer = some p
  first : (p.read w.client.loopback.medium).2 = .message frame
  performs : w.perform event =
    { w with client := w.client.takeIn peer (p.read w.client.loopback.medium).1 frame }

theorem exists_takes (room : w.client.session.correlator.size ≤ mostCalls)
    (taken : w.incoming? event = some frame) : ∃ peer p, w.Takes event frame peer p := by
  obtain ⟨job, acts, incoming⟩ := acting_of_incoming taken
  obtain ⟨peer, generation, p, activity, found, first, step⟩ := Client.step_of_incoming incoming
  refine ⟨peer, p, ⟨job, generation, acts, activity, incoming⟩, found, first, ?_⟩
  have fits : w.hasRoom event = true :=
    decide_eq_true (Nat.le_trans (size_occur_le taken) room)
  rw [perform_of_acting fits acts, step]

theorem Takes.incoming? (takes : w.Takes event frame peer p) : w.incoming? event = some frame := by
  obtain ⟨job, generation, acts, -, incoming⟩ := takes.reader
  exact (incoming?_of_acting acts).trans incoming

/-- What the event of a notification comes to: its handler runs, and that is all. -/
theorem perform_of_notice {n : Notice} (room : w.client.session.correlator.size ≤ mostCalls)
    (noticed : w.notice? event = some n) :
    ∃ loopback, w.perform event =
      { w with
        client :=
          { w.client with
            loopback
            report :=
              { w.client.report with
                records := w.client.report.records ++ n.records
                invocations := w.client.report.invocations ++ [n.invocation] } } } := by
  obtain ⟨frame, taken, handled⟩ := Option.bind_eq_some_iff.mp noticed
  obtain ⟨peer, p, takes⟩ := exists_takes room taken
  rw [takes.performs]
  unfold Client.takeIn
  rw [Session.receive_notice handled]
  exact ⟨_, rfl⟩

/-- Without a frame that is taken in, no handler of a notification is called. -/
theorem notices_of_nothing (o : w.client.outline.Orderly) (nothing : w.incoming? event = none) :
    (w.perform event).client.notices = w.client.notices := by
  have touches := touches_perform o event
  by_cases reads : ∃ id peer generation, w.actor? event = some (id, .read peer generation)
  · obtain ⟨id, peer, generation, actor⟩ := reads
    obtain ⟨job, acts, same⟩ := Option.map_eq_some_iff.mp actor
    have activity : job.activity = .read peer generation := congrArg Prod.snd same
    rw [incoming?_of_acting acts] at nothing
    cases room : w.hasRoom event with
    | false => rw [perform_of_no_room room]
    | true =>
      rw [perform_of_acting room acts]
      unfold Client.notices
      rw [(Client.stepRead_of_nothing activity nothing).1]
  · exact touches.notices fun id peer generation same => reads ⟨id, peer, generation, same⟩

theorem notices_perform (o : w.client.outline.Orderly)
    (room : w.client.session.correlator.size ≤ mostCalls) (event : Event) :
    (w.perform event).client.notices =
      w.client.notices ++ (w.notice? event).toList.map Notice.invocation := by
  cases taken : w.incoming? event with
  | none =>
    have noticed : w.notice? event = none := by
      unfold notice?
      rw [taken]
      rfl
    rw [notices_of_nothing o taken, noticed]
    exact (List.append_nil _).symm
  | some frame =>
    obtain ⟨peer, p, takes⟩ := exists_takes room taken
    have noticed : w.notice? event = w.client.session.dispatcher.notice? frame := by
      unfold notice?
      rw [taken]
      rfl
    rw [takes.performs, noticed]
    unfold Client.notices
    rw [Client.report_takeIn, Session.invocation?_receive, List.filter_append]
    cases w.client.session.dispatcher.notice? frame with
    | none => rfl
    | some n => rfl

theorem records_perform (o : w.client.outline.Orderly)
    (room : w.client.session.correlator.size ≤ mostCalls) (event : Event) :
    (w.client.report.records ++ (w.notice? event).toList.flatMap Notice.records).Sublist
      (w.perform event).client.report.records := by
  cases noticed : w.notice? event with
  | none =>
    rw [Option.toList_none, List.flatMap_nil, List.append_nil]
    exact (touches_perform o event).records.sublist
  | some n =>
    obtain ⟨loopback, same⟩ := perform_of_notice room noticed
    rw [same, Option.toList_some, List.flatMap_singleton]

/-! ## Runs -/

/-- Every notification that was taken in while its method had a handler has been handled, in
the order in which they were taken in, and no other handler of a notification was called. -/
structure IsUpToDate (settings : Settings) (medium : Medium) (events : List Event) : Prop where
  called : (run settings medium events).client.notices =
    (noticesOf settings medium events).map Notice.invocation
  /-- The handlers have come to their ends: what they log is logged, crashes included. -/
  ended : ((noticesOf settings medium events).flatMap Notice.records).Sublist
    (run settings medium events).client.report.records

theorem isUpToDate (settings : Settings) (medium : Medium) (events : List Event) :
    IsUpToDate settings medium events := by
  induction events using List.reverseRecOn with
  | nil => exact ⟨rfl, List.nil_sublist _⟩
  | append_singleton events event ih =>
    have o := (Outline.reachable_run settings medium events).orderly
    have room := size_le_mostCalls settings medium events
    have more : noticesOf settings medium (events ++ [event]) =
        noticesOf settings medium events ++
          ((run settings medium events).notice? event).toList := gathered_concat ..
    constructor
    · rw [run_concat, notices_perform o room, ih.called, more, List.map_append]
    · rw [run_concat, more, List.flatMap_append]
      exact (ih.ended.append_right _).trans (records_perform o room event)

/-! ## One connection -/

/-- Whether neither the server nor the medium does anything. -/
def isQuiet : Event → Bool
  | .serve _ => false
  | _ => true

/-- What is taken from a connection at an event is its first message, if it is anything. What
is left can be lost, but nothing gets in front of it. -/
theorem takes_perform (o : w.client.outline.Orderly)
    (room : w.client.session.correlator.size ≤ mostCalls) (quiet : isQuiet event = true)
    (found : w.client.loopback.peer? peer = some p) :
    (w.perform event).client.loopback.medium = w.client.loopback.medium ∧
      ∃ q, (w.perform event).client.loopback.peer? peer = some q ∧
        ∀ n, ∃ m, takes peer w event ++ q.firstMessages w.client.loopback.medium n =
          p.firstMessages w.client.loopback.medium m := by
  -- a connection that nothing is taken from
  have kept {l : Loopback} (keeps : w.client.loopback.KeepsStream l peer) :
      ∃ q, l.peer? peer = some q ∧ ∀ n, ∃ m,
        [] ++ q.firstMessages w.client.loopback.medium n =
          p.firstMessages w.client.loopback.medium m := by
    obtain ⟨q, found', keeps⟩ := keeps p found
    refine ⟨q, found', fun n => ?_⟩
    rcases keeps.toClient with same | ⟨lost, -⟩
    · exact ⟨n, Peer.firstMessages_congr same keeps.isGone n⟩
    · exact ⟨0, Peer.firstMessages_of_nil lost n⟩
  have touches := touches_perform o event
  cases acts : w.acting? event with
  | none =>
    have idle : takes peer w event = [] := by
      unfold takes
      rw [acts]
    have same : (w.perform event).client.loopback = w.client.loopback := by
      cases room : w.hasRoom event with
      | false => rw [perform_of_no_room room]
      | true =>
        rw [perform_of_room room]
        cases event with
        | turn id heeds => rw [occur_of_acting, acts]
        | serve => cases quiet
        | _ =>
          exact (occur_of_user fun _ _ turn => by cases turn).loopback fun _ serve => by cases serve
    rw [idle, same]
    exact ⟨rfl, kept (Loopback.keepsStream_refl _ _)⟩
  | some job =>
    unfold actor? at touches
    rw [acts] at touches
    refine ⟨touches.medium, ?_⟩
    by_cases own : job.activity.isReaderOf peer = true
    · have reads : ∃ generation, job.activity = .read peer generation := by
        cases activity : job.activity with
        | read index generation =>
          rw [activity] at own
          exact ⟨generation, by rw [beq_iff_eq.mp own]⟩
        | _ =>
          rw [activity] at own
          cases own
      obtain ⟨generation, activity⟩ := reads
      have given : takes peer w event = (w.client.incoming? job).toList := by
        unfold takes
        rw [acts]
        exact if_pos own
      rw [given]
      cases taken : w.client.incoming? job with
      | none =>
        cases room : w.hasRoom event with
        | false =>
          rw [perform_of_no_room room]
          exact kept (Loopback.keepsStream_refl _ _)
        | true =>
          rw [perform_of_acting room acts]
          exact kept (Client.stepRead_of_nothing activity taken).2
      | some frame =>
        obtain ⟨index, p', ⟨job', _, acts', activity', _⟩, found', first, performs⟩ :=
          exists_takes room ((incoming?_of_acting acts).trans taken)
        rw [acts] at acts'
        cases acts'
        rw [activity] at activity'
        cases activity'
        rw [found] at found'
        cases found'
        rw [performs, Client.loopback_takeIn]
        refine ⟨(p.read w.client.loopback.medium).1, ?_, fun n => ⟨n + 1, ?_⟩⟩
        · exact (Client.peer?_modifyPeer ..).trans (by rw [found]; rfl)
        · rw [Option.toList_some, Peer.firstMessages, first]
          rfl
    · have idle : takes peer w event = [] := by
        unfold takes
        rw [acts]
        exact if_neg own
      rw [idle]
      refine kept (touches.keepsStream fun generation same => own ?_)
      rw [same]
      exact beq_self_eq_true peer

/-- As long as neither the server nor the medium does anything, what is taken from a connection
are its first messages, one after another. -/
theorem gathered_takes (reached : Outline.Reachable settings medium w.client.outline)
    (room : w.client.session.correlator.size ≤ mostCalls)
    (found : w.client.loopback.peer? peer = some p) {segment : List Event}
    (quiet : ∀ event ∈ segment, isQuiet event = true) :
    ∃ n, gathered (takes peer) w segment = p.firstMessages w.client.loopback.medium n := by
  suffices ∀ n, ∃ m q, gathered (takes peer) w segment ++
      Peer.firstMessages w.client.loopback.medium n q =
        p.firstMessages w.client.loopback.medium m by
    obtain ⟨m, q, same⟩ := this 0
    exact ⟨m, (List.append_nil _).symm.trans same⟩
  induction segment generalizing w p with
  | nil => exact fun n => ⟨n, p, rfl⟩
  | cons event rest ih =>
    obtain ⟨now, later⟩ := List.forall_mem_cons.mp quiet
    obtain ⟨same, q, found', takes⟩ := takes_perform reached.orderly room now found
    intro n
    obtain ⟨m, r, rest⟩ :=
      ih (Outline.reachable_perform reached event) (room_perform room event) found' later n
    rw [same] at rest
    obtain ⟨m', all⟩ := takes m
    refine ⟨m', r, ?_⟩
    show (_ ++ gathered _ _ _) ++ _ = _
    rw [List.append_assoc, rest, all]

/-! ## The order of notifications and responses -/

/-- What holds of every state that a run can come to, as far as the order of what comes in
goes. -/
structure NotifiesInOrder (settings : Settings) (medium : Medium) (events : List Event)
    (w : World) : Prop where
  /-- The calls of notification handlers so far are those of the notifications that were taken
  in, in that order, each once. -/
  upToDate : IsUpToDate settings medium events
  /-- What is taken in is the first message of its connection. -/
  takes : ∀ event frame, w.incoming? event = some frame → ∃ peer p, w.Takes event frame peer p
  /-- As long as nothing new comes in, what is taken from a connection are its first messages,
  one after another: nothing is left out, nothing comes twice, and what was in front of a
  frame has been taken in before it. -/
  inOrder : ∀ peer p, w.client.loopback.peer? peer = some p → ∀ segment : List Event,
    (∀ event ∈ segment, isQuiet event = true) →
    ∃ n, gathered (World.takes peer) w segment = p.firstMessages w.client.loopback.medium n
  /-- A notification is handled to the end at the event that takes it in, and nothing else
  happens at this event. -/
  atOnce : ∀ event n, w.notice? event = some n → ∃ loopback, w.perform event =
    { w with
      client :=
        { w.client with
          loopback
          report :=
            { w.client.report with
              records := w.client.report.records ++ n.records
              invocations := w.client.report.invocations ++ [n.invocation] } } }
  /-- If a call has come to an answer, then at the event that took in the response the call was
  still open, and every notification that was taken in before had been handled. -/
  answers : ∀ ticket, w.Holds ticket → ∀ rpc : RpcOutcome,
    w.client.session.outcome? ticket = some (rpc.mapError .rpc) →
    ∃ before event after frame, events = before ++ event :: after ∧
      (run settings medium before).incoming? event = some frame ∧
      Envelope.decode frame = .ok (.response ⟨some ticket.id, rpc⟩) ∧
      (run settings medium before).client.session.outcome? ticket = none ∧
      IsUpToDate settings medium before

/-- **Notifications are handled in order, each once.** In every run, however slow the handlers
of requests are and whichever handlers crash, `NotifiesInOrder` describes every state on the
way: a response comes only after the notifications in front of it have been handled. -/
theorem notifies_in_order (settings : Settings) (medium : Medium) (events : List Event) :
    NotifiesInOrder settings medium events (run settings medium events) where
  upToDate := isUpToDate settings medium events
  takes _ _ := exists_takes (size_le_mostCalls settings medium events)
  inOrder _ _ found _ := gathered_takes (Outline.reachable_run settings medium events)
    (size_le_mostCalls settings medium events) found
  atOnce _ _ := perform_of_notice (size_le_mostCalls settings medium events)
  answers ticket holds rpc seen := by
    obtain ⟨before, event, after, frame, split, taken, decoded, call, member, own, serial⟩ :=
      ((answers_callers settings medium events).sees ticket holds rpc).mp seen
    refine ⟨before, event, after, frame, split, taken, decoded, ?_,
      isUpToDate settings medium before⟩
    have waits := (wellFormed_run settings medium before).waiting call member
    rw [serial] at waits
    exact congrArg Delivery.outcome? waits

end World

end LspClient
