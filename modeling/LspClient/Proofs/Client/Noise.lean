import LspClient.Proofs.Client.Lockstep
import LspClient.Proofs.Client.Wire
import LspClient.Proofs.Rpc.Resend

/-!
# Noise on the wire is invisible

A frame is noise to a session if it can not be decoded, if it is a response to nobody or to a
call that is not waited for, or if it is a notification that nobody handles
(`Session.IsNoise`). A session that takes in noise stays as it is, and only its log grows.

So two runs that differ in noise only stay alike (`World.Noisy`): after every event they
differ at most in their logs and in what is still under way to the client. This is one
induction over the two runs side by side, whose steps are `World.Alike.perform` where the same
happens in both and `World.alike_of_noise` where noise is taken in. If a single frame is
inserted and the runs agree in everything else that happens, the readers find the same from
then on, because the rest of the stream is the same (`World.noisy_insertion`).
-/

namespace LspClient

/-! ## Noise -/

/-- Whether a session has nothing to do with a frame, as things are. -/
inductive Session.IsNoise (s : Session) (frame : Bytes) : Prop where
  | malformed {e : MalformedEnvelope} (decoded : Envelope.decode frame = .error e)
  /-- A response with a null id. -/
  | uncorrelated {outcome : RpcOutcome}
      (decoded : Envelope.decode frame = .ok (.response ⟨none, outcome⟩))
  | unmatched {id : RequestId} {outcome : RpcOutcome}
      (decoded : Envelope.decode frame = .ok (.response ⟨some id, outcome⟩))
      (absent : s.correlator.contains id = false)
  | unhandled {n : Notification} (decoded : Envelope.decode frame = .ok (.notification n))
      (unrouted : ∀ run, s.dispatcher.find? n.method ≠ some (.notification run))

/-- Noise does nothing but to be logged. -/
theorem Session.receive_of_isNoise {s : Session} {frame : Bytes} (noise : s.IsNoise frame) :
    ∃ records, s.receive frame = (s, { records }) := by
  unfold receive
  cases noise with
  | malformed decoded =>
    rw [decoded]
    exact ⟨_, rfl⟩
  | @uncorrelated outcome decoded =>
    rw [decoded]
    cases outcome with
    | error e => exact ⟨_, rfl⟩
    | ok result => exact ⟨[], rfl⟩
  | unmatched decoded absent =>
    rw [decoded]
    dsimp only
    rw [Correlator.answer_of_absent absent]
    exact ⟨_, rfl⟩
  | @unhandled n decoded unrouted =>
    have uncalled : s.dispatcher.invocation? (.notification n) = none := by
      unfold Dispatcher.invocation?
      dsimp only
      split
      · next run found => exact absurd found (unrouted run)
      · rfl
    rw [decoded]
    dsimp only
    rw [uncalled]
    exact ⟨_, rfl⟩

/-! ## Frames that arrive -/

/-- Whether the medium hands a message over as one frame, whatever its length. -/
def Medium.carries : Medium → Bytes → Bool
  | .messages, _ => true
  | .stream _, body => body.length ≤ Framing.maxFrameBytes

/-- A message arrives in front of all that is under way to the client. -/
def Peer.prepend (p : Peer) (medium : Medium) (body : Bytes) : Peer :=
  { p with toClient := medium.wrap body :: p.toClient }

/-- The message in front is what is read next, and it leaves the stream as it was. -/
theorem Peer.read_prepend (p : Peer) {medium : Medium} {body : Bytes}
    (carried : medium.carries body = true) :
    ((p.prepend medium body).read medium).2 = .message body ∧
      ((p.prepend medium body).read medium).1.through .split medium = p.through .split medium := by
  cases medium with
  | messages => exact ⟨rfl, rfl⟩
  | stream capacity =>
    have incoming : (p.prepend (.stream capacity) body).incoming =
        Framing.frame body ++ p.toClient.flatten := Peer.incoming_eq_flatten _
    have short : body.length ≤ Framing.maxFrameBytes := of_decide_eq_true carried
    unfold Peer.read
    dsimp only
    rw [incoming, Framing.readFrame_frame _ _ short]
    refine ⟨rfl, ?_⟩
    have rest : View.split.see (.stream capacity) [p.toClient.flatten] =
        View.split.see (.stream capacity) p.toClient := by
      show List.map _ [p.toClient.flatten].flatten = List.map _ p.toClient.flatten
      rw [List.flatten_singleton]
    show ({ p with toClient := _ } : Peer) = { p with toClient := _ }
    rw [← rest]

namespace World

variable {settings : Settings} {medium : Medium} {v : View} {w w' : World} {event : Event}
  {frame : Bytes} {peer : Nat} {p : Peer} {plain noisy : List Event}

/-! ## What noise leads to -/

theorem perform_of_noise (takes : w.Takes event frame peer p)
    (noise : w.client.session.IsNoise frame) :
    ∃ records, w.perform event = { w with client :=
      (w.client.modifyPeer peer fun _ => (p.read w.client.loopback.medium).1).log records } := by
  obtain ⟨records, receives⟩ := Session.receive_of_isNoise noise
  refine ⟨records, ?_⟩
  rw [takes.performs]
  unfold Client.takeIn
  rw [receives]
  dsimp only
  unfold Client.noteInvocation
  rw [Option.toList_none, List.append_nil]
  rfl

/-- After noise was taken in, nothing is different but the log and what is under way. -/
theorem alike_of_noise (room : w.client.session.correlator.size ≤ mostCalls)
    (taken : w.incoming? event = some frame) (noise : w.client.session.IsNoise frame) :
    Alike .blank w (w.perform event) := by
  obtain ⟨peer, p, takes⟩ := exists_takes room taken
  obtain ⟨records, same⟩ := perform_of_noise takes noise
  rw [same]
  refine ⟨w.client.alike_modifyPeer fun q found => ?_, rfl⟩
  rw [takes.found] at found
  cases found
  rw [Peer.read_eq]
  rfl

/-- What the server sends to the client changes nothing else. -/
theorem alike_of_arrival {l : Loopback}
    (same : l.through .blank = w.client.loopback.through .blank) :
    Alike .blank w (w.perform (.serve l)) := by
  have served : Alike .blank w (w.occur (.serve l)) := by
    unfold occur
    dsimp only
    split
    · exact ⟨Client.Alike.withLoopback (c := w.client) (d := w.client) rfl same.symm, rfl⟩
    · exact ⟨rfl, rfl⟩
  unfold perform
  dsimp only
  split
  · exact served
  · exact ⟨rfl, rfl⟩

/-! ## Runs that differ in noise -/

/-- Whether the second run is the first one with noise on the wire: what else happens is the
same, and readers find the same frames in both. -/
inductive Noisy (settings : Settings) (medium : Medium) : List Event → List Event → Prop where
  | start : Noisy settings medium [] []
  /-- The same happens in both runs. If it is a reader's turn, it finds the same. -/
  | both {plain noisy : List Event} (sofar : Noisy settings medium plain noisy) (event : Event)
      (finds : (run settings medium plain).finding? event =
        (run settings medium noisy).finding? event) :
      Noisy settings medium (plain ++ [event]) (noisy ++ [event])
  /-- The server or the medium does something in both runs, and does not send the same. -/
  | serve {plain noisy : List Event} (sofar : Noisy settings medium plain noisy)
      (l l' : Loopback) (same : l.through .blank = l'.through .blank) :
      Noisy settings medium (plain ++ [.serve l]) (noisy ++ [.serve l'])
  /-- What is under way to the client changes in the second run: noise arrives. -/
  | arrival {plain noisy : List Event} (sofar : Noisy settings medium plain noisy)
      (l : Loopback)
      (same : l.through .blank = (run settings medium noisy).client.loopback.through .blank) :
      Noisy settings medium plain (noisy ++ [.serve l])
  /-- Noise is taken in. -/
  | noise {plain noisy : List Event} (sofar : Noisy settings medium plain noisy)
      (event : Event) (frame : Bytes)
      (taken : (run settings medium noisy).incoming? event = some frame)
      (noise : (run settings medium noisy).client.session.IsNoise frame) :
      Noisy settings medium plain (noisy ++ [event])
  /-- A job can not go on: a reader, say, before a frame of noise is there as a whole. -/
  | idle {plain noisy : List Event} (sofar : Noisy settings medium plain noisy) (id : JobId)
      (heeds : Bool) (idle : (run settings medium noisy).acting? (.turn id heeds) = none) :
      Noisy settings medium plain (noisy ++ [.turn id heeds])
  /-- A job can not go on in the first run: a reader, say, that finds noise in the second. -/
  | pause {plain noisy : List Event} (sofar : Noisy settings medium plain noisy) (id : JobId)
      (heeds : Bool) (idle : (run settings medium plain).acting? (.turn id heeds) = none) :
      Noisy settings medium (plain ++ [.turn id heeds]) noisy

theorem Noisy.alike (h : Noisy settings medium plain noisy) :
    Alike .blank (run settings medium plain) (run settings medium noisy) := by
  induction h with
  | start => exact ⟨rfl, rfl⟩
  | both sofar event finds ih =>
    rw [run_concat, run_concat]
    exact ih.perform finds
  | serve sofar l l' same ih =>
    rw [run_concat, run_concat]
    exact ih.perform_of_occur (ih.serve same)
  | arrival sofar l same ih =>
    rw [run_concat]
    exact ih.trans (alike_of_arrival same)
  | @noise plain noisy sofar event frame taken noise ih =>
    rw [run_concat]
    exact ih.trans (alike_of_noise (size_le_mostCalls settings medium noisy) taken noise)
  | idle sofar id heeds idle ih | pause sofar id heeds idle ih =>
    rw [run_concat, perform_of_idle idle]
    exact ih

/-- Noise asks nothing of a sink. -/
theorem Noisy.sinkCalls_eq (h : Noisy settings medium plain noisy) (peer : Nat) :
    sinkCalls settings medium noisy peer = sinkCalls settings medium plain peer := by
  -- what only one of the runs does asks nothing
  have silent {events : List Event} {event : Event}
      (none : (run settings medium events).callsTo peer event = []) :
      sinkCalls settings medium (events ++ [event]) peer =
        sinkCalls settings medium events peer := by
    rw [sinkCalls_concat]
    dsimp only
    rw [none, List.append_nil]
  induction h with
  | start => rfl
  | @both plain noisy sofar event finds ih =>
    have acts := sofar.alike.acting? finds
    have asks : (run settings medium plain).client.sinkCall? =
        (run settings medium noisy).client.sinkCall? := by
      unfold Client.sinkCall?
      rw [sofar.alike.client.session]
    rw [sinkCalls_concat, sinkCalls_concat]
    dsimp only
    rw [ih]
    unfold callsTo
    rw [acts, asks]
  | serve sofar l l' same ih => rw [silent rfl, silent rfl, ih]
  | arrival sofar l same ih => rw [silent rfl, ih]
  | noise sofar event frame taken noise ih =>
    obtain ⟨job, acts, incoming⟩ := acting_of_incoming taken
    obtain ⟨index, generation, -, activity, -⟩ := Client.incoming?_eq_some incoming
    refine (silent ?_).trans ih
    unfold callsTo Client.sinkCall?
    rw [acts, Option.bind_some, activity]
  | idle sofar id heeds idle ih =>
    refine (silent ?_).trans ih
    unfold callsTo
    rw [idle]
    rfl
  | pause sofar id heeds idle ih =>
    refine ih.trans (silent ?_).symm
    unfold callsTo
    rw [idle]
    rfl

/-- Every run is like itself, without any noise. -/
theorem noisy_self (settings : Settings) (medium : Medium) (events : List Event) :
    Noisy settings medium events events := by
  induction events using List.reverseRecOn with
  | nil => exact .start
  | append_singleton events event ih => exact ih.both event rfl

/-- From where all that is under way is the same, the runs need not differ any more. -/
theorem Noisy.append (h : Noisy settings medium plain noisy)
    (same : Alike .split (run settings medium plain) (run settings medium noisy))
    (events : List Event) : Noisy settings medium (plain ++ events) (noisy ++ events) := by
  suffices Noisy settings medium (plain ++ events) (noisy ++ events) ∧
      Alike .split (run settings medium (plain ++ events)) (run settings medium (noisy ++ events))
    from this.1
  induction events using List.reverseRecOn with
  | nil =>
    rw [List.append_nil, List.append_nil]
    exact ⟨h, same⟩
  | append_singleton events event ih =>
    obtain ⟨noisy, same⟩ := ih
    rw [← List.append_assoc, ← List.append_assoc]
    refine ⟨noisy.both event (same.finding? event), ?_⟩
    rw [run_concat, run_concat]
    exact same.perform (same.finding? event)

/-! ## Inserting a frame -/

/-- Whether this job, which reads from this connection, can take in this frame as the next. -/
structure CanInsert (w : World) (reader : JobId) (peer : Nat) (frame : Bytes) : Prop where
  reads : ∃ job generation, w.client.job? reader = some job ∧ job.activity = .read peer generation
  connected : ∃ p, w.client.loopback.peer? peer = some p
  alive : w.client.session.isDropped = false
  carried : w.client.loopback.medium.carries frame = true

/-- The client with this frame in front of what is under way to it. -/
def withFrame (w : World) (peer : Nat) (frame : Bytes) : World :=
  { w with client := w.client.modifyPeer peer (·.prepend w.client.loopback.medium frame) }

theorem alike_withFrame (w : World) (peer : Nat) (frame : Bytes) :
    Alike .blank w (w.withFrame peer frame) :=
  ⟨w.client.alike_modifyPeer fun _ _ => rfl, rfl⟩

/-- The frame arrives, and the reader takes it in. -/
def insertion (w : World) (reader : JobId) (peer : Nat) (frame : Bytes) : List Event :=
  [.serve (w.withFrame peer frame).client.loopback, .turn reader false]

theorem perform_arrival (room : w.client.session.correlator.size ≤ mostCalls) (peer : Nat)
    (frame : Bytes) :
    w.perform (.serve (w.withFrame peer frame).client.loopback) = w.withFrame peer frame := by
  have connections : w.client.loopback.peers.length ≤
      (w.withFrame peer frame).client.loopback.peers.length :=
    Nat.le_of_eq (List.length_modify ..).symm
  have served : w.occur (.serve (w.withFrame peer frame).client.loopback) =
      w.withFrame peer frame := if_pos ⟨connections, rfl⟩
  unfold perform
  rw [served]
  exact if_pos room

/-- The frame is what the reader takes in at its turn. -/
theorem takes_insertion {reader : JobId} (can : w.CanInsert reader peer frame)
    (room : w.client.session.correlator.size ≤ mostCalls) :
    ∃ p, w.client.loopback.peer? peer = some p ∧
      (w.withFrame peer frame).Takes (.turn reader false) frame peer
        (p.prepend w.client.loopback.medium frame) := by
  obtain ⟨⟨job, generation, found, activity⟩, ⟨p, present⟩, alive, carried⟩ := can
  refine ⟨p, present, ?_⟩
  have present' : (w.withFrame peer frame).client.loopback.peer? peer =
      some (p.prepend w.client.loopback.medium frame) := by
    unfold withFrame
    rw [Client.peer?_modifyPeer, present]
    rfl
  -- whether the reader was cancelled does not matter: it does not heed it at this turn
  have turning : (w.withFrame peer frame).client.turning? reader false =
      some { job with isCancelled := false } := by
    show (w.client.job? reader).map _ = _
    rw [found, Option.map_some, Bool.and_false, Bool.false_and]
  have incoming : (w.withFrame peer frame).client.incoming? { job with isCancelled := false } =
      some frame :=
    Client.incoming?_of_read activity rfl alive present' (p.read_prepend carried).1
  have acts : (w.withFrame peer frame).acting? (.turn reader false) =
      some { job with isCancelled := false } :=
    Option.filter_eq_some_iff.mpr ⟨turning, Client.isReady_of_incoming incoming⟩
  -- what is taken in comes from the connection that the reader reads from, which is this one
  obtain ⟨index, q, takes⟩ := exists_takes (w := w.withFrame peer frame) room
    ((incoming?_of_acting acts).trans incoming)
  obtain ⟨job', generation', acts', activity', -⟩ := takes.reader
  rw [acts] at acts'
  cases acts'
  rw [activity] at activity'
  cases activity'
  have same := takes.found
  rw [present'] at same
  cases same
  exact takes

/-- What is left is what there was, the pieces apart in which it was sent. -/
theorem alike_insertion {reader : JobId} (can : w.CanInsert reader peer frame)
    (room : w.client.session.correlator.size ≤ mostCalls)
    (noise : w.client.session.IsNoise frame) :
    Alike .split w ((w.withFrame peer frame).perform (.turn reader false)) := by
  obtain ⟨p, present, takes⟩ := takes_insertion can room
  obtain ⟨records, same⟩ := perform_of_noise takes noise
  rw [same]
  refine ⟨?_, rfl⟩
  show w.client.Alike .split ((w.client.modifyPeer peer _).modifyPeer peer _)
  rw [Client.modifyPeer_modifyPeer]
  refine w.client.alike_modifyPeer fun q found => ?_
  rw [present] at found
  cases found
  exact (p.read_prepend can.carried).2

/-- A run into which noise was inserted anywhere is a noisy one: from there on the readers find
what they find without it. -/
theorem noisy_insertion {before : List Event} {reader : JobId}
    (can : (run settings medium before).CanInsert reader peer frame)
    (noise : (run settings medium before).client.session.IsNoise frame) (after : List Event) :
    Noisy settings medium (before ++ after)
      (before ++ (run settings medium before).insertion reader peer frame ++ after) := by
  have room := size_le_mostCalls settings medium before
  have arrived : run settings medium (before ++
      [.serve ((run settings medium before).withFrame peer frame).client.loopback]) =
      (run settings medium before).withFrame peer frame := by
    rw [run_concat, perform_arrival room]
  obtain ⟨p, present, takes⟩ := takes_insertion can room
  have split : before ++ (run settings medium before).insertion reader peer frame =
      before ++ [.serve ((run settings medium before).withFrame peer frame).client.loopback] ++
        [.turn reader false] := by
    rw [List.append_assoc]
    rfl
  rw [split]
  refine Noisy.append (.noise (.arrival (noisy_self settings medium before) _ ?_) _ frame ?_ ?_)
    ?_ after
  · exact (alike_withFrame (run settings medium before) peer frame).client.loopback.symm
  · rw [arrived]
    exact takes.incoming?
  · rw [arrived]
    exact noise
  · rw [run_concat, arrived]
    exact alike_insertion can room noise

/-! ## What can be told apart -/

/-- What can be seen of the two runs is the same, the log excepted. -/
structure Indistinguishable (settings : Settings) (medium : Medium) (plain noisy : List Event) :
    Prop where
  /-- The state of the session, the table of the calls that are waited for, the outcome of every
  call, the handlers, the counters, and what is queued to be sent. -/
  session : (run settings medium noisy).client.session = (run settings medium plain).client.session
  /-- The frames that were handed to the sink of every connection, and when it was closed. -/
  sent : ∀ peer, sinkCalls settings medium noisy peer = sinkCalls settings medium plain peer
  /-- The handlers that were called, with their parameters. -/
  invocations : (run settings medium noisy).client.report.invocations =
    (run settings medium plain).client.report.invocations
  /-- What came of every operation that a user has awaited. -/
  finished : (run settings medium noisy).client.report.finished =
    (run settings medium plain).client.report.finished
  /-- The lines that were printed. -/
  printed : (run settings medium noisy).client.report.printed =
    (run settings medium plain).client.report.printed
  /-- All else too, the log and what is under way to the client excepted. -/
  rest : Alike .blank (run settings medium plain) (run settings medium noisy)

theorem Noisy.indistinguishable (h : Noisy settings medium plain noisy) :
    Indistinguishable settings medium plain noisy where
  session := h.alike.client.session.symm
  sent := h.sinkCalls_eq
  invocations := (h.alike.client.part (·.report.invocations) fun _ => rfl).symm
  finished := (h.alike.client.part (·.report.finished) fun _ => rfl).symm
  printed := (h.alike.client.part (·.report.printed) fun _ => rfl).symm
  rest := h.alike

/-- What noise does to runs: nothing that can be seen. -/
structure HidesNoise (settings : Settings) (medium : Medium) : Prop where
  /-- A frame is inserted in front of what a reader would take in next, at any moment of any
  run, and is noise at this moment. -/
  inserted : ∀ (before after : List Event) (reader : JobId) (peer : Nat) (frame : Bytes),
    (run settings medium before).CanInsert reader peer frame →
    (run settings medium before).client.session.IsNoise frame →
    Indistinguishable settings medium (before ++ after)
      (before ++ (run settings medium before).insertion reader peer frame ++ after)
  /-- Any number of frames arrive at any times and are noise when they are taken in. -/
  interspersed : ∀ plain noisy : List Event, Noisy settings medium plain noisy →
    Indistinguishable settings medium plain noisy

/-- **Noise on the wire is invisible.** A frame that can not be decoded, a response with a null
id or to a call that is not waited for, or a notification without a handler changes nothing
that can be seen of the rest of the run, the log excepted. -/
theorem hides_noise (settings : Settings) (medium : Medium) : HidesNoise settings medium where
  inserted _ after _ _ _ can noise := (noisy_insertion can noise after).indistinguishable
  interspersed _ _ h := h.indistinguishable

/-- A response to nobody comes in as soon as a client has connected. The request that is sent
after it, under the very same id, goes out as it would have. -/
theorem noise_hidden_before_request :
    let connected := run {} .messages firstConnection
    let response : Envelope := .response ⟨some (.number 1), .ok .null⟩
    let after : List Event := [.request none "m" none, .turn 2 false, .turn 2 false]
    connected.CanInsert 1 0 response.encode ∧
      connected.client.session.IsNoise response.encode ∧
      (sinkCalls {} .messages (firstConnection ++ after) 0).length = 1 ∧
      Indistinguishable {} .messages (firstConnection ++ after)
        (firstConnection ++ connected.insertion 1 0 response.encode ++ after) := by
  intro connected response after
  have can : connected.CanInsert 1 0 response.encode :=
    ⟨⟨_, 1, rfl, rfl⟩, ⟨_, rfl⟩, by decide +kernel, by decide +kernel⟩
  have other : ∀ v, response ≠ .response ⟨none, .ok v⟩ := by
    unfold response
    exact nofun
  have decoded : Envelope.decode response.encode = .ok response := by
    refine Envelope.decode_encode (fun x passed => ?_) (by decide) other
    cases passed
    exact .null
  have noise : connected.client.session.IsNoise response.encode :=
    .unmatched decoded (by decide +kernel)
  exact ⟨can, noise, by decide +kernel,
    (hides_noise {} .messages).inserted firstConnection after 1 0 response.encode can noise⟩

end World

end LspClient
