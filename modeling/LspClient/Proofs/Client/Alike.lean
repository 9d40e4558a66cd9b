import LspClient.Proofs.Client.Notices

/-!
# Clients that differ in what is under way to them

Two clients are alike under a `View` if they differ at most in their log records and in those
parts of what is under way to them that the view does not show (`Client.Alike`). There is one
lemma here for each operation of a client: it takes clients that are alike to clients that
are alike, for it looks at nothing that may differ. The steps of jobs are put together from
these operations in `LspClient.Proofs.Client.Lockstep`.
-/

namespace LspClient

/-! ## Views -/

/-- What is under way, byte by byte if it is a stream, whatever the pieces in which it was
sent. -/
def Medium.split : Medium → List Bytes → List Bytes
  | .messages, pieces => pieces
  | .stream _, pieces => pieces.flatten.map fun byte => [byte]

/-- Reading a stream depends on its bytes alone. -/
theorem Peer.read_split {p q : Peer} {medium : Medium} (gone : p.isGone = q.isGone)
    (same : medium.split p.toClient = medium.split q.toClient) :
    (p.read medium).2 = (q.read medium).2 ∧
      medium.split (p.read medium).1.toClient = medium.split (q.read medium).1.toClient := by
  cases medium with
  | messages =>
    obtain ⟨found, rest, -⟩ := @Peer.read_congr q p .messages same gone
    exact ⟨found, rest⟩
  | stream capacity =>
    have bytes : p.incoming = q.incoming := by
      have flat := congrArg List.flatten same
      unfold Medium.split at flat
      dsimp only at flat
      rw [← List.flatMap_def, ← List.flatMap_def, List.flatMap_singleton',
        List.flatMap_singleton'] at flat
      rw [Peer.incoming_eq_flatten, Peer.incoming_eq_flatten, flat]
    unfold Peer.read
    dsimp only
    rw [bytes, gone]
    cases Framing.readFrame q.isGone q.incoming with
    | more | done => exact ⟨rfl, same⟩
    | frame | failed => exact ⟨rfl, rfl⟩

/-- A way to look at what is under way to the client, which need not show all of it. -/
structure View where
  see : Medium → List Bytes → List Bytes
  /-- Where nothing is under way there is nothing to be seen. -/
  see_nil : ∀ medium, see medium [] = []
  /-- If two readers find the same in what looks the same, what is left looks the same. -/
  see_read : ∀ medium (p q : Peer), p.isGone = q.isGone →
    see medium p.toClient = see medium q.toClient → (p.read medium).2 = (q.read medium).2 →
    see medium (p.read medium).1.toClient = see medium (q.read medium).1.toClient

/-- Shows nothing of what is under way. -/
def View.blank : View where
  see _ _ := []
  see_nil _ := rfl
  see_read _ _ _ _ _ _ := rfl

/-- Shows all that is under way, but not the pieces in which a stream was sent. -/
def View.split : View where
  see := Medium.split
  see_nil medium := by cases medium <;> rfl
  see_read _ _ _ gone same _ := (Peer.read_split gone same).2

variable {v : View}

/-! ## Peers -/

namespace Peer

variable {p q : Peer} {medium : Medium}

/-- A peer as seen through a view of what is under way to the client. -/
def through (p : Peer) (v : View) (medium : Medium) : Peer :=
  { p with toClient := v.see medium p.toClient }

theorem isGone_congr (h : p.through v medium = q.through v medium) : p.isGone = q.isGone := by
  show (p.through v medium).isGone = (q.through v medium).isGone
  rw [h]

theorem toClient_congr (h : p.through v medium = q.through v medium) :
    v.see medium p.toClient = v.see medium q.toClient := by
  show (p.through v medium).toClient = (q.through v medium).toClient
  rw [h]

/-- Reading changes nothing but what is under way to the client. -/
theorem read_eq (p : Peer) (medium : Medium) :
    (p.read medium).1 = { p with toClient := (p.read medium).1.toClient } := by
  unfold read
  cases medium with
  | messages => dsimp only; split <;> rfl
  | stream capacity => dsimp only; split <;> rfl

theorem read_congr_through (h : p.through v medium = q.through v medium)
    (found : (p.read medium).2 = (q.read medium).2) :
    (p.read medium).1.through v medium = (q.read medium).1.through v medium := by
  have rest := v.see_read medium p q (isGone_congr h) (toClient_congr h) found
  calc (p.read medium).1.through v medium
    _ = { p.through v medium with toClient := v.see medium (p.read medium).1.toClient } := by
      rw [read_eq]
      rfl
    _ = { q.through v medium with toClient := v.see medium (q.read medium).1.toClient } := by
      rw [h, rest]
    _ = (q.read medium).1.through v medium := by
      rw [read_eq]
      rfl

/-- A write fails for both, or leaves the same to be written. -/
theorem write_congr (h : p.through v medium = q.through v medium) (data : Bytes) :
    (∃ e, p.write medium data = .error e ∧ q.write medium data = .error e) ∨
      ∃ p' q' left, p.write medium data = .ok (p', left) ∧ q.write medium data = .ok (q', left) ∧
        p'.through v medium = q'.through v medium := by
  have room : p.room? medium = q.room? medium := by
    show (p.through v medium).room? medium = (q.through v medium).room? medium
    rw [h]
  unfold write
  by_cases gone : q.isGone = true
  · rw [if_pos gone, if_pos ((isGone_congr h).trans gone)]
    exact .inl ⟨_, rfl, rfl⟩
  · rw [if_neg gone, if_neg fun gone' => gone ((isGone_congr h).symm.trans gone'), room]
    cases q.room? medium with
    | none =>
      exact .inr ⟨_, _, _, rfl, rfl, congrArg (fun r : Peer =>
        { r with toServer := r.toServer ++ [data] }) h⟩
    | some room =>
      exact .inr ⟨_, _, _, rfl, rfl, congrArg (fun r : Peer =>
        { r with toServer := r.toServer ++ [data.take room] }) h⟩

theorem unhear_congr (h : p.through v medium = q.through v medium) :
    p.unhear.through v medium = q.unhear.through v medium := by
  calc p.unhear.through v medium
    _ = (p.through v medium).unhear.through v medium := rfl
    _ = (q.through v medium).unhear.through v medium := by rw [h]

theorem close_congr (h : p.through v medium = q.through v medium) :
    p.close.through v medium = q.close.through v medium := congrArg close h

end Peer

/-! ## Loopbacks -/

namespace Loopback

variable {l m : Loopback}

/-- A loopback as seen through a view of what is under way to the client. -/
def through (l : Loopback) (v : View) : Loopback :=
  { l with peers := l.peers.map (·.through v l.medium) }

theorem medium_congr (h : l.through v = m.through v) : l.medium = m.medium := by
  show (l.through v).medium = (m.through v).medium
  rw [h]

theorem attempts_congr (h : l.through v = m.through v) : l.attempts = m.attempts := by
  show (l.through v).attempts = (m.through v).attempts
  rw [h]

theorem length_peers_congr (h : l.through v = m.through v) : l.peers.length = m.peers.length := by
  have same : (l.through v).peers.length = (m.through v).peers.length := by rw [h]
  unfold through at same
  rwa [List.length_map, List.length_map] at same

theorem peer?_through (l : Loopback) (index : Nat) :
    (l.through v).peer? index = (l.peer? index).map (·.through v l.medium) := List.getElem?_map ..

/-- Both have a peer there, and the two are seen as the same, or neither has one. -/
theorem peer?_congr (h : l.through v = m.through v) (index : Nat) :
    l.peer? index = none ∧ m.peer? index = none ∨
      ∃ p q, l.peer? index = some p ∧ m.peer? index = some q ∧
        p.through v m.medium = q.through v m.medium := by
  have same : (l.through v).peer? index = (m.through v).peer? index := by rw [h]
  rw [peer?_through, peer?_through, medium_congr h] at same
  cases found : l.peer? index with
  | none =>
    rw [found] at same
    exact .inl ⟨rfl, Option.map_eq_none_iff.mp same.symm⟩
  | some p =>
    rw [found] at same
    obtain ⟨q, found', same⟩ := Option.map_eq_some_iff.mp same.symm
    exact .inr ⟨p, q, rfl, found', same.symm⟩

theorem modifyPeer_congr (h : l.through v = m.through v) {index : Nat} {change other : Peer → Peer}
    (same : ∀ p q, l.peer? index = some p → m.peer? index = some q →
      p.through v m.medium = q.through v m.medium →
      (change p).through v m.medium = (other q).through v m.medium) :
    (l.modifyPeer index change).through v = (m.modifyPeer index other).through v := by
  have peers : (l.peers.modify index change).map (·.through v l.medium) =
      (m.peers.modify index other).map (·.through v m.medium) := by
    refine List.ext_getElem? fun i => ?_
    rw [List.getElem?_map, List.getElem?_map, medium_congr h]
    -- the peer that is changed is seen as the same by assumption, the others as before
    by_cases at_ : index = i
    · cases at_
      rw [List.getElem?_modify_eq, List.getElem?_modify_eq]
      obtain ⟨none, none'⟩ | ⟨p, q, found, found', alike⟩ := peer?_congr h index
      · unfold peer? at none none'
        rw [none, none']
        rfl
      · have alike' := same p q found found' alike
        unfold peer? at found found'
        rw [found, found']
        exact congrArg some alike'
    · rw [List.getElem?_modify_ne _ _ at_, List.getElem?_modify_ne _ _ at_, ← List.getElem?_map,
        ← List.getElem?_map]
      have peers : (l.through v).peers = (m.through v).peers := by rw [h]
      unfold through at peers
      dsimp only at peers
      rw [← peers, medium_congr h]
  calc (l.modifyPeer index change).through v
    _ = { l.through v with peers := (l.peers.modify index change).map (·.through v l.medium) } :=
      rfl
    _ = { m.through v with peers := (m.peers.modify index other).map (·.through v m.medium) } := by
      rw [h, peers]

theorem beginOpen_through (l : Loopback) (now : Nat) :
    (l.through v).beginOpen now = ((l.beginOpen now).1.through v, (l.beginOpen now).2) := rfl

theorem finishOpen_through (l : Loopback) (attempt : Nat) :
    (l.through v).finishOpen attempt =
      ((l.finishOpen attempt).1.through v, (l.finishOpen attempt).2) := by
  have taken : (l.through v).takeFailure = (l.takeFailure.1, l.takeFailure.2.through v) := by
    unfold takeFailure
    show (if l.isRefusing then _ else if 0 < l.failures then _ else _) = _
    split
    · rfl
    · split <;> rfl
  unfold finishOpen
  rw [taken]
  obtain ⟨failed, l⟩ := l.takeFailure
  cases failed with
  | true => rfl
  | false =>
    show (if l.isGone then _ else _) = _
    dsimp only
    split
    · rfl
    · unfold through Peer.through
      rw [List.map_append, List.map_singleton, v.see_nil, List.length_map]

end Loopback

/-! ## Clients -/

namespace Client

variable {c d : Client} {id : JobId}

/-- A client as seen through a view of what is under way to it, without its log. -/
def through (c : Client) (v : View) : Client :=
  { c with loopback := c.loopback.through v, report := { c.report with records := [] } }

/-- Whether two clients differ at most in what the view does not show, and in their logs. -/
def Alike (v : View) (c d : Client) : Prop := c.through v = d.through v

namespace Alike

/-! ### What alike clients have in common -/

/-- What no view changes is the same. -/
theorem part {α : Type} (h : Alike v c d) (part : Client → α)
    (same : ∀ e : Client, part (e.through v) = part e) : part c = part d := by
  rw [← same c, ← same d, show c.through v = d.through v from h]

/-- What neither looks at anything hidden nor changes it keeps clients alike. -/
theorem map (h : Alike v c d) (change : Client → Client)
    (same : ∀ e : Client, (change e).through v = change (e.through v)) :
    Alike v (change c) (change d) := by
  show (change c).through v = (change d).through v
  rw [same c, same d, show c.through v = d.through v from h]

theorem session (h : Alike v c d) : c.session = d.session := h.part Client.session fun _ => rfl

theorem clock (h : Alike v c d) : c.clock = d.clock := h.part Client.clock fun _ => rfl

theorem isHeld (h : Alike v c d) : c.isHeld = d.isHeld := h.part Client.isHeld fun _ => rfl

theorem jobs (h : Alike v c d) : c.jobs = d.jobs := h.part Client.jobs fun _ => rfl

theorem nextJob (h : Alike v c d) : c.nextJob = d.nextJob := h.part Client.nextJob fun _ => rfl

theorem gateHolder? (h : Alike v c d) : c.gateHolder? = d.gateHolder? :=
  h.part Client.gateHolder? fun _ => rfl

theorem gateQueue (h : Alike v c d) : c.gateQueue = d.gateQueue :=
  h.part Client.gateQueue fun _ => rfl

theorem console (h : Alike v c d) : c.console = d.console := h.part Client.console fun _ => rfl

theorem loopback (h : Alike v c d) : c.loopback.through v = d.loopback.through v :=
  congrArg (fun e : Client => e.loopback) (show c.through v = d.through v from h)

theorem medium (h : Alike v c d) : c.loopback.medium = d.loopback.medium :=
  Loopback.medium_congr h.loopback

theorem job? (h : Alike v c d) (id : JobId) : c.job? id = d.job? id := by
  unfold Client.job?
  rw [h.jobs]

theorem turning? (h : Alike v c d) (id : JobId) (heeds : Bool) :
    c.turning? id heeds = d.turning? id heeds := by
  unfold Client.turning?
  rw [h.job?]

/-! ### Operations -/

theorem log (h : Alike v c d) (records others : List LogRecord) :
    Alike v (c.log records) (d.log others) := h

theorem noteInvocation (h : Alike v c d) (invocation? : Option Invocation) :
    Alike v (c.noteInvocation invocation?) (d.noteInvocation invocation?) :=
  h.map (·.noteInvocation invocation?) fun _ => rfl

theorem print (h : Alike v c d) (line : Json) : Alike v (c.print line) (d.print line) :=
  h.map (·.print line) fun _ => rfl

theorem noteResult (h : Alike v c d) (id : JobId) (result : JobResult) :
    Alike v (c.noteResult id result) (d.noteResult id result) :=
  h.map (·.noteResult id result) fun _ => rfl

theorem withSession (h : Alike v c d) (session : Session) :
    Alike v { c with session } { d with session } :=
  h.map (fun e => { e with session }) fun _ => rfl

theorem withLoopback (h : Alike v c d) {l m : Loopback} (same : l.through v = m.through v) :
    Alike v { c with loopback := l } { d with loopback := m } := by
  calc ({ c with loopback := l } : Client).through v
    _ = { c.through v with loopback := l.through v } := rfl
    _ = { d.through v with loopback := m.through v } := by
      rw [show c.through v = d.through v from h, same]

theorem withConsole (h : Alike v c d) (console : Console) :
    Alike v { c with console } { d with console } :=
  h.map (fun e => { e with console }) fun _ => rfl

theorem withGate (h : Alike v c d) (gateHolder? : Option JobId) (gateQueue : List JobId) :
    Alike v { c with gateHolder?, gateQueue } { d with gateHolder?, gateQueue } :=
  h.map (fun e => { e with gateHolder?, gateQueue }) fun _ => rfl

theorem spawn (h : Alike v c d) (activity : Activity) :
    Alike v (c.spawn activity) (d.spawn activity) := h.map (·.spawn activity) fun _ => rfl

theorem become (h : Alike v c d) (id : JobId) (activity : Activity) :
    Alike v (c.become id activity) (d.become id activity) :=
  h.map (·.become id activity) fun _ => rfl

theorem cancelJob (h : Alike v c d) (id : JobId) : Alike v (c.cancelJob id) (d.cancelJob id) :=
  h.map (·.cancelJob id) fun _ => rfl

theorem cancelJobs (h : Alike v c d) (ids : List JobId) :
    Alike v (c.cancelJobs ids) (d.cancelJobs ids) := by
  unfold Client.cancelJobs
  induction ids generalizing c d with
  | nil => exact h
  | cons id rest ih => exact ih (h.cancelJob id)

theorem cancelReader (h : Alike v c d) : Alike v c.cancelReader d.cancelReader := by
  unfold Client.cancelReader
  rw [h.session]
  cases d.session.reader? with
  | none => exact h
  | some reader => exact h.cancelJob reader

theorem reap (h : Alike v c d) : Alike v c.reap d.reap := by
  have holds : c.holdsSession = d.holdsSession := by
    unfold Client.holdsSession
    rw [h.isHeld, h.jobs]
  unfold Client.reap
  rw [h.session, holds]
  split
  · exact h
  · exact h.cancelReader.withSession _

theorem finish (h : Alike v c d) (id : JobId) : Alike v (c.finish id) (d.finish id) :=
  reap (h.map (fun e => { e with jobs := e.jobs.filter (·.id != id) }) fun _ => rfl)

theorem modifyPeer (h : Alike v c d) {index : Nat} {change other : Peer → Peer}
    (same : ∀ p q, c.loopback.peer? index = some p → d.loopback.peer? index = some q →
      p.through v d.loopback.medium = q.through v d.loopback.medium →
      (change p).through v d.loopback.medium = (other q).through v d.loopback.medium) :
    Alike v (c.modifyPeer index change) (d.modifyPeer index other) :=
  h.withLoopback (Loopback.modifyPeer_congr h.loopback same)

theorem unhear (h : Alike v c d) (index : Nat) :
    Alike v (c.modifyPeer index Peer.unhear) (d.modifyPeer index Peer.unhear) :=
  h.modifyPeer fun _ _ _ _ => Peer.unhear_congr

/-! ### Operations of the user -/

/-- Both are told the same. -/
theorem request (h : Alike v c d) (id? : Option RequestId) (method : String)
    (params : Option Json) : ∃ c' d' result, c.request id? method params = (c', result) ∧
      d.request id? method params = (d', result) ∧ Alike v c' d' := by
  have asked : c.session.request id? method params c.clock =
      d.session.request id? method params d.clock := by rw [h.session, h.clock]
  unfold Client.request
  rw [asked]
  obtain ⟨session, result⟩ := d.session.request id? method params d.clock
  cases result with
  | error e => exact ⟨_, _, _, rfl, rfl, h.withSession session⟩
  | ok ticket =>
    have due : c.clock + session.settings.requestTimeout.toNat =
        d.clock + session.settings.requestTimeout.toNat := by rw [h.clock]
    dsimp only
    rw [due]
    exact ⟨_, _, _, rfl, by rw [h.nextJob], (h.withSession session).spawn _⟩

theorem dropRequest (h : Alike v c d) (request : PendingRequest) :
    Alike v (c.dropRequest request) (d.dropRequest request) := by
  unfold Client.dropRequest
  have cancelled := h.cancelJob request.timer
  dsimp only
  rw [cancelled.session]
  exact cancelled.withSession _

/-- Both are told the same. -/
theorem notify (h : Alike v c d) (method : String) (params : Option Json) :
    ∃ c' d' result, c.notify method params = (c', result) ∧
      d.notify method params = (d', result) ∧ Alike v c' d' := by
  unfold Client.notify
  rw [h.session]
  cases d.session.notify method params with
  | error e => exact ⟨_, _, _, rfl, rfl, h⟩
  | ok session => exact ⟨_, _, _, rfl, rfl, h.withSession session⟩

theorem cancel (h : Alike v c d) (id : RequestId) :
    Alike v (c.cancel id).1 (d.cancel id).1 := by
  unfold Client.cancel
  rw [h.session]
  cases d.session.cancel? id with
  | none => exact h
  | some session => exact h.withSession session

theorem cancelRequest (h : Alike v c d) (id : RequestId) :
    Alike v (c.cancelRequest id).1 (d.cancelRequest id).1 := by
  unfold Client.cancelRequest
  rw [h.session]
  cases d.session.cancelRequest? id with
  | none => exact h
  | some session => exact h.withSession session

/-- Both close with the same writer, or neither does. -/
theorem close? (h : Alike v c d) :
    c.close? = none ∧ d.close? = none ∨
      ∃ closed closed' writer?, c.close? = some (closed, writer?) ∧
        d.close? = some (closed', writer?) ∧ Alike v closed closed' := by
  unfold Client.close?
  rw [h.session]
  cases d.session.close? with
  | none => exact .inl ⟨rfl, rfl⟩
  | some session => exact .inr ⟨_, _, _, rfl, rfl, h.cancelReader.withSession session⟩

theorem dropHandle (h : Alike v c d) : Alike v c.dropHandle d.dropHandle :=
  reap (h.map (fun e => { e with isHeld := false }) fun _ => rfl)

theorem abortJob (h : Alike v c d) (id : JobId) : Alike v (c.abortJob id) (d.abortJob id) := by
  unfold Client.abortJob
  rw [h.job?]
  cases d.job? id with
  | none => exact h
  | some job =>
    dsimp only
    split
    · exact h.cancelJob id
    · exact h

end Alike

/-! ### Changes of one peer -/

/-- A change that the view does not show. -/
theorem alike_modifyPeer (c : Client) {index : Nat} {change : Peer → Peer}
    (same : ∀ p, c.loopback.peer? index = some p →
      (change p).through v c.loopback.medium = p.through v c.loopback.medium) :
    c.Alike v (c.modifyPeer index change) := by
  have unchanged : c.modifyPeer index (fun p => p) = c := by
    unfold modifyPeer Loopback.modifyPeer
    rw [show c.loopback.peers.modify index (fun p => p) = c.loopback.peers from List.modify_id ..]
  have alike : (c.modifyPeer index fun p => p).Alike v (c.modifyPeer index change) :=
    Alike.modifyPeer rfl fun p q found found' _ => by
      rw [found] at found'
      cases found'
      exact (same p found).symm
  rwa [unchanged] at alike

theorem modifyPeer_modifyPeer (c : Client) (index : Nat) (change next : Peer → Peer) :
    (c.modifyPeer index change).modifyPeer index next =
      c.modifyPeer index (fun p => next (change p)) := by
  unfold modifyPeer Loopback.modifyPeer
  rw [show (c.loopback.peers.modify index change).modify index next =
    c.loopback.peers.modify index (next ∘ change) from List.modify_modify_eq ..]
  rfl

end Client

end LspClient
