import LspClient.Proofs.Client.Requests

/-!
# What a step may touch

A `Touch` is one small change of a client, with whoever makes it: a job, at the point where
its step finds it, or nobody of the jobs, which stands for the user, the server and time. It
says who may do what: only the command line prints, only a reader runs the handlers of
notifications or takes in what the server has sent, only a job itself goes on or ends, and
nobody cancels a job that he cannot reach.

Every event is made of such changes (`World.touches_perform`), so what every one of them
keeps is kept by whatever happens. The frame properties after the definition are proved in
that way, with one case for each small change.
-/

namespace LspClient

/-- Whether the job belongs to the command line: its loop, or one that waits for the answer
to an input line. -/
def Activity.isOfConsole : Activity → Bool
  | .forward .. | .await _ (.printer _) _ => true
  | _ => false

/-- The request that whoever waits for it is about to give up. -/
def Activity.givesUp? : Activity → Option PendingRequest
  | .await request _ .late => some request
  | _ => none

theorem Activity.givesUp?_of_free {a : Activity} (free : a.awaited? = none) :
    a.givesUp? = none := by
  cases a with
  | await => cases free
  | _ => rfl

theorem Activity.isOfConsole_await (request : PendingRequest) (receiver : Receiver)
    (stage other : AwaitStage) :
    (Activity.await request receiver stage).isOfConsole =
      (Activity.await request receiver other).isOfConsole := by
  cases receiver <;> rfl

/-- What is under way to the client stays, or the client stops reading and all of it is lost. -/
structure Peer.Keeps (p q : Peer) : Prop where
  isGone : q.isGone = p.isGone
  isUnheard : p.isUnheard = true → q.isUnheard = true
  toClient : q.toClient = p.toClient ∨ q.toClient = [] ∧ q.isUnheard = true

theorem Peer.keeps_refl (p : Peer) : p.Keeps p := ⟨rfl, fun h => h, .inl rfl⟩

theorem Peer.keeps_unhear (p : Peer) : p.Keeps p.unhear := ⟨rfl, fun _ => rfl, .inr ⟨rfl, rfl⟩⟩

theorem Peer.Keeps.trans {p q r : Peer} (h : p.Keeps q) (h' : q.Keeps r) : p.Keeps r where
  isGone := h'.isGone.trans h.isGone
  isUnheard was := h'.isUnheard (h.isUnheard was)
  toClient := by
    rcases h'.toClient with same | lost
    · rcases h.toClient with first | ⟨first, gone⟩
      · exact .inl (same.trans first)
      · exact .inr ⟨same.trans first, h'.isUnheard gone⟩
    · exact .inr lost

/-- Nothing is taken from a connection that is under way to the client. -/
def Loopback.KeepsStream (l l' : Loopback) (index : Nat) : Prop :=
  ∀ p, l.peer? index = some p → ∃ q, l'.peer? index = some q ∧ p.Keeps q

theorem Loopback.keepsStream_refl (l : Loopback) (index : Nat) : l.KeepsStream l index :=
  fun p found => ⟨p, found, p.keeps_refl⟩

theorem Loopback.KeepsStream.trans {l l' l'' : Loopback} {index : Nat}
    (h : l.KeepsStream l' index) (h' : l'.KeepsStream l'' index) : l.KeepsStream l'' index := by
  intro p found
  obtain ⟨q, found', keeps⟩ := h p found
  obtain ⟨r, found'', keeps'⟩ := h' q found'
  exact ⟨r, found'', keeps.trans keeps'⟩

theorem Loopback.keepsStream_of_peers {l l' : Loopback} (more : l.peers <+: l'.peers)
    (index : Nat) : l.KeepsStream l' index := by
  intro p found
  obtain ⟨rest, same⟩ := more
  refine ⟨p, ?_, p.keeps_refl⟩
  unfold peer? at found ⊢
  rw [← same, List.getElem?_append_left (List.getElem?_eq_some_iff.mp found).1]
  exact found

theorem Loopback.keepsStream_modifyPeer (l : Loopback) {change : Peer → Peer} {index : Nat}
    (keeps : ∀ p, l.peer? index = some p → p.Keeps (change p)) (i : Nat) :
    l.KeepsStream (l.modifyPeer index change) i := by
  intro p found
  unfold peer? modifyPeer
  dsimp only
  by_cases same : index = i
  · subst same
    refine ⟨change p, ?_, keeps p found⟩
    rw [List.getElem?_modify_eq]
    exact congrArg (Option.map change) found
  · refine ⟨p, ?_, p.keeps_refl⟩
    rw [List.getElem?_modify_ne _ _ same]
    exact found

namespace Client

/-- The id is in use or has been, and not for a job of the command line. -/
structure IsPlain (c : Client) (id : JobId) : Prop where
  given : id < c.nextJob
  other : ∀ job ∈ c.jobs, job.id = id → job.activity.isOfConsole = false

/-- Why a job can be cancelled: it is the reader, the timer of a request that is known, the
future of an operation that the user drops, or one that the command line's loop waits for. -/
inductive MayCancel (known : PendingRequest → Prop) (who? : Option (JobId × Activity))
    (c : Client) : JobId → Prop
  | reader {id : JobId} (current : c.session.reader? = some id) : MayCancel known who? c id
  | timer {request : PendingRequest} (holds : known request) : MayCancel known who? c request.timer
  | abort {job : Job} (user : who? = none) (member : job ∈ c.jobs)
      (users : job.activity.isUsers = true) : MayCancel known who? c job.id
  | waiting {own id : JobId} {stage : ForwardStage} {waiting : List JobId}
      (loop : who? = some (own, .forward stage waiting)) (member : id ∈ waiting) :
      MayCancel known who? c id

/-- One small change, made by a job or by nobody of the jobs. -/
inductive Touch (known : PendingRequest → Prop) (who? : Option (JobId × Activity)) (c : Client) :
    Client → Prop
  | session {s : Session} (reader : s.reader? = c.session.reader? ∨ s.reader? = none) :
      Touch known who? c { c with session := s }
  | install {s : Session} {peer generation : Nat} (reader : s.reader? = some c.nextJob) :
      Touch known who? c (({ c with session := s } : Client).spawn (.read peer generation))
  | loopback {loopback : Loopback}
      (streams : ∀ index, who? = none ∨
        (∃ id generation, who? = some (id, .read index generation)) ∨
          c.loopback.KeepsStream loopback index)
      (medium : who? ≠ none → loopback.medium = c.loopback.medium) :
      Touch known who? c { c with loopback }
  | gate (gateHolder? : Option JobId) (gateQueue : List JobId) :
      Touch known who? c { c with gateHolder?, gateQueue }
  | console (console : Console)
      (reads : who? = none ∨ ∃ id stage waiting, who? = some (id, .forward stage waiting)) :
      Touch known who? c { c with console }
  | clock (clock : Nat) (user : who? = none) (later : c.clock ≤ clock) :
      Touch known who? c { c with clock }
  | letGo (user : who? = none) : Touch known who? c { c with isHeld := false }
  | log (records : List LogRecord) : Touch known who? c (c.log records)
  | invoke {invocation : Invocation}
      (heard : invocation.kind = .notification →
        ∃ id peer generation, who? = some (id, .read peer generation)) :
      Touch known who? c (c.noteInvocation (some invocation))
  | print {id : JobId} {a : Activity} (line : Json) (own : who? = some (id, a))
      (console : a.isOfConsole = true) : Touch known who? c (c.print line)
  | note (id : JobId) (result : JobResult) : Touch known who? c (c.noteResult id result)
  | spawn {a : Activity}
      (console : a.isOfConsole = true → who? = none ∧ a = .forward .reading [] ∨
        ∃ id b, who? = some (id, b) ∧ b.isOfConsole = true)
      (timer : ∀ request, a.awaited? = some request → known request ∨ c.IsPlain request.timer)
      (early : a.givesUp? = none) : Touch known who? c (c.spawn a)
  | become {id : JobId} {a b : Activity} (own : who? = some (id, a))
      (console : b.isOfConsole = a.isOfConsole)
      (timer : ∀ request, b.awaited? = some request → known request ∨ c.IsPlain request.timer)
      (late : ∀ request, b.givesUp? = some request → request.deadline ≤ c.clock ∧
        ∃ receiver, a = .await request receiver .looking) : Touch known who? c (c.become id b)
  | leave {id : JobId} {a : Activity} (own : who? = some (id, a)) :
      Touch known who? c { c with jobs := c.jobs.filter (·.id != id) }
  | cancel {id : JobId} (may : c.MayCancel known who? id) : Touch known who? c (c.cancelJob id)

/-- Any number of small changes. -/
abbrev Touches (known : PendingRequest → Prop) (who? : Option (JobId × Activity)) :
    Client → Client → Prop := Relation.ReflTransGen (Touch known who?)

/-! ## What every change keeps -/

variable {known : PendingRequest → Prop} {who? : Option (JobId × Activity)} {c c' d : Client}
  {id : JobId} {a b : Activity} {job : Job}

/-! ### Which jobs there are -/

theorem mem_become (member : job ∈ (c.become id b).jobs) :
    (job ∈ c.jobs ∧ job.id ≠ id) ∨
      (job.id = id ∧ job.activity = b ∧ ∃ old ∈ c.jobs, old.id = id) := by
  obtain ⟨old, hold, rfl⟩ := List.mem_map.mp member
  by_cases same : old.id = id
  · rw [if_pos same]
    exact .inr ⟨same, rfl, old, hold, same⟩
  · rw [if_neg same]
    exact .inl ⟨hold, same⟩

theorem mem_spawn (member : job ∈ (c.spawn a).jobs) :
    job ∈ c.jobs ∨ job = { id := c.nextJob, activity := a } :=
  (List.mem_append.mp member).imp_right List.mem_singleton.mp

theorem mem_cancelJob (member : job ∈ (c.cancelJob id).jobs) :
    ∃ old ∈ c.jobs, job.id = old.id ∧ job.activity = old.activity := by
  obtain ⟨old, hold, rfl⟩ := List.mem_map.mp member
  refine ⟨old, hold, ?_⟩
  split <;> exact ⟨rfl, rfl⟩

/-- Nobody gives a request up before its deadline. -/
def IsPatient (c : Client) : Prop :=
  ∀ job ∈ c.jobs, ∀ request, job.activity.givesUp? = some request → request.deadline ≤ c.clock

theorem Touch.isPatient (h : Touch known who? c c') (patient : c.IsPatient) : c'.IsPatient := by
  intro job member request gives
  cases h with
  | install =>
    rcases mem_spawn member with old | rfl
    · exact patient job old request gives
    · cases gives
  | spawn _ _ early =>
    rcases mem_spawn member with old | rfl
    · exact patient job old request gives
    · rw [early] at gives
      cases gives
  | become _ _ _ late =>
    rcases mem_become member with ⟨old, -⟩ | ⟨-, rfl, -⟩
    · exact patient job old request gives
    · exact (late request gives).1
  | leave => exact patient job (List.mem_filter.mp member).1 request gives
  | cancel =>
    obtain ⟨old, hold, -, activity⟩ := mem_cancelJob member
    rw [activity] at gives
    exact patient old hold request gives
  | clock _ _ later => exact Nat.le_trans (patient job member request gives) later
  | _ => exact patient job member request gives

theorem Touches.isPatient (h : Touches known who? c c') (patient : c.IsPatient) :
    c'.IsPatient := by
  induction h with
  | refl => exact patient
  | tail _ last ih => exact last.isPatient ih

/-- Nobody comes to give a request up but by his own step, and he has looked before. -/
theorem Touches.givesUp_cases (h : Touches known who? c c') (member : job ∈ c'.jobs)
    {request : PendingRequest} (gives : job.activity.givesUp? = some request) :
    (∃ old ∈ c.jobs, old.activity.givesUp? = some request) ∨
      ∃ receiver, who? = some (job.id, .await request receiver .looking) := by
  induction h generalizing job with
  | refl => exact .inl ⟨job, member, gives⟩
  | tail _ last ih =>
    cases last with
    | install =>
      rcases mem_spawn member with old | rfl
      · exact ih old gives
      · cases gives
    | spawn _ _ early =>
      rcases mem_spawn member with old | rfl
      · exact ih old gives
      · rw [early] at gives
        cases gives
    | become own _ _ late =>
      rcases mem_become member with ⟨old, -⟩ | ⟨same, rfl, -⟩
      · exact ih old gives
      · obtain ⟨-, receiver, rfl⟩ := late request gives
        rw [same]
        exact .inr ⟨receiver, own⟩
    | leave => exact ih (List.mem_filter.mp member).1 gives
    | cancel =>
      obtain ⟨old, hold, same, activity⟩ := mem_cancelJob member
      rw [activity] at gives
      rw [same]
      exact ih hold gives
    | _ => exact ih member gives

/-! ### What only some can do -/

/-- Nobody of the jobs lets go of the session for whoever made it. -/
theorem Touches.isHeld (h : Touches known (some (id, a)) c c') : c'.isHeld = c.isHeld := by
  induction h with
  | refl => rfl
  | tail _ last ih =>
    cases last with
    | letGo user => cases user
    | _ => exact ih

/-- Time passes for none of the jobs. -/
theorem Touches.clock (h : Touches known (some (id, a)) c c') : c'.clock = c.clock := by
  induction h with
  | refl => rfl
  | tail _ last ih =>
    cases last with
    | clock _ user => cases user
    | _ => exact ih

theorem Touch.nextJob (h : Touch known who? c c') : c.nextJob ≤ c'.nextJob := by
  cases h with
  | install | spawn => exact Nat.le_succ _
  | _ => exact Nat.le_refl _

theorem Touches.nextJob (h : Touches known who? c c') : c.nextJob ≤ c'.nextJob := by
  induction h with
  | refl => exact Nat.le_refl _
  | tail _ last ih => exact Nat.le_trans ih last.nextJob

/-- What was logged stays logged, and more comes after it. -/
theorem Touches.records (h : Touches known who? c c') :
    c.report.records <+: c'.report.records := by
  induction h with
  | refl => exact List.prefix_rfl
  | tail _ last ih =>
    cases last with
    | log records => exact ih.trans (List.prefix_append ..)
    | _ => exact ih

/-- The calls of notification handlers so far. -/
def notices (c : Client) : List Invocation :=
  c.report.invocations.filter fun invocation => decide (invocation.kind = .notification)

/-- Only readers run handlers of notifications. -/
theorem Touches.notices (h : Touches known who? c c')
    (other : ∀ id peer generation, who? ≠ some (id, .read peer generation)) :
    c'.notices = c.notices := by
  induction h with
  | refl => rfl
  | @tail d _ _ last ih =>
    cases last with
    | @invoke invocation heard =>
      rw [← ih]
      have request : invocation.kind ≠ .notification := fun notification => by
        obtain ⟨id, peer, generation, reads⟩ := heard notification
        exact other id peer generation reads
      show (d.report.invocations ++ [invocation]).filter _ = d.report.invocations.filter _
      rw [List.filter_append, List.filter_singleton, decide_eq_false request]
      exact List.append_nil _
    | _ => exact ih

/-- Only the command line prints. -/
theorem Touches.printed (h : Touches known who? c c')
    (other : ∀ id a, who? = some (id, a) → a.isOfConsole = false) :
    c'.report.printed = c.report.printed := by
  induction h with
  | refl => rfl
  | tail _ last ih =>
    cases last with
    | print _ own console =>
      rw [other _ _ own] at console
      cases console
    | _ => exact ih

/-- Only the command line's loops read the console. -/
theorem Touches.console (h : Touches known (some (id, a)) c c')
    (other : ∀ stage waiting, a ≠ .forward stage waiting) : c'.console = c.console := by
  induction h with
  | refl => rfl
  | tail _ last ih =>
    cases last with
    | console _ reads =>
      rcases reads with user | ⟨id, stage, waiting, own⟩
      · cases user
      · cases own
        exact absurd rfl (other stage waiting)
    | _ => exact ih

/-- No job changes the medium. -/
theorem Touches.medium (h : Touches known (some (id, a)) c c') :
    c'.loopback.medium = c.loopback.medium := by
  induction h with
  | refl => rfl
  | tail _ last ih =>
    cases last with
    | loopback _ medium => exact (medium nofun).trans ih
    | _ => exact ih

/-- A job takes nothing from a connection that it does not read. -/
theorem Touches.keepsStream (h : Touches known (some (id, a)) c c') {index : Nat}
    (other : ∀ generation, a ≠ .read index generation) :
    c.loopback.KeepsStream c'.loopback index := by
  induction h with
  | refl => exact Loopback.keepsStream_refl _ _
  | tail _ last ih =>
    cases last with
    | loopback streams =>
      rcases streams index with user | ⟨id, generation, reads⟩ | keeps
      · cases user
      · cases reads
        exact absurd rfl (other generation)
      · exact ih.trans keeps
    | _ => exact ih

/-! ## Sessions -/

/-- Only an installation brings a reader. -/
theorem reader?_of_deals {s t : Session} {now : Nat} {dealing : Dealing}
    (h : s.Deals now dealing t) (other : dealing ≠ .install) :
    t.reader? = s.reader? ∨ t.reader? = none := by
  cases h with
  | rest | removed | routed | taken => exact .inl rfl
  | unmanned outbox? =>
    rw [Session.unman_eq]
    exact .inl rfl
  | drained outbox? =>
    rw [Session.unman_eq]
    exact .inl rfl
  | lost lost =>
    obtain ⟨-, -, rfl⟩ := Session.reportLoss?_eq_some_iff.mp lost
    exact .inr rfl
  | closed closed =>
    obtain ⟨-, rfl⟩ := Session.close?_eq_some_iff.mp closed
    exact .inr rfl
  | installed => exact absurd rfl other
  | carriedOut errand =>
    obtain ⟨base, prepares, after⟩ := s.carryOut_eq now errand
    obtain ⟨correlator, nextId, rfl⟩ := prepares.exists_eq
    refine .inl ?_
    split at after
    · rw [after]
    · obtain ⟨index, -, after⟩ := after
      rw [after]
      rfl

theorem touches_deals {s : Session} {dealing : Dealing}
    (h : c.session.Deals c.clock dealing s) (other : dealing ≠ .install) :
    Touches known who? c { c with session := s } :=
  .single (.session (reader?_of_deals h other))

theorem touches_log (c : Client) (records : List LogRecord) :
    Touches known who? c (c.log records) := .single (.log records)

theorem touches_invocation {invocation? : Option Invocation}
    (heard : ∀ invocation, invocation? = some invocation → invocation.kind = .notification →
      ∃ id peer generation, who? = some (id, .read peer generation)) :
    Touches known who? c (c.noteInvocation invocation?) := by
  cases invocation? with
  | none =>
    have same : c.noteInvocation none = c := by
      unfold noteInvocation
      rw [Option.toList_none, List.append_nil]
    rw [same]
  | some invocation => exact .single (.invoke (heard invocation rfl))

theorem touches_modifyPeer (c : Client) {index : Nat} {change : Peer → Peer}
    (keeps : ∀ p, c.loopback.peer? index = some p → p.Keeps (change p)) :
    Touches known who? c (c.modifyPeer index change) :=
  .single (.loopback (fun i => .inr (.inr (c.loopback.keepsStream_modifyPeer keeps i)))
    fun _ => rfl)

theorem touches_unhear (c : Client) (index : Nat) :
    Touches known who? c (c.modifyPeer index Peer.unhear) :=
  touches_modifyPeer c fun p _ => p.keeps_unhear

/-- A reader takes from its own connection. -/
theorem touches_take (c : Client) {peer generation : Nat} (change : Peer → Peer)
    (own : who? = some (id, .read peer generation)) :
    Touches known who? c (c.modifyPeer peer change) := by
  refine .single (.loopback (fun index => .inr ?_) fun _ => rfl)
  by_cases same : peer = index
  · subst same
    exact .inl ⟨id, generation, own⟩
  · refine .inr fun p found => ⟨p, ?_, p.keeps_refl⟩
    unfold Loopback.peer? Loopback.modifyPeer
    dsimp only
    rw [List.getElem?_modify_ne _ _ same]
    exact found

/-- New connections and attempts take nothing from any connection. -/
theorem touches_peers (c : Client) {loopback : Loopback}
    (more : c.loopback.peers <+: loopback.peers)
    (medium : loopback.medium = c.loopback.medium) : Touches known who? c { c with loopback } :=
  .single (.loopback (fun index => .inr (.inr (Loopback.keepsStream_of_peers more index)))
    fun _ => medium)

/-! ## Jobs -/

/-- A job that is started for no request. -/
theorem touches_spawn (c : Client) (plain : a.isOfConsole = false) (free : a.awaited? = none) :
    Touches known who? c (c.spawn a) := by
  refine .single (.spawn (fun console => ?_) (fun request waits => ?_)
    (Activity.givesUp?_of_free free))
  · rw [plain] at console
    cases console
  · rw [free] at waits
    cases waits

/-- A job that goes on and waits for no request. -/
theorem touches_become (c : Client) (own : who? = some (id, a))
    (console : b.isOfConsole = a.isOfConsole) (free : b.awaited? = none) :
    Touches known who? c (c.become id b) := by
  refine .single (.become own console (fun request waits => ?_) fun request gives => ?_)
  · rw [free] at waits
    cases waits
  · rw [Activity.givesUp?_of_free free] at gives
    cases gives

/-- A job outside the command line goes on at a point outside it. -/
theorem touches_plain (c : Client) (own : who? = some (id, a)) (outside : a.isOfConsole = false)
    (plain : b.isOfConsole = false) (free : b.awaited? = none) :
    Touches known who? c (c.become id b) :=
  touches_become c own (plain.trans outside.symm) free

theorem touches_cancelReader (c : Client) : Touches known who? c c.cancelReader := by
  unfold cancelReader
  split
  · next reader current => exact .single (.cancel (.reader current))
  · exact .refl

theorem touches_reap (c : Client) : Touches known who? c c.reap := by
  unfold reap
  split
  · exact .refl
  · refine (touches_cancelReader c).tail (.session (.inr ?_))
    rw [Session.drop_eq]

@[simp] theorem report_finish (c : Client) (id : JobId) : (c.finish id).report = c.report := by
  unfold finish reap
  dsimp only
  split
  · rfl
  · unfold cancelReader
    split <;> rfl

@[simp] theorem loopback_finish (c : Client) (id : JobId) :
    (c.finish id).loopback = c.loopback := by
  unfold finish reap
  dsimp only
  split
  · rfl
  · unfold cancelReader
    split <;> rfl

theorem touches_finish (c : Client) (own : who? = some (id, a)) :
    Touches known who? c (c.finish id) := .head (.leave own) (touches_reap _)

theorem touches_report (c : Client) (own : who? = some (id, a)) (result : JobResult) :
    Touches known who? c ((c.noteResult id result).finish id) :=
  .head (.note id result) (touches_finish _ own)

theorem touches_close? {closed : Client} {writer? : Option JobId}
    (h : c.close? = some (closed, writer?)) : Touches known who? c closed := by
  obtain ⟨s, closes, same⟩ := Option.map_eq_some_iff.mp h
  cases same
  obtain ⟨-, rfl⟩ := Session.close?_eq_some_iff.mp closes
  exact (touches_cancelReader c).tail (.session (.inr rfl))

/-! ## One lemma for each step -/

theorem touches_endLoss (c : Client) (own : who? = some (id, a)) (outbox? : Option Nat) :
    Touches known who? c (c.endLoss id outbox?) :=
  (touches_deals (.unmanned outbox?) nofun).trans (touches_finish _ own)

theorem touches_stepLoss {generation : Nat} {outbox? : Option Nat} {stage : LossStage}
    (own : who? = some (id, a)) (outside : a.isOfConsole = false) :
    Touches known who? c (c.stepLoss id generation outbox? stage) := by
  unfold stepLoss
  cases stage with
  | reporting =>
    dsimp only
    split
    · exact touches_endLoss _ own _
    · next session lost =>
      obtain ⟨-, -, same⟩ := Session.reportLoss?_eq_some_iff.mp lost
      have freed : session.reader? = none := by rw [same]
      exact ((touches_cancelReader c).tail (.session (.inr freed))).trans
        (touches_plain _ own outside rfl rfl)
  | deciding =>
    dsimp only
    split
    · exact (touches_log c _).trans (touches_plain _ own outside rfl rfl)
    · exact ((touches_log c _).trans (touches_spawn _ rfl rfl)).trans (touches_endLoss _ own _)
  | closing =>
    dsimp only
    split
    · next closed _ done => exact (touches_close? done).trans (touches_plain _ own outside rfl rfl)
    · exact touches_endLoss _ own _
  | draining => exact (touches_deals (.drained none) nofun).trans (touches_endLoss _ own _)

theorem touches_stepRead {peer generation : Nat} (own : who? = some (id, .read peer generation)) :
    Touches known who? c (c.stepRead id peer generation) := by
  unfold stepRead
  split
  · exact touches_finish c own
  · next p _ =>
    have taken : Touches known who? c
        (c.modifyPeer peer fun _ => (p.read c.loopback.medium).1) := touches_take _ _ own
    have unheard := taken.trans (touches_unhear _ peer)
    dsimp only
    split
    · exact unheard.trans (touches_finish _ own)
    · split
      · exact taken
      · next body _ =>
        let reaction := (c.session.receive body).2
        have received := taken.trans
          (touches_deals (Session.deals_receive c.session c.clock body) nofun)
        have told := (received.trans (touches_log _ reaction.records)).trans
          (touches_invocation fun invocation (_ : reaction.invocation? = some invocation) _ =>
            ⟨id, peer, generation, own⟩)
        split
        · exact told.trans (touches_spawn _ rfl rfl)
        · exact told
      · exact (unheard.trans (touches_log _ _)).trans (touches_plain _ own rfl rfl rfl)
      · exact unheard.trans (touches_plain _ own rfl rfl rfl)

/-- What is written goes the other way. -/
theorem keeps_write {p q : Peer} {medium : Medium} {data left : Bytes}
    (h : p.write medium data = .ok (q, left)) : p.Keeps q := by
  unfold Peer.write at h
  split at h
  · cases h
  · split at h
    · cases h
      exact ⟨rfl, fun h => h, .inl rfl⟩
    · cases h
      exact ⟨rfl, fun h => h, .inl rfl⟩

theorem touches_stepWrite {peer generation outbox : Nat} {stage : WriteStage}
    (own : who? = some (id, a)) (outside : a.isOfConsole = false) :
    Touches known who? c (c.stepWrite id peer generation outbox stage) := by
  unfold stepWrite
  cases stage with
  | idle =>
    dsimp only
    split
    · exact touches_finish c own
    · next box found =>
      split
      · next frame rest head =>
        exact (touches_deals (.taken found head) nofun).trans (touches_plain _ own outside rfl rfl)
      · next rest head =>
        exact (touches_deals (.taken found head) nofun).trans (touches_plain _ own outside rfl rfl)
      · split
        · exact touches_plain _ own outside rfl rfl
        · exact .refl
  | writing left =>
    dsimp only
    split
    · exact touches_endLoss _ own _
    · next p found =>
      split
      · next written =>
        refine (touches_modifyPeer c fun q found' => ?_).trans (touches_plain _ own outside rfl rfl)
        rw [found] at found'
        cases found'
        exact keeps_write written
      · split
        · exact (touches_log c _).trans (touches_endLoss _ own _)
        · exact (touches_log c _).trans (touches_plain _ own outside rfl rfl)
  | closing =>
    have closed : Touches known who? c (c.modifyPeer peer Peer.close) :=
      touches_modifyPeer c fun _ _ => ⟨rfl, fun h => h, .inl rfl⟩
    exact closed.trans (touches_endLoss _ own _)

theorem touches_stepReply {request : Request} {stage : ReplyStage} (own : who? = some (id, a))
    (outside : a.isOfConsole = false) : Touches known who? c (c.stepReply id request stage) := by
  unfold stepReply
  cases stage with
  | arriving =>
    have called : Touches known who? c
        (c.noteInvocation (c.session.dispatcher.invocation? (.request request))) := by
      refine touches_invocation fun invocation called notification => ?_
      unfold Dispatcher.invocation? at called
      dsimp only at called
      split at called
      · cases called
        cases notification
      · cases called
    dsimp only
    split
    · exact called.trans (touches_plain _ own outside rfl rfl)
    · exact called.trans (touches_finish _ own)
    · exact called.trans (touches_plain _ own outside rfl rfl)
  | working until_ ending => exact (touches_log c _).trans (touches_plain _ own outside rfl rfl)
  | replying response =>
    dsimp only
    split
    · exact touches_finish _ own
    · split
      · next session sent =>
        have deals : c.session.Deals c.clock (.errand (.respond response))
            ((c.session.send (.response response)).toOption.getD c.session) := .carriedOut _
        rw [sent] at deals
        exact (touches_deals deals nofun).trans (touches_finish _ own)
      · exact touches_finish _ own

theorem touches_stepExpire {ticket : Ticket} (own : who? = some (id, a)) :
    Touches known who? c (c.stepExpire id ticket) := by
  unfold stepExpire
  split
  · next session expired =>
    exact ((touches_deals (Session.deals_expire? expired) nofun).trans (touches_log _ _)).trans
      (touches_finish _ own)
  · exact touches_finish _ own

theorem touches_conclude {request : PendingRequest} {receiver : Receiver} {stage : AwaitStage}
    {outcome : Outcome} (holds : known request)
    (own : who? = some (id, .await request receiver stage)) :
    Touches known who? c (c.conclude id request receiver outcome) := by
  have first : Touches known who? c (c.cancelJob request.timer) :=
    .single (.cancel (.timer holds))
  unfold conclude
  dsimp only
  split
  · exact (first.tail (.print _ own rfl)).trans (touches_finish _ own)
  · exact first.trans (touches_report _ own _)

theorem touches_stepAwait {request : PendingRequest} {receiver : Receiver} {stage : AwaitStage}
    (holds : known request) (own : who? = some (id, .await request receiver stage)) :
    Touches known who? c (c.stepAwait id request receiver stage) := by
  unfold stepAwait
  cases stage with
  | looking =>
    dsimp only
    split
    · exact touches_conclude holds own
    · split
      · exact .refl
      · next late =>
        refine .single (.become own (Activity.isOfConsole_await ..) (fun other waits => ?_)
          fun other gives => ?_)
        · cases waits
          exact .inl holds
        · cases gives
          exact ⟨Nat.le_of_not_lt late, receiver, rfl⟩
  | late =>
    dsimp only
    split
    · next session abandoned =>
      exact ((touches_deals (Session.deals_abandon? abandoned) nofun).trans
        (touches_log _ _)).trans (touches_conclude holds own)
    · exact touches_conclude holds own

/-- A request that is sent has a timer of its own. -/
theorem touches_request (o : c.outline.Orderly) (id? : Option RequestId) (method : String)
    (params : Option Json) : Touches known who? c (c.request id? method params).1 ∧
      ∀ request, (c.request id? method params).2 = .ok request →
        (c.request id? method params).1.IsPlain request.timer := by
  have deals : c.session.Deals c.clock (.errand (.request id? method params))
      (c.session.request id? method params c.clock).1 := .carriedOut _
  unfold request
  split
  · next session e done =>
    rw [done] at deals
    exact ⟨touches_deals deals nofun, nofun⟩
  · next session ticket done =>
    rw [done] at deals
    refine ⟨(touches_deals deals nofun).trans (touches_spawn _ rfl rfl), fun request own => ?_⟩
    cases own
    refine ⟨Nat.lt_succ_self _, fun job member same => ?_⟩
    rcases List.mem_append.mp member with old | new
    · have below := o.below _ (mem_outline old)
      exact absurd same (Nat.ne_of_lt below)
    · rw [List.mem_singleton.mp new]
      rfl

theorem touches_notify (c : Client) (method : String) (params : Option Json) :
    Touches known who? c (c.notify method params).1 := by
  have deals : c.session.Deals c.clock (.errand (.notify method params))
      ((c.session.notify method params).toOption.getD c.session) := .carriedOut _
  unfold notify
  split
  · next sent =>
    rw [sent] at deals
    exact touches_deals deals nofun
  · exact .refl

theorem touches_stepCall (o : c.outline.Orderly) {method : String} {params : Option Json}
    (own : who? = some (id, a)) (outside : a.isOfConsole = false) :
    Touches known who? c (c.stepCall id method params) := by
  obtain ⟨sends, timer⟩ : Touches known who? c (c.request none method params).1 ∧ _ :=
    touches_request o none method params
  unfold stepCall
  split
  · next c' request done =>
    rw [done] at sends timer
    refine sends.tail (.become own outside.symm (fun other waits => ?_) nofun)
    cases waits
    exact .inr (timer request rfl)
  · next c' e done =>
    rw [done] at sends
    exact sends.trans (touches_report _ own _)

theorem touches_toAttempt (c : Client) {why : Search} (own : who? = some (id, a))
    (outside : a.isOfConsole = false) (attempt : Nat) :
    Touches known who? c (c.toAttempt id why attempt) := by
  unfold toAttempt
  split <;> exact touches_plain c own outside rfl rfl

theorem touches_failSearch (c : Client) {why : Search} (own : who? = some (id, a))
    (outside : a.isOfConsole = false) (error : SessionError) :
    Touches known who? c (c.failSearch id why error) := by
  unfold failSearch
  split
  · exact touches_plain c own outside rfl rfl
  · exact touches_plain c own outside rfl rfl
  · exact (touches_log c _).trans (touches_plain _ own outside rfl rfl)

theorem touches_nextAttempt (c : Client) {why : Search} (own : who? = some (id, a))
    (outside : a.isOfConsole = false) (made : Nat) (last : ConnectError) :
    Touches known who? c (c.nextAttempt id why made last) := by
  unfold nextAttempt
  dsimp only
  split
  · exact touches_toAttempt c own outside _
  · exact touches_failSearch c own outside _

theorem touches_failAttempt (c : Client) {why : Search} (own : who? = some (id, a))
    (outside : a.isOfConsole = false) (attempt : Nat) (error : ConnectError) :
    Touches known who? c (c.failAttempt id why attempt error) :=
  (touches_log c _).trans (touches_nextAttempt _ own outside attempt error)

theorem touches_openGate (c : Client) : Touches known who? c c.openGate := by
  unfold openGate
  split
  · exact .single (.gate none c.gateQueue)
  · exact .single (.gate _ _)

theorem touches_finishOpen (c : Client) {loopback : Loopback} {number : Nat}
    {result : Except ConnectError Nat} (h : c.loopback.finishOpen number = (loopback, result)) :
    Touches known who? c { c with loopback } := by
  have failure {rest : Loopback} {fails : Bool}
      (taken : c.loopback.takeFailure = (fails, rest)) :
      rest.peers = c.loopback.peers ∧ rest.medium = c.loopback.medium := by
    refine ⟨(takeFailure_same taken).2, ?_⟩
    unfold Loopback.takeFailure at taken
    split at taken
    · cases taken
      rfl
    · split at taken <;> cases taken <;> rfl
  unfold Loopback.finishOpen at h
  split at h
  · next rest taken =>
    cases h
    obtain ⟨peers, medium⟩ := failure taken
    exact touches_peers c ⟨[], by rw [List.append_nil, peers]⟩ medium
  · next rest taken =>
    obtain ⟨peers, medium⟩ := failure taken
    split at h
    · cases h
      exact touches_peers c ⟨[], by rw [List.append_nil, peers]⟩ medium
    · cases h
      exact touches_peers c ⟨[{}], by rw [peers]⟩ medium

theorem touches_install (c : Client) {s : Session} {why : Search} {peer : Nat}
    (done : c.session.install why.state c.nextJob (c.nextJob + 1) = .ok s) :
    Touches known who? c
      (({ c with session := s } : Client).spawn (.read peer s.generation)) := by
  obtain ⟨-, rfl⟩ := Session.install_eq_ok_iff.mp done
  exact .single (.install rfl)

theorem touches_stepSearch {why : Search} {stage : SearchStage} (own : who? = some (id, a))
    (outside : a.isOfConsole = false) : Touches known who? c (c.stepSearch id why stage) := by
  unfold stepSearch
  cases stage with
  | arriving =>
    dsimp only
    split
    · exact .head (.gate (some id) c.gateQueue) (touches_plain _ own outside rfl rfl)
    · next holder taken =>
      have queued : Touches known who? c { c with gateQueue := c.gateQueue ++ [id] } :=
        .single (.gate c.gateHolder? _)
      exact queued.trans (touches_plain _ own outside rfl rfl)
  | atGate =>
    dsimp only
    split
    · exact touches_nextAttempt c own outside 0 noAttempt
    · exact touches_plain c own outside rfl rfl
  | backingOff attempt until_ => exact touches_plain c own outside rfl rfl
  | checking attempt =>
    dsimp only
    split
    · exact touches_plain c own outside rfl rfl
    · exact touches_failSearch c own outside _
  | starting attempt =>
    have begun : Touches known who? c { c with loopback := (c.loopback.beginOpen c.clock).1 } :=
      touches_peers c List.prefix_rfl rfl
    exact begun.trans (touches_plain _ own outside rfl rfl)
  | opening attempt number deadline resume? =>
    dsimp only
    split
    · split
      · next opened =>
        exact (touches_finishOpen c opened).trans (touches_plain _ own outside rfl rfl)
      · next refused =>
        exact (touches_finishOpen c refused).trans (touches_failAttempt _ own outside _ _)
    · exact touches_failAttempt c own outside _ _
  | installing attempt peer =>
    dsimp only
    split
    · next session done =>
      exact ((touches_install c done).trans (touches_spawn _ rfl rfl)).trans
        (touches_plain _ own outside rfl rfl)
    · have refused : Touches known who? c (c.modifyPeer peer fun p => p.close.unhear) :=
        touches_modifyPeer c fun _ _ => ⟨rfl, fun _ => rfl, .inr ⟨rfl, rfl⟩⟩
      exact refused.trans (touches_failSearch _ own outside _)
  | closing error =>
    dsimp only
    split
    · next closed _ done => exact (touches_close? done).trans (touches_plain _ own outside rfl rfl)
    · exact touches_plain c own outside rfl rfl
  | draining error =>
    exact (touches_deals (.drained none) nofun).trans (touches_plain _ own outside rfl rfl)
  | leaving error? =>
    unfold endSearch
    cases why with
    | first => exact (touches_openGate c).trans (touches_report _ own _)
    | again => exact (touches_openGate c).trans (touches_finish _ own)

theorem touches_stepShutdown {stage : ShutdownStage} (own : who? = some (id, a))
    (outside : a.isOfConsole = false) : Touches known who? c (c.stepShutdown id stage) := by
  unfold stepShutdown
  cases stage with
  | closing =>
    dsimp only
    split
    · next closed _ done => exact (touches_close? done).trans (touches_plain _ own outside rfl rfl)
    · exact touches_report c own _
  | draining writer? =>
    exact (touches_deals (.drained none) nofun).trans (touches_plain _ own outside rfl rfl)
  | flushing writer? deadline => exact touches_report c own _

theorem touches_takeLine (o : c.outline.Orderly) (own : who? = some (id, a))
    (console : a.isOfConsole = true) (line : List Char) :
    Touches known who? c (c.takeLine line).1 := by
  unfold takeLine
  split
  · exact .refl
  · next outgoing _ =>
    unfold sendLine
    cases outgoing with
    | notification method params =>
      have sends : Touches known who? c (c.notify method params).1 := touches_notify ..
      dsimp only
      split
      · next done =>
        rw [done] at sends
        exact sends
      · next done =>
        rw [done] at sends
        exact sends.trans (touches_log _ _)
    | request echo method params =>
      obtain ⟨sends, timer⟩ : Touches known who? c (c.request none method params).1 ∧ _ :=
        touches_request o none method params
      dsimp only
      split
      · next done =>
        rw [done] at sends
        exact sends.tail (.print _ own console)
      · next request done =>
        rw [done] at sends timer
        refine sends.tail (.spawn (fun _ => .inr ⟨id, a, own, console⟩) (fun other waits => ?_)
          rfl)
        cases waits
        exact .inr (timer request rfl)
  · exact touches_log c _

theorem touches_endForward {stage : ForwardStage} {waiting : List JobId}
    (own : who? = some (id, .forward stage waiting)) (result : Except ForwardError Unit) :
    Touches known who? c (c.endForward id waiting result) := by
  have cancels (ids : List JobId) (among : ∀ i ∈ ids, i ∈ waiting) :
      ∀ c : Client, Touches known who? c (c.cancelJobs ids) := by
    induction ids with
    | nil => exact fun _ => .refl
    | cons first rest ih =>
      intro c
      obtain ⟨one, others⟩ := List.forall_mem_cons.mp among
      exact .head (.cancel (.waiting own one)) (ih others _)
  unfold endForward
  exact (cancels waiting (fun _ member => member) c).trans (touches_report _ own _)

theorem touches_stepForward (o : c.outline.Orderly) {stage : ForwardStage}
    {waiting : List JobId} (own : who? = some (id, .forward stage waiting)) :
    Touches known who? c (c.stepForward id waiting stage) := by
  unfold stepForward
  cases stage with
  | reading =>
    dsimp only
    split
    · unfold stepIdleForward
      split
      · exact (touches_log c _).trans (touches_endForward own _)
      · split
        · exact touches_endForward own _
        · exact .refl
    · exact touches_become c own rfl rfl
    · next content rest _ =>
      let taken : Client := { c with console := { c.console with input := rest } }
      have first : Touches known who? c taken :=
        .single (.console _ (.inr ⟨id, .reading, waiting, own⟩))
      split
      · exact first.trans (touches_endForward own _)
      · next line _ =>
        exact (first.trans (touches_takeLine (c := taken) o own rfl line)).trans
          (touches_become _ own rfl rfl)
  | finishing => exact touches_endForward own _

theorem touches_dropRequest {request : PendingRequest} (holds : known request) :
    Touches known who? c (c.dropRequest request) :=
  .head (.cancel (.timer holds)) <| by
    have deals : (c.cancelJob request.timer).session.Deals (c.cancelJob request.timer).clock .calls
        (c.dropRequest request).session := comes_dropRequest
    exact touches_deals deals nofun

theorem touches_stepCancelled {job : Job} (own : who? = some (job.id, job.activity))
    (holds : ∀ request, job.activity.awaited? = some request → known request) :
    Touches known who? c (c.stepCancelled job) := by
  unfold stepCancelled
  split
  · exact (touches_unhear c _).trans (touches_finish _ own)
  · next request _ _ activity =>
    rw [activity] at holds
    exact (touches_dropRequest (holds request rfl)).trans (touches_finish _ own)
  · unfold giveUpSearch
    split
    · exact (touches_openGate c).trans (touches_finish _ own)
    · have left : Touches known who? c
          { c with gateQueue := c.gateQueue.filter (· != job.id) } :=
        .single (.gate c.gateHolder? _)
      exact left.trans (touches_finish _ own)
  · exact touches_finish c own

/-- Whoever aborts a job cancels it, and changes nothing else. -/
theorem touches_abortJob (c : Client) (id : JobId) :
    Touches known none c (c.abortJob id) := by
  unfold abortJob
  split
  · next job found =>
    split
    · next users =>
      have own : job.id = id := by simpa using List.find?_some found
      rw [← own]
      exact .single (.cancel (.abort rfl (List.mem_of_find?_eq_some found) users))
    · exact .refl
  · exact .refl

/-- Whatever a job does at its step is made of small changes of its own. -/
theorem touches_step (o : c.outline.Orderly) {job : Job}
    (holds : ∀ request, job.activity.awaited? = some request → known request) :
    Touches known (some (job.id, job.activity)) c (c.step job) := by
  unfold step
  split
  · exact touches_stepCancelled rfl holds
  · cases activity : job.activity with
    | read => exact touches_stepRead rfl
    | write => exact touches_stepWrite rfl rfl
    | lose => exact touches_stepLoss rfl rfl
    | reply => exact touches_stepReply rfl rfl
    | expire => exact touches_stepExpire rfl
    | call => exact touches_stepCall o rfl rfl
    | await request receiver stage =>
      rw [activity] at holds
      exact touches_stepAwait (holds request rfl) rfl
    | search => exact touches_stepSearch rfl rfl
    | shutDown => exact touches_stepShutdown rfl rfl
    | forward => exact touches_stepForward o rfl

end Client

/-! ## Every event -/

/-- How much time passes at an event. -/
def Event.millis : Event → Nat
  | .wait millis => millis
  | _ => 0

namespace World

variable {w : World} {event : Event}

/-- Who acts at an event, if it is a job. -/
def actor? (w : World) (event : Event) : Option (JobId × Activity) :=
  (w.acting? event).map fun job => (job.id, job.activity)

theorem touches_turn (o : w.client.outline.Orderly) (id : JobId) (heeds : Bool) :
    Client.Touches (· ∈ w.requests) (w.actor? (.turn id heeds)) w.client
      (w.occur (.turn id heeds)).client := by
  unfold actor?
  rw [occur_of_acting]
  cases acts : w.acting? (.turn id heeds) with
  | none => exact .refl
  | some job =>
    refine Client.touches_step o fun request waits => ?_
    obtain ⟨-, live, -⟩ := acting?_eq_some acts
    -- what the acting job waits for is alive because the job is
    cases activity : job.activity with
    | await other receiver stage =>
      rw [activity] at waits live
      cases waits
      exact mem_requests.mpr (.inr ⟨_, _, _, live⟩)
    | _ =>
      rw [activity] at waits
      cases waits

theorem touches_occur (o : w.client.outline.Orderly) (event : Event) :
    Client.Touches (· ∈ w.requests) (w.actor? event) w.client (w.occur event).client := by
  cases event with
  | turn id heeds => exact touches_turn o id heeds
  | request id? method params =>
    have sends : Client.Touches (· ∈ w.requests) none w.client
        (w.client.request id? method params).1 := (Client.touches_request o id? method params).1
    unfold occur
    dsimp only
    split
    · split
      · next done =>
        rw [done] at sends
        exact sends
      · next done =>
        rw [done] at sends
        exact sends
    · exact .refl
  | notify method params =>
    unfold occur
    dsimp only
    split
    · exact Client.touches_notify ..
    · exact .refl
  | cancel id =>
    unfold occur Client.cancel
    dsimp only
    split
    · split
      · next session done => exact Client.touches_deals (Session.deals_cancel? done) nofun
      · exact .refl
    · exact .refl
  | cancelRequest id =>
    have deals : w.client.session.Deals w.client.clock (.errand (.cancelRequest id))
        ((w.client.session.cancelRequest? id).getD w.client.session) := .carriedOut _
    unfold occur Client.cancelRequest
    dsimp only
    split
    · split
      · next session done =>
        rw [done] at deals
        exact Client.touches_deals deals nofun
      · exact .refl
    · exact .refl
  | connect | call | shutDown =>
    unfold occur
    dsimp only
    split
    · exact Client.touches_spawn _ rfl rfl
    · exact .refl
  | forward =>
    unfold occur
    dsimp only
    split
    · exact .single (.spawn (fun _ => .inl ⟨rfl, rfl⟩) nofun rfl)
    · exact .refl
  | route dispatcher =>
    unfold occur
    dsimp only
    split
    · exact .single (.session (.inl rfl))
    · exact .refl
  | dropHandle => exact .head (.letGo rfl) (Client.touches_reap _)
  | await request =>
    unfold occur
    dsimp only
    split
    · next held =>
      refine .single (.spawn nofun (fun other waits => ?_) rfl)
      cases waits
      exact .inl (mem_requests.mpr (.inl held))
    · exact .refl
  | dropRequest request =>
    unfold occur
    dsimp only
    split
    · next held => exact Client.touches_dropRequest (mem_requests.mpr (.inl held))
    · exact .refl
  | abort id => exact Client.touches_abortJob w.client id
  | serve loopback =>
    unfold occur
    dsimp only
    split
    · exact .single (.loopback (fun _ => .inl rfl) fun some => absurd rfl some)
    · exact .refl
  | type console => exact .single (.console console (.inl rfl))
  | wait millis => exact .single (.clock _ rfl (Nat.le_add_right ..))

/-- Whatever happens is made of small changes by whoever acts. -/
theorem touches_perform (o : w.client.outline.Orderly) (event : Event) :
    Client.Touches (· ∈ w.requests) (w.actor? event) w.client (w.perform event).client := by
  cases room : w.hasRoom event with
  | false =>
    rw [perform_of_no_room room]
  | true =>
    rw [perform_of_room room]
    exact touches_occur o event

/-- In every run, whoever is about to give a request up does so after its deadline. -/
theorem isPatient_run (settings : Settings) (medium : Medium) (events : List Event) :
    (run settings medium events).client.IsPatient := by
  induction events using List.reverseRecOn with
  | nil => exact List.forall_mem_nil _
  | append_singleton events event ih =>
    rw [run_concat]
    exact (touches_perform (Outline.reachable_run settings medium events).orderly event).isPatient
      ih

theorem deadline_of_late (patient : w.client.IsPatient) {job : Job} {request : PendingRequest}
    {receiver : Receiver} (acts : w.acting? event = some job)
    (activity : job.activity = .await request receiver .late) :
    request.deadline ≤ w.client.clock := by
  have live := (acting?_eq_some acts).2.1
  obtain ⟨found, member, -, same⟩ := Client.exists_job live
  refine patient found member request ?_
  rw [same, activity]
  rfl

/-- What is done by nobody of the jobs reports nothing. The handle goes only if it is dropped,
the console changes only if somebody types, the connections change only if the server or the
medium does something, and time passes only if somebody waits. -/
structure LeavesByUser (event : Event) (c d : Client) : Prop where
  report : d.report = c.report
  isHeld : event ≠ .dropHandle → d.isHeld = c.isHeld
  console : (∀ console, event ≠ .type console) → d.console = c.console
  loopback : (∀ loopback, event ≠ .serve loopback) → d.loopback = c.loopback
  clock : d.clock = c.clock + event.millis

theorem occur_of_user (user : ∀ id heeds, event ≠ .turn id heeds) :
    LeavesByUser event w.client (w.occur event).client := by
  unfold occur
  cases event with
  | turn id heeds => exact absurd rfl (user id heeds)
  | request id? method params =>
    have same : LeavesByUser (.request id? method params) w.client
        (w.client.request id? method params).1 := by
      unfold Client.request
      split <;> exact ⟨rfl, fun _ => rfl, fun _ => rfl, fun _ => rfl, rfl⟩
    dsimp only
    split
    · split
      · next done =>
        rw [done] at same
        exact same
      · next done =>
        rw [done] at same
        exact same
    · exact ⟨rfl, fun _ => rfl, fun _ => rfl, fun _ => rfl, rfl⟩
  | notify method params =>
    dsimp only
    unfold Client.notify
    split
    · split <;> exact ⟨rfl, fun _ => rfl, fun _ => rfl, fun _ => rfl, rfl⟩
    · exact ⟨rfl, fun _ => rfl, fun _ => rfl, fun _ => rfl, rfl⟩
  | cancel id =>
    dsimp only
    unfold Client.cancel
    split
    · split <;> exact ⟨rfl, fun _ => rfl, fun _ => rfl, fun _ => rfl, rfl⟩
    · exact ⟨rfl, fun _ => rfl, fun _ => rfl, fun _ => rfl, rfl⟩
  | cancelRequest id =>
    dsimp only
    unfold Client.cancelRequest
    split
    · split <;> exact ⟨rfl, fun _ => rfl, fun _ => rfl, fun _ => rfl, rfl⟩
    · exact ⟨rfl, fun _ => rfl, fun _ => rfl, fun _ => rfl, rfl⟩
  | connect | call | shutDown | forward | route | await | dropRequest =>
    dsimp only
    split <;> exact ⟨rfl, fun _ => rfl, fun _ => rfl, fun _ => rfl, rfl⟩
  | serve loopback =>
    dsimp only
    split
    · exact ⟨rfl, fun _ => rfl, fun _ => rfl, fun other => absurd rfl (other loopback), rfl⟩
    · exact ⟨rfl, fun _ => rfl, fun _ => rfl, fun _ => rfl, rfl⟩
  | dropHandle =>
    show LeavesByUser .dropHandle w.client (Client.reap _)
    unfold Client.reap Client.cancelReader
    dsimp only
    split
    · exact ⟨rfl, fun other => absurd rfl other, fun _ => rfl, fun _ => rfl, rfl⟩
    · split <;> exact ⟨rfl, fun other => absurd rfl other, fun _ => rfl, fun _ => rfl, rfl⟩
  | abort id =>
    dsimp only
    unfold Client.abortJob
    split
    · split <;> exact ⟨rfl, fun _ => rfl, fun _ => rfl, fun _ => rfl, rfl⟩
    · exact ⟨rfl, fun _ => rfl, fun _ => rfl, fun _ => rfl, rfl⟩
  | type console =>
    exact ⟨rfl, fun _ => rfl, fun other => absurd rfl (other console), fun _ => rfl, rfl⟩
  | wait => exact ⟨rfl, fun _ => rfl, fun _ => rfl, fun _ => rfl, rfl⟩

/-- Time passes only if somebody waits, and then in any case. -/
theorem clock_perform (room : w.client.session.correlator.size ≤ mostCalls)
    (o : w.client.outline.Orderly) (event : Event) :
    (w.perform event).client.clock = w.client.clock + event.millis := by
  by_cases turn : ∃ id heeds, event = .turn id heeds
  · obtain ⟨id, heeds, rfl⟩ := turn
    cases acts : w.acting? (.turn id heeds) with
    | none =>
      rw [perform_of_idle acts]
      rfl
    | some job =>
      have touches := touches_perform o (.turn id heeds)
      unfold actor? at touches
      rw [acts] at touches
      exact touches.clock
  · have leaves := occur_of_user (w := w) fun id heeds same => turn ⟨id, heeds, same⟩
    cases fits : w.hasRoom event with
    | true =>
      rw [perform_of_room fits]
      exact leaves.clock
    | false =>
      -- there is always room for time to pass
      rw [perform_of_no_room fits]
      cases event with
      | wait millis => exact absurd room (of_decide_eq_false fits)
      | turn id heeds => exact absurd ⟨id, heeds, rfl⟩ turn
      | _ => rfl

end World

end LspClient
