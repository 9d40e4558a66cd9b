import LspClient.Proofs.Client.Outline
import LspClient.Proofs.Session.Link

/-!
# How an outline changes

Everything that can happen to an outline is said here once, and whatever is kept or never
happens is proved from this alone.

A `Stir` is a small change that has nothing to do with the connection: a call is registered
or answered, a job that is not concerned with the connection starts, goes on or ends, a
handle is dropped. A `Shift` is one step of a job that is concerned with it: a writer, a
job that has lost its connection, a search or a shutdown. Most of them are a `Move`, which
changes nothing but the point that the job is at.
-/

namespace LspClient

/-- Whether the connection does not depend on the job: it only reads, or has to do with
calls, or it is a shutdown that has not begun to close or has nothing left to drain. -/
def Activity.isAside : Activity → Bool
  | .read .. | .reply .. | .expire .. | .call .. | .await .. | .forward .. => true
  | .shutDown .closing | .shutDown (.flushing ..) => true
  | .write .. | .lose .. | .search .. | .shutDown (.draining _) => false

/-- The point before an attempt: its delay, or the check of the state. -/
def SearchStage.IsBefore (attempt : Nat) : SearchStage → Prop
  | .backingOff n _ | .checking n => n = attempt
  | _ => False

/-- Where a search goes on that has failed: a first search closes the session in any case,
a later one leaves it alone if somebody else has changed its state. -/
def Search.afterFailure : Search → SessionError → SearchStage
  | .first, error => .closing error
  | .again, .invalidState state => .leaving (some (.invalidState state))
  | .again, .connectFailed attempts last => .closing (.connectFailed attempts last)

/-- The result of a first search. -/
def Search.result : Option SessionError → Except SessionError Unit
  | some error => .error error
  | none => .ok ()

namespace Outline

/-! ## Small changes -/

/-- One small change that leaves the connection alone. -/
inductive Stir (k : Outline) : Outline → Prop
  | session {s : Session} (quiet : k.session.Quiet s) : Stir k (k.withSession s)
  | start {a : Activity} (aside : a.isAside = true)
      (kept : a.holdsSession = true → k.isHeld = true) : Stir k (k.add a)
  | connect (held : k.isHeld = true) : Stir k (k.add (.search .first .arriving))
  | move {id : JobId} {a b : Activity} (live : (id, a) ∈ k.jobs) (aside : a.isAside = true)
      (next : b.isAside = true) (kept : b.holdsSession = true → a.holdsSession = true) :
      Stir k (k.put id b)
  | leave {id : JobId} {a : Activity} (live : (id, a) ∈ k.jobs) (aside : a.isAside = true) :
      Stir k (k.erase id)
  | note (id : JobId) (result : JobResult) : Stir k (k.note id result)
  /-- The server accepts connections that nobody has asked for. -/
  | serve {peers : Nat} (more : k.peers ≤ peers) : Stir k { k with peers }
  | letGo : Stir k { k with isHeld := false }
  | drop (alone : ¬ k.IsKept) : Stir k (k.withSession k.session.drop)

/-- Any number of small changes. -/
abbrev Stirs : Outline → Outline → Prop := Relation.ReflTransGen Stir

theorem stirs_session {k : Outline} {s : Session} (h : k.session.Quiets s) :
    Stirs k (k.withSession s) := by
  induction h with
  | refl => exact .refl
  | tail _ quiet ih => exact ih.tail (.session quiet)

/-! ## Steps of the jobs that the connection depends on -/

/-- The steps that change nothing but the point that the job is at. -/
inductive Move (k : Outline) (id : JobId) : Activity → Activity → Prop
  | unheard {peer generation : Nat} (alive : k.session.isDropped = false) :
      Move k id (.read peer generation) (.lose generation none .reporting)
  | unsent {peer generation outbox : Nat} {left : Bytes} (alive : k.session.isDropped = false) :
      Move k id (.write peer generation outbox (.writing left))
        (.lose generation (some outbox) .reporting)
  | written {peer generation outbox : Nat} {left : Bytes} {stage : WriteStage}
      (goesOn : stage ≠ .closing) :
      Move k id (.write peer generation outbox (.writing left))
        (.write peer generation outbox stage)
  | exhausted {peer generation outbox : Nat} {box : Outbox}
      (found : k.session.outboxes[outbox]? = some box) (done : box.isSealed = true) :
      Move k id (.write peer generation outbox .idle) (.write peer generation outbox .closing)
  | disabled {generation : Nat} {outbox? : Option Nat}
      (none : k.session.settings.maxReconnectAttempts = 0) :
      Move k id (.lose generation outbox? .deciding) (.lose generation outbox? .closing)
  | passed {why : Search} {stage : SearchStage} (holder : k.gateHolder? = some id)
      (expected : k.session.lifecycle = why.state) (before : stage.IsBefore 1) :
      Move k id (.search why .atGate) (.search why stage)
  | untried {why : Search} (holder : k.gateHolder? = some id)
      (expected : k.session.lifecycle = why.state) (error : SessionError)
      (none : why.attempts k.session.settings = 0) :
      Move k id (.search why .atGate) (.search why (.closing error))
  | refused {why : Search} (holder : k.gateHolder? = some id)
      (other : k.session.lifecycle ≠ why.state) :
      Move k id (.search why .atGate)
        (.search why (.leaving (some (.invalidState k.session.lifecycle))))
  | woken {why : Search} {attempt until_ : Nat} :
      Move k id (.search why (.backingOff attempt until_)) (.search why (.checking attempt))
  | checked {why : Search} {attempt : Nat} (expected : k.session.lifecycle = why.state) :
      Move k id (.search why (.checking attempt)) (.search why (.starting attempt))
  | outdated {why : Search} {attempt : Nat} (other : k.session.lifecycle ≠ why.state) :
      Move k id (.search why (.checking attempt))
        (.search why (why.afterFailure (.invalidState k.session.lifecycle)))
  | retried {why : Search} {attempt number deadline : Nat} {resume? : Option Nat}
      {stage : SearchStage} (more : attempt < why.attempts k.session.settings)
      (before : stage.IsBefore (attempt + 1)) :
      Move k id (.search why (.opening attempt number deadline resume?)) (.search why stage)
  | failed {why : Search} {attempt number deadline : Nat} {resume? : Option Nat}
      (error : SessionError) (last : why.attempts k.session.settings ≤ attempt) :
      Move k id (.search why (.opening attempt number deadline resume?))
        (.search why (.closing error))
  | declined {why : Search} {attempt peer : Nat} (other : k.session.lifecycle ≠ why.state) :
      Move k id (.search why (.installing attempt peer))
        (.search why (why.afterFailure (.invalidState k.session.lifecycle)))
  | late {why : Search} {error : SessionError} (closed : k.session.lifecycle = .closed) :
      Move k id (.search why (.closing error)) (.search why (.leaving (some error)))

/-- The steps at which a reader or a writer ends and does nothing else; a writer leaves its
outbox behind. -/
inductive Deserts (k : Outline) : Activity → Option Nat → Prop
  | unknown {peer generation outbox : Nat} (absent : k.session.outboxes[outbox]? = none) :
      Deserts k (.write peer generation outbox .idle) none
  | unconnected {peer generation outbox : Nat} {left : Bytes} (absent : k.peers ≤ peer) :
      Deserts k (.write peer generation outbox (.writing left)) (some outbox)
  | unneeded {peer generation outbox : Nat} {left : Bytes}
      (dropped : k.session.isDropped = true) :
      Deserts k (.write peer generation outbox (.writing left)) (some outbox)
  | finished {peer generation outbox : Nat} :
      Deserts k (.write peer generation outbox .closing) (some outbox)
  | ignored {generation : Nat} {outbox? : Option Nat}
      (stale : k.session.reportLoss? generation = none) :
      Deserts k (.lose generation outbox? .reporting) outbox?
  | late {generation : Nat} {outbox? : Option Nat} (closed : k.session.lifecycle = .closed) :
      Deserts k (.lose generation outbox? .closing) outbox?

/-- Who can do the first half of closing, and where it goes on with the second half. -/
inductive Closes : Activity → Activity → Prop
  | loss {generation : Nat} {outbox? : Option Nat} :
      Closes (.lose generation outbox? .closing) (.lose generation outbox? .draining)
  | search {why : Search} {error : SessionError} :
      Closes (.search why (.closing error)) (.search why (.draining error))
  | shutdown {writer? : Option JobId} :
      Closes (.shutDown .closing) (.shutDown (.draining writer?))

/-- Who goes on after the second half of closing, and where. -/
inductive Drains : Activity → Activity → Prop
  | search {why : Search} {error : SessionError} :
      Drains (.search why (.draining error)) (.search why (.leaving (some error)))
  | shutdown {writer? : Option JobId} {deadline : Nat} :
      Drains (.shutDown (.draining writer?)) (.shutDown (.flushing writer? deadline))

/-- One step of a job that the connection depends on. -/
inductive Shift (k : Outline) (id : JobId) : Activity → Outline → Prop
  | move {a b : Activity} (step : k.Move id a b) : Shift k id a (k.put id b)
  | desert {a : Activity} {outbox? : Option Nat} (deserts : k.Deserts a outbox?) :
      Shift k id a ((k.withSession (k.session.unman outbox?)).erase id)
  | take {peer generation outbox : Nat} {box : Outbox} {command : WriterCommand}
      {rest : List WriterCommand} {stage : WriteStage}
      (found : k.session.outboxes[outbox]? = some box) (head : box.commands = command :: rest)
      (stops : stage = .closing → command = .stop) :
      Shift k id (.write peer generation outbox .idle)
        ((k.withSession
          (k.session.modifyOutbox outbox fun o => { o with commands := rest })).put id
            (.write peer generation outbox stage))
  | degrade {generation : Nat} {outbox? : Option Nat} {s : Session}
      (lost : k.session.reportLoss? generation = some s) :
      Shift k id (.lose generation outbox? .reporting)
        ((k.withSession s).put id (.lose generation outbox? .deciding))
  | recover {generation : Nat} {outbox? : Option Nat}
      (some : k.session.settings.maxReconnectAttempts ≠ 0) :
      Shift k id (.lose generation outbox? .deciding)
        (((k.add (.search .again .arriving)).withSession (k.session.unman outbox?)).erase id)
  | close {a b : Activity} {s : Session} (closes : Closes a b)
      (closed : k.session.close? = some s) : Shift k id a ((k.withSession s).put id b)
  | drain {a b : Activity} (drains : Drains a b) :
      Shift k id a ((k.withSession k.session.drain).put id b)
  | drainLoss {generation : Nat} {outbox? : Option Nat} :
      Shift k id (.lose generation outbox? .draining)
        ((k.withSession (k.session.drain.unman outbox?)).erase id)
  | enter {why : Search} (free : k.gateHolder? = none) :
      Shift k id (.search why .arriving)
        ({ k with gateHolder? := some id }.put id (.search why .atGate))
  | queue {why : Search} {holder : JobId} (taken : k.gateHolder? = some holder) :
      Shift k id (.search why .arriving)
        ({ k with gateQueue := k.gateQueue ++ [id] }.put id (.search why .atGate))
  | open {why : Search} {attempt deadline : Nat} {resume? : Option Nat} :
      Shift k id (.search why (.starting attempt))
        ({ k with attempts := k.attempts + 1 }.put id
          (.search why (.opening attempt (k.attempts + 1) deadline resume?)))
  | accept {why : Search} {attempt number deadline : Nat} {resume? : Option Nat} :
      Shift k id (.search why (.opening attempt number deadline resume?))
        ({ k with peers := k.peers + 1 }.put id (.search why (.installing attempt k.peers)))
  | install {why : Search} {attempt peer : Nat} {s : Session}
      (done : k.session.install why.state k.nextJob (k.nextJob + 1) = .ok s) :
      Shift k id (.search why (.installing attempt peer))
        ((((k.withSession s).add (.read peer s.generation)).add
            (.write peer s.generation k.session.outboxes.length .idle)).put id
          (.search why (.leaving none)))
  | report {error? : Option SessionError} :
      Shift k id (.search .first (.leaving error?))
        ((k.openGate.note id (.connected (Search.result error?))).erase id)
  | leave {error? : Option SessionError} :
      Shift k id (.search .again (.leaving error?)) (k.openGate.erase id)
  | giveUpGate {stage : SearchStage} (waits : stage.isWaiting = true)
      (holder : k.gateHolder? = some id) :
      Shift k id (.search .first stage) (k.openGate.erase id)
  | giveUpPlace {stage : SearchStage} (waits : stage.isWaiting = true)
      (other : k.gateHolder? ≠ some id) :
      Shift k id (.search .first stage)
        ({ k with gateQueue := k.gateQueue.filter (· != id) }.erase id)

/-! ## What becomes of the session -/

variable {k k' : Outline} {id : JobId} {a : Activity}

@[simp] theorem jobs_openGate (k : Outline) : k.openGate.jobs = k.jobs := by
  unfold openGate
  split <;> rfl

theorem jobs_erase_openGate (k : Outline) (id : JobId) :
    (k.openGate.erase id).jobs = (k.erase id).jobs := by
  unfold erase
  rw [jobs_openGate]

@[simp] theorem nextJob_openGate (k : Outline) : k.openGate.nextJob = k.nextJob := by
  unfold openGate
  split <;> rfl

@[simp] theorem session_openGate (k : Outline) : k.openGate.session = k.session := by
  unfold openGate
  split <;> rfl

@[simp] theorem peers_openGate (k : Outline) : k.openGate.peers = k.peers := by
  unfold openGate
  split <;> rfl

theorem Shift.relinks (h : k.Shift id a k') : k.session.Relinks k'.session := by
  cases h with
  | move | enter | queue | «open» | accept | giveUpPlace => exact .unmanned none
  | @desert _ outbox? | @recover _ outbox? => exact .unmanned outbox?
  | take found head => exact .taken found head
  | degrade lost => exact .lost lost
  | close _ closed => exact .closed closed
  | drain => exact .drained none
  | @drainLoss _ outbox? => exact .drained outbox?
  | install done => exact .installed done
  | report | leave | giveUpGate =>
    show k.session.Relinks k.openGate.session
    rw [session_openGate]
    exact .unmanned none

/-- Small changes leave the session alone, change it quietly, or drop it. -/
theorem Stir.session_cases (h : k.Stir k') : k'.session = k.session ∨
    k.session.Quiet k'.session ∨ (¬ k.IsKept ∧ k'.session = k.session.drop) := by
  cases h with
  | start | connect | move | leave | note | serve | letGo => exact .inl rfl
  | session quiet => exact .inr (.inl quiet)
  | drop alone => exact .inr (.inr ⟨alone, rfl⟩)

/-! ## What becomes of the jobs -/

variable {j : JobId × Activity}

/-- A job that runs after a small change ran before, or the connection does not depend on
it, or it is a first search that has just begun. -/
theorem Stir.mem_cases (h : k.Stir k') (hj : j ∈ k'.jobs) :
    j ∈ k.jobs ∨ j.2.isAside = true ∨ j.2 = .search .first .arriving := by
  cases h with
  | session | note | serve | letGo | drop => exact .inl hj
  | start aside =>
    rcases mem_add.mp hj with old | rfl
    · exact .inl old
    · exact .inr (.inl aside)
  | connect =>
    rcases mem_add.mp hj with old | rfl
    · exact .inl old
    · exact .inr (.inr rfl)
  | move _ _ next =>
    rcases mem_put.mp hj with ⟨old, -⟩ | ⟨rfl, -⟩
    · exact .inl old
    · exact .inr (.inl next)
  | leave => exact .inl (mem_erase.mp hj).1

theorem Stirs.mem_of_other (h : k.Stirs k') (hj : j ∈ k'.jobs) (other : j.2.isAside = false)
    (begun : j.2 ≠ .search .first .arriving) : j ∈ k.jobs := by
  induction h with
  | refl => exact hj
  | tail _ last ih =>
    rcases last.mem_cases hj with old | aside | first
    · exact ih old
    · rw [other] at aside
      cases aside
    · exact absurd first begun

/-- Where a shift leads the job that takes the step. -/
inductive Yields (k k' : Outline) (id : JobId) : Activity → Activity → Prop
  | move {a b : Activity} (step : k.Move id a b) : Yields k k' id a b
  | take {peer generation outbox : Nat} {stage : WriteStage} :
      Yields k k' id (.write peer generation outbox .idle) (.write peer generation outbox stage)
  | degrade {generation : Nat} {outbox? : Option Nat}
      (lost : k.session.reportLoss? generation = some k'.session) :
      Yields k k' id (.lose generation outbox? .reporting) (.lose generation outbox? .deciding)
  | close {a b : Activity} (closes : Closes a b) : Yields k k' id a b
  | drain {a b : Activity} (drains : Drains a b) : Yields k k' id a b
  | arrive {why : Search} : Yields k k' id (.search why .arriving) (.search why .atGate)
  | open {why : Search} {attempt number deadline : Nat} {resume? : Option Nat} :
      Yields k k' id (.search why (.starting attempt))
        (.search why (.opening attempt number deadline resume?))
  | accept {why : Search} {attempt number deadline peer : Nat} {resume? : Option Nat} :
      Yields k k' id (.search why (.opening attempt number deadline resume?))
        (.search why (.installing attempt peer))
  | install {why : Search} {attempt peer : Nat} :
      Yields k k' id (.search why (.installing attempt peer)) (.search why (.leaving none))

/-- Which jobs a shift starts. -/
inductive Begins (k k' : Outline) : Activity → Activity → Prop
  | recover {generation : Nat} {outbox? : Option Nat}
      (some : k.session.settings.maxReconnectAttempts ≠ 0)
      (same : k'.session.lifecycle = k.session.lifecycle) :
      Begins k k' (.lose generation outbox? .deciding) (.search .again .arriving)
  | read {why : Search} {attempt peer generation : Nat} :
      Begins k k' (.search why (.installing attempt peer)) (.read peer generation)
  | write {why : Search} {attempt peer generation outbox : Nat} :
      Begins k k' (.search why (.installing attempt peer)) (.write peer generation outbox .idle)

/-- A job that runs after a shift ran before and did not take the step, or it did, or it was
started. -/
theorem Shift.mem_cases (h : k.Shift id a k') (hj : j ∈ k'.jobs) :
    (j ∈ k.jobs ∧ j.1 ≠ id) ∨ (j.1 = id ∧ Yields k k' id a j.2) ∨ Begins k k' a j.2 := by
  have put {b : Activity} (yields : Yields k k' id a b) (hj : j ∈ (k.put id b).jobs) :
      (j ∈ k.jobs ∧ j.1 ≠ id) ∨ (j.1 = id ∧ Yields k k' id a j.2) ∨ Begins k k' a j.2 := by
    rcases mem_put.mp hj with old | ⟨rfl, -⟩
    · exact .inl old
    · exact .inr (.inl ⟨rfl, yields⟩)
  cases h with
  | move step => exact put (.move step) hj
  | desert | drainLoss | giveUpPlace => exact .inl (mem_erase.mp hj)
  | take => exact put .take hj
  | degrade lost => exact put (.degrade lost) hj
  | @recover generation outbox? some =>
    obtain ⟨hj, other⟩ := mem_erase.mp hj
    rcases mem_add.mp hj with old | rfl
    · exact .inl ⟨old, other⟩
    · refine .inr (.inr (.recover some ?_))
      show (k.session.unman outbox?).lifecycle = _
      rw [Session.unman_eq]
  | close closes => exact put (.close closes) hj
  | drain drains => exact put (.drain drains) hj
  | enter | queue => exact put .arrive hj
  | «open» => exact put .open hj
  | accept => exact put .accept hj
  | install =>
    rcases mem_put.mp hj with ⟨hj, other⟩ | ⟨rfl, -⟩
    · rcases mem_add.mp hj with hj | rfl
      · rcases mem_add.mp hj with old | rfl
        · exact .inl ⟨old, other⟩
        · exact .inr (.inr .read)
      · exact .inr (.inr .write)
    · exact .inr (.inl ⟨rfl, .install⟩)
  | report | leave | giveUpGate =>
    have hj' := mem_erase.mp hj
    exact .inl ⟨by rw [← jobs_openGate k]; exact hj'.1, hj'.2⟩

end Outline

end LspClient
