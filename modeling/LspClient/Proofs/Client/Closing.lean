import LspClient.Proofs.Client.Outbound
import LspClient.Proofs.Client.Shut

/-!
# Nothing is left hanging

`World.nothing_left_hanging` says what holds of a session that is closed, in every run and
whatever happens at the same time. It stays closed, and nothing comes to life in it any
more (`Session.Shuts`): the session is closed before its calls fail, but already then no
call can slip in. Whoever has closed it fails the calls at his very next turn, and there is
nothing that could keep him from it; afterwards no call is outstanding. A connection that
comes too late is turned away, and to close once more is to do nothing.
-/

namespace LspClient

/-- Whether a job has closed the session and still has to fail the calls. -/
def Activity.isDraining : Activity → Bool
  | .lose _ _ .draining | .search _ (.draining _) | .shutDown (.draining _) => true
  | _ => false

/-- Whether a job is about to close the session. -/
def Activity.isClosing : Activity → Bool
  | .lose _ _ .closing | .search _ (.closing _) | .shutDown .closing => true
  | _ => false

theorem Activity.isDraining_cases {a : Activity} (h : a.isDraining = true) :
    (∃ generation outbox?, a = .lose generation outbox? .draining) ∨
      (∃ why error, a = .search why (.draining error)) ∨
      ∃ writer?, a = .shutDown (.draining writer?) := by
  cases a with
  | lose generation outbox? stage =>
    cases stage with
    | draining => exact .inl ⟨generation, outbox?, rfl⟩
    | _ => cases h
  | search why stage =>
    cases stage with
    | draining error => exact .inr (.inl ⟨why, error, rfl⟩)
    | _ => cases h
  | shutDown stage =>
    cases stage with
    | draining writer? => exact .inr (.inr ⟨writer?, rfl⟩)
    | _ => cases h
  | _ => cases h

/-- The connection depends on whoever drains, and nobody can cancel him. -/
theorem Activity.fixed_of_isDraining {a : Activity} (h : a.isDraining = true) :
    a.isAside = false ∧ a.isCancellable = false := by
  rcases isDraining_cases h with ⟨_, _, rfl⟩ | ⟨why, _, rfl⟩ | ⟨_, rfl⟩
  · exact ⟨rfl, rfl⟩
  · cases why <;> exact ⟨rfl, rfl⟩
  · exact ⟨rfl, rfl⟩

namespace Outline

variable {k k' : Outline} {id : JobId} {a b : Activity} {event : Event}

/-! ## Who closes it -/

theorem Closes.isDraining (h : Closes a b) : b.isDraining = true := by
  cases h <;> rfl

/-- Only the first half of closing closes the session, and its job goes on with the second. -/
theorem Shift.closes (h : k.Shift id a k') (live : (id, a) ∈ k.jobs)
    (before : k.session.lifecycle ≠ .closed) (after : k'.session.lifecycle = .closed) :
    ∃ b, b.isDraining = true ∧ (id, b) ∈ k'.jobs := by
  have unmanned (s : Session) (outbox? : Option Nat) :
      (s.unman outbox?).lifecycle = s.lifecycle := by
    rw [Session.unman_eq]
  cases h with
  | close closes => exact ⟨_, closes.isDraining, mem_put.mpr (.inr ⟨rfl, a, live⟩)⟩
  -- all others keep the lifecycle or lead to another one
  | move | take | drain | enter | queue | «open» | accept | giveUpPlace =>
    exact absurd after before
  | desert | recover | drainLoss => exact absurd ((unmanned ..).symm.trans after) before
  | degrade lost =>
    obtain ⟨-, -, rfl⟩ := Session.reportLoss?_eq_some_iff.mp lost
    cases after
  | install done =>
    obtain ⟨-, rfl⟩ := Session.install_eq_ok_iff.mp done
    cases after
  | report | leave | giveUpGate =>
    have same : k.openGate.session.lifecycle = k.session.lifecycle := by rw [session_openGate]
    exact absurd (same.symm.trans after) before

theorem Follows.closes (h : k.Follows event k') (o : k.Orderly)
    (before : k.session.lifecycle ≠ .closed) (after : k'.session.lifecycle = .closed) :
    ∃ id heeds b, event = .turn id heeds ∧ b.isDraining = true ∧ (id, b) ∈ k'.jobs := by
  rcases h with stirs | ⟨id, heeds, a, m, rfl, live, shift, stirs⟩
  · exact absurd (stirs.same_state.1.symm.trans after) before
  · obtain ⟨b, drains, live'⟩ :=
      shift.closes live before (stirs.same_state.1.symm.trans after)
    exact ⟨id, heeds, b, rfl, drains,
      stirs.mem_of_live (o.shift shift) live' (Activity.fixed_of_isDraining drains).1⟩

end Outline

open Outline

namespace Client

variable {c : Client} {id : JobId} {a : Activity}

/-! ## The turns that count -/

theorem isReady_of_isDraining (c : Client) {job : Job} (h : job.activity.isDraining = true) :
    c.isReady job = true := by
  unfold isReady
  rcases Activity.isDraining_cases h with ⟨_, _, same⟩ | ⟨_, _, same⟩ | ⟨_, same⟩ <;>
    rw [same] <;> exact Bool.or_true _

theorem isReady_of_isClosing (c : Client) {job : Job} (h : job.activity.isClosing = true) :
    c.isReady job = true := by
  obtain ⟨id, a, isCancelled, isQueued⟩ := job
  cases a with
  | lose => exact Bool.or_true _
  | search why stage =>
    cases stage with
    | closing => exact Bool.or_true _
    | _ => cases h
  | shutDown stage =>
    cases stage with
    | closing => exact Bool.or_true _
    | _ => cases h
  | _ => cases h

/-- Whoever drains fails all calls at his turn; all else are small changes. -/
theorem drains_takeTurn (o : c.outline.Orderly) (live : (id, a) ∈ c.outline.jobs)
    (drains : a.isDraining = true) (heeds : Bool) :
    ∃ m : Outline, m.session.correlator = c.session.correlator.drain ∧
      m.session.lifecycle = c.session.lifecycle ∧
      Stirs m (c.takeTurn id heeds).outline := by
  have turn := takeTurn_eq o live (Activity.fixed_of_isDraining drains).2 heeds fun job same =>
    isReady_of_isDraining c (by rw [same]; exact drains)
  rw [turn]
  rcases Activity.isDraining_cases drains with
    ⟨generation, outbox?, rfl⟩ | ⟨why, error, rfl⟩ | ⟨writer?, rfl⟩
  · refine ⟨_, ?_, ?_, stirs_endLoss { c with session := c.session.drain } id outbox?⟩
    · show (c.session.drain.unman outbox?).correlator = _
      rw [Session.unman_eq]
      rfl
    · show (c.session.drain.unman outbox?).lifecycle = _
      rw [Session.unman_eq]
      rfl
  · exact ⟨_, rfl, rfl, .refl⟩
  · exact ⟨_, rfl, rfl, .refl⟩

/-! ## To close once more -/

/-- A second shutdown ends at once. -/
theorem takeTurn_shutDown (closed : c.session.lifecycle = .closed) {job : Job}
    (found : c.job? job.id = some job) (activity : job.activity = .shutDown .closing)
    (heeds : Bool) :
    c.takeTurn job.id heeds = reap { c with
      jobs := c.jobs.filter (·.id != job.id)
      report := { c.report with
        finished := c.report.finished ++
          if job.isCancelled && heeds then [] else [(job.id, .shutDown)] } } := by
  obtain ⟨id, a, isCancelled, isQueued⟩ := job
  dsimp only at found activity ⊢
  subst activity
  unfold takeTurn turning?
  rw [found, Option.map_some]
  have ready (heeded : Bool) :
      c.isReady ⟨id, .shutDown .closing, heeded, isQueued⟩ = true := Bool.or_true _
  dsimp only
  rw [if_pos (ready _)]
  show (if (isCancelled && heeds && true) = true then c.finish id
    else c.stepShutdown id .closing) = _
  rw [Bool.and_true]
  split
  · rw [List.append_nil]
    rfl
  · unfold stepShutdown
    rw [close?_of_closed closed]
    rfl

/-- Whoever is about to close a session that is closed leaves it as it is; a writer leaves
its outbox behind. -/
theorem session_takeTurn (o : c.outline.Orderly) (closed : c.session.lifecycle = .closed)
    {job : Job} (h : job ∈ c.jobs) (activity : job.activity = a) (closes : a.isClosing = true)
    (heeds : Bool) :
    let rest := c.session.unman a.outbox?
    (c.takeTurn job.id heeds).session = rest ∨
      (c.isHeld = false ∧ (c.takeTurn job.id heeds).session = rest.drop) := by
  intro rest
  have found := job?_eq_some o h
  have live := mem_outline h
  rw [activity] at live
  have ready (job : Job) (same : job.activity = a) : c.isReady job = true :=
    isReady_of_isClosing c (by rw [same]; exact closes)
  cases a with
  | lose generation outbox? stage =>
    cases stage with
    | closing =>
      rw [takeTurn_eq o live rfl heeds ready]
      show (c.stepLoss job.id generation outbox? .closing).session = _ ∨
        (_ ∧ (c.stepLoss job.id generation outbox? .closing).session = _)
      unfold stepLoss
      dsimp only
      rw [close?_of_closed closed]
      exact session_reap _
    | _ => cases closes
  | search why stage =>
    cases stage with
    | closing error =>
      rw [takeTurn_eq o live (by cases why <;> rfl) heeds ready]
      refine .inl ?_
      show (c.stepSearch job.id why (.closing error)).session = _
      unfold stepSearch
      dsimp only
      rw [close?_of_closed closed]
      rfl
    | _ => cases closes
  | shutDown stage =>
    cases stage with
    | closing =>
      rw [takeTurn_shutDown closed found activity heeds]
      exact session_reap _
    | _ => cases closes
  | _ => cases closes

end Client

namespace World

variable {settings : Settings} {medium : Medium} {w : World} {id : JobId} {a : Activity}

/-! ## The close -/

/-- Once whoever has closed the session has taken the next turn, no call is outstanding any
more, and those that were have failed. -/
theorem drained (reached : Outline.Reachable settings medium w.client.outline)
    (room : w.client.session.correlator.size ≤ mostCalls)
    (closed : w.client.session.lifecycle = .closed) (live : (id, a) ∈ w.client.outline.jobs)
    (drains : a.isDraining = true) (heeds : Bool) (later : List Event) :
    let after := ((w.perform (.turn id heeds)).performAll later).client.session.correlator
    after.pending = [] ∧ ∀ call ∈ w.client.session.correlator.pending,
      after.delivery call.serial = .fulfilled (.error .connectionClosed) := by
  intro after
  obtain ⟨m, calls, lifecycle, stirs⟩ :=
    Client.drains_takeTurn reached.orderly live drains heeds
  have shut : m.session.Shuts ((w.perform (.turn id heeds)).performAll later).client.session := by
    rw [perform_of_closed room closed]
    have first := stirs.shuts (lifecycle.trans closed)
    exact first.trans
      (shuts_performAll (w := w.occur (.turn id heeds)) first.lifecycle later)
  have empty : m.session.correlator.pending = [] := by
    rw [calls, Correlator.pending_drain]
  -- a closed session registers no call, so the table stays empty and nothing is settled anew
  constructor
  · have few := shut.pending
    rw [empty] at few
    exact List.sublist_nil.mp few
  · intro call member
    have settled := shut.settled call.serial fun other hother => by
      rw [empty] at hother
      cases hother
    rw [calls] at settled
    exact settled.trans (reached.wellFormed.delivery_drain member)

/-- What holds of every state that a run can come to, as far as the close is concerned. -/
structure Settles (w : World) : Prop where
  /-- A closed session stays closed, and from then on no call is registered, no frame is put
  into an outbox and no connection is installed. -/
  shuts : w.client.session.lifecycle = .closed → w.client.session.outbox? = none ∧
    ∀ later, w.client.session.Shuts (w.performAll later).client.session
  /-- Whoever closes the session has to fail its calls, and stays there until his next turn,
  whatever happens in between. At that turn all calls fail that are outstanding, and none
  is outstanding ever after. -/
  drains : w.client.session.lifecycle ≠ .closed → ∀ event,
    (w.perform event).client.session.lifecycle = .closed →
    ∃ id heeds, event = .turn id heeds ∧
      ∀ between : List Event, (∀ other ∈ between, other.isTurn id = false) →
        let before := (w.perform event).performAll between
        (∃ job ∈ before.client.jobs, job.id = id ∧ job.activity.isDraining = true) ∧
        ∀ heeds later,
          let after := ((before.perform (.turn id heeds)).performAll later).client.session
          after.correlator.pending = [] ∧
          ∀ call ∈ before.client.session.correlator.pending,
            after.correlator.delivery call.serial = .fulfilled (.error .connectionClosed)
  /-- A search whose connection comes after the close is told at its next turn that the
  session is closed. Three turns later at the latest it has ended, and if it was a first
  one, its result is that error. -/
  refuses : w.client.session.lifecycle = .closed → ∀ job ∈ w.client.jobs,
    ∀ why attempt peer, job.activity = .search why (.installing attempt peer) →
    (∀ heeds, ∃ other ∈ (w.perform (.turn job.id heeds)).client.jobs, other.id = job.id ∧
      other.activity = .search why (why.afterFailure (.invalidState .closed))) ∧
    ∀ later, 3 ≤ later.countP (·.isTurn job.id) →
      (∀ other ∈ (w.performAll later).client.jobs, other.id ≠ job.id) ∧
      (why = .first → (job.id, .connected (.error (.invalidState .closed))) ∈
        (w.performAll later).client.report.finished)
  /-- To close once more is to do nothing: of the session only the outbox of a writer
  changes that ends now, unless its job was the last to hold the session. -/
  again : w.client.session.lifecycle = .closed → w.client.close? = none ∧
    ∀ job ∈ w.client.jobs, job.activity.isClosing = true → ∀ heeds,
      let before := w.client.session.unman job.activity.outbox?
      let after := (w.perform (.turn job.id heeds)).client.session
      after = before ∨ (w.client.isHeld = false ∧ after = before.drop)
  /-- A second shutdown ends at its next turn and changes nothing else. -/
  shutDown : w.client.session.lifecycle = .closed →
    ∀ job ∈ w.client.jobs, job.activity = .shutDown .closing → ∀ heeds,
      (w.perform (.turn job.id heeds)).client = Client.reap { w.client with
        jobs := w.client.jobs.filter (·.id != job.id)
        report := { w.client.report with
          finished := w.client.report.finished ++
            if job.isCancelled && heeds then [] else [(job.id, .shutDown)] } }

theorem settles_of_reachable (reached : Outline.Reachable settings medium w.client.outline)
    (room : w.client.session.correlator.size ≤ mostCalls) : w.Settles where
  shuts closed := by
    refine ⟨?_, shuts_performAll closed⟩
    -- only a ready session has a current outbox
    by_contra linked
    obtain ⟨outbox, current⟩ := Option.ne_none_iff_exists'.mp linked
    have ready := (reached.staffed.linked.current outbox current).1
    rw [show w.client.outline.session.lifecycle = .closed from closed] at ready
    cases ready
  drains before event after := by
    obtain ⟨id, heeds, a, rfl, drains, live⟩ :=
      (follows_perform w event).closes reached.orderly before after
    refine ⟨id, heeds, rfl, fun between waits => ?_⟩
    have reached' := Outline.reachable_perform reached (.turn id heeds)
    have live' := mem_performAll reached' live (Activity.fixed_of_isDraining drains).1 waits
    have shut := shuts_performAll after between
    obtain ⟨job, hjob, ids, activity⟩ := Client.exists_job live'
    refine ⟨⟨job, hjob, ids, by rw [activity]; exact drains⟩, ?_⟩
    refine drained (Outline.reachable_performAll reached' between) ?_ shut.lifecycle live' drains
    exact Nat.le_trans shut.pending.length_le (room_perform room _)
  refuses closed job hjob why attempt peer activity := by
    have live := Client.mem_outline hjob
    rw [activity] at live
    constructor
    · intro heeds
      have turn := Client.takeTurn_eq reached.orderly live
        (SearchStage.IsLate.installing.fixed why) heeds
        fun job same => Client.isReady_of_isLate w.client .installing same
      have refused : (job.id, .search why (why.afterFailure (.invalidState .closed))) ∈
          (w.client.takeTurn job.id heeds).outline.jobs := by
        rw [turn]
        show _ ∈ (w.client.stepSearch job.id why (.installing attempt peer)).outline.jobs
        rw [Client.outline_stepSearch_of_closed closed]
        exact Outline.mem_put.mpr (.inr ⟨rfl, _, live⟩)
      rw [perform_of_closed room closed]
      exact Client.exists_job refused
    · intro later enough
      have start : w.client.outline.TurnedAway job.id why 0 :=
        .inr ⟨_, 3, .installing, live, Nat.le_refl _⟩
      have turned := turnedAway_performAll reached room closed start later
      rw [Nat.zero_add] at turned
      obtain ⟨ended, noted⟩ := turned.ended enough
      exact ⟨fun other hother => ended.gone _ (Client.mem_outline hother), noted⟩
  again closed := by
    refine ⟨Client.close?_of_closed closed, fun job hjob closes heeds => ?_⟩
    rw [perform_of_closed room closed]
    exact Client.session_takeTurn reached.orderly closed hjob rfl closes heeds
  shutDown closed job hjob activity heeds := by
    rw [perform_of_closed room closed]
    exact Client.takeTurn_shutDown closed (Client.job?_eq_some reached.orderly hjob) activity
      heeds

/-- **Nothing is left hanging once the session is closed.** In every run the session stays
closed, no call, frame or connection is added to it, and its calls fail as soon as whoever
has closed it takes his next turn; a connection that comes too late is refused, and to
close once more changes nothing. -/
theorem nothing_left_hanging (settings : Settings) (medium : Medium) (events : List Event) :
    (run settings medium events).Settles :=
  settles_of_reachable (Outline.reachable_run settings medium events)
    (size_le_mostCalls settings medium events)

/-- Right after a shutdown has closed the session its call is outstanding still. -/
example :
    let s := (run {} .messages (firstConnection ++
      [.request none "shutdown" none, .shutDown, .turn 4 false])).client.session
    s.lifecycle = .closed ∧ s.correlator.size = 1 := by decide

end World

end LspClient
