import LspClient.Proofs.Client.Episode
import LspClient.Proofs.Client.Gate
import LspClient.Proofs.Client.Generation

/-!
# One loss, one recovery

`World.recovers` says of every run what becomes of a session that loses connections, in
whatever order and however often its readers and writers report it. `Recovers` is what
holds of each state: at most one attempt to connect is under way, a report that is out of
date does nothing, and as long as the session is degraded there is one job that will end
that. Over the run, each connection is lost at most once and looked for at most once, and
each time the session is degraded it makes no more attempts than the settings allow.

An attempt starts only after its search has found the session in the right state. Nothing
holds the session in it until the attempt has started, though, so that an attempt may start in
a session that was closed in between (`World.opens_after_close`).
-/

namespace LspClient

/-- Whether an attempt to connect is under way. -/
def Activity.isOpening : Activity → Bool
  | .search _ (.opening ..) => true
  | _ => false

/-- Such an attempt is made past the gate. -/
theorem Activity.search_of_isOpening {a : Activity} (h : a.isOpening = true) :
    ∃ why stage, a = .search why stage ∧ stage.isPastGate = true := by
  cases a with
  | search why stage =>
    cases stage with
    | opening => exact ⟨_, _, rfl, rfl⟩
    | _ => cases h
  | _ => cases h

/-- Nobody can cancel a job that has to end the degraded state. -/
theorem Activity.not_cancellable_of_owes {a : Activity} (h : a.owes = true) :
    a.isCancellable = false := by
  cases a with
  | lose => rfl
  | search why stage =>
    cases why with
    | first => cases h
    | again => rfl
  | _ => cases h

namespace Outline

variable {k k' : Outline} {id i : JobId} {a b : Activity}

theorem Move.not_isOpening (h : k.Move id a b) : b.isOpening = false := by
  cases h with
  | @passed _ stage _ _ before | @retried _ _ _ _ _ stage _ before =>
    cases stage with
    | opening => cases before
    | _ => rfl
  | @outdated why | @declined why => cases why <;> rfl
  | unheard | unsent | written | exhausted | disabled | untried | refused | woken | checked | failed
  | late => rfl

/-- An attempt is begun by a search that was about to start it. -/
theorem Follows.opening_cases {event : Event} (h : k.Follows event k')
    (hi : (i, b) ∈ k'.jobs) (opening : b.isOpening = true) :
    (i, b) ∈ k.jobs ∨ ∃ why attempt, (i, .search why (.starting attempt)) ∈ k.jobs := by
  have other : b.isAside = false := by
    cases b with
    | search => rfl
    | _ => cases opening
  have begun : b ≠ .search .first .arriving := by
    rintro rfl
    cases opening
  rcases h with stirs | ⟨id, heeds, a, m, -, live, shift, stirs⟩
  · exact .inl (stirs.mem_of_other hi other begun)
  · rcases shift.mem_cases (stirs.mem_of_other hi other begun) with
      ⟨old, -⟩ | ⟨rfl, yields⟩ | begins
    · exact .inl old
    · dsimp only at yields
      cases yields with
      | @«open» why attempt => exact .inr ⟨why, attempt, live⟩
      | move step =>
        rw [step.not_isOpening] at opening
        cases opening
      | close closes => cases closes <;> cases opening
      | drain drains => cases drains <;> cases opening
      | take | degrade | arrive | accept | install => cases opening
    · cases begins <;> cases opening

end Outline

namespace World

/-- What holds of every state that a run can come to, as far as connections are lost and
looked for. -/
structure Recovers (settings : Settings) (w : World) : Prop where
  /-- No two attempts to connect are under way. -/
  oneOpen : ∀ job ∈ w.client.jobs, ∀ other ∈ w.client.jobs, job.activity.isOpening = true →
    other.activity.isOpening = true → job = other
  /-- An event starts no more than one search for another connection. -/
  oneSearch : ∀ event, ∀ job ∈ (w.perform event).client.jobs,
    ∀ other ∈ (w.perform event).client.jobs, w.client.nextJob ≤ job.id →
    w.client.nextJob ≤ other.id → job.activity.isReconnect = true →
    other.activity.isReconnect = true → job = other
  /-- A report about another connection than the current one, or to a session that is
  degraded or closed, is ignored; the reader or writer that brings it ends, and nothing
  else changes, unless it was the last to hold the session. -/
  ignores : ∀ id generation outbox?, (generation ≠ w.client.session.generation ∨
      w.client.session.lifecycle = .degraded ∨ w.client.session.lifecycle = .closed) →
    w.client.session.reportLoss? generation = none ∧
      w.client.stepLoss id generation outbox? .reporting = Client.reap
        { w.client with
          session := w.client.session.unman outbox?
          jobs := w.client.jobs.filter (·.id != id) }
  /-- While the session is degraded, exactly one job has to end that, and nobody can cancel
  it: a search for another connection, or the job that has reported the loss and will start
  one, or that will close the session if no such search is allowed. -/
  obliged : w.client.session.lifecycle = .degraded → ∃ job ∈ w.client.jobs,
    job.activity.owes = true ∧ job.activity.isCancellable = false ∧
    (∀ other ∈ w.client.jobs, other.activity.owes = true → other = job) ∧
    if settings.maxReconnectAttempts = 0 then
      ∃ generation outbox?, job.activity = .lose generation outbox? .deciding ∨
        job.activity = .lose generation outbox? .closing
    else (∃ generation outbox?, job.activity = .lose generation outbox? .deciding) ∨
      ∃ stage, stage.isUndecided = true ∧ job.activity = .search .again stage
  /-- A search that waits at the gate waits for one that runs. -/
  passes : ∀ job ∈ w.client.jobs, ∀ why, job.activity = .search why .atGate →
    ∃ holder ∈ w.client.jobs, w.client.gateHolder? = some holder.id ∧
      holder.activity.isSearch = true
  /-- Until the session has a connection again, no more attempts begin than are allowed, even if
  it is closed in between. -/
  bounded : w.client.session.lifecycle = .degraded → ∀ later, w.FindsNone later →
    (w.performAll later).client.loopback.attempts ≤
      w.client.loopback.attempts + settings.maxReconnectAttempts.toNat
  /-- Only a new connection or the close can end that. -/
  ends : w.client.session.lifecycle = .degraded → ∀ event,
    (w.perform event).client.session.lifecycle = .degraded ∨
      (w.perform event).client.session.lifecycle = .ready ∨
      (w.perform event).client.session.lifecycle = .closed

variable {settings : Settings} {medium : Medium} {w : World}

/-- Who has to end the degraded state does what the settings permit. -/
theorem owes_cases {a : Activity} (owes : a.owes = true) (permitted : a.Permitted settings) :
    if settings.maxReconnectAttempts = 0 then
      ∃ generation outbox?, a = .lose generation outbox? .deciding ∨
        a = .lose generation outbox? .closing
    else (∃ generation outbox?, a = .lose generation outbox? .deciding) ∨
      ∃ stage, stage.isUndecided = true ∧ a = .search .again stage := by
  cases a with
  | lose generation outbox? stage =>
    cases stage with
    | deciding =>
      split
      · exact ⟨_, _, .inl rfl⟩
      · exact .inl ⟨_, _, rfl⟩
    | closing =>
      have none : settings.maxReconnectAttempts = 0 := permitted
      rw [if_pos none]
      exact ⟨_, _, .inr rfl⟩
    | reporting | draining => cases owes
  | search why stage =>
    cases why with
    | first => cases owes
    | again =>
      rw [if_neg (permitted.1 rfl)]
      exact .inr ⟨stage, owes, rfl⟩
  | _ => cases owes

theorem recovers_of_reachable (reached : Outline.Reachable settings medium w.client.outline) :
    w.Recovers settings where
  oneOpen job hjob other hother h h' := by
    obtain ⟨why, stage, activity, behind⟩ := Activity.search_of_isOpening h
    obtain ⟨why', stage', activity', behind'⟩ := Activity.search_of_isOpening h'
    have live := Client.mem_outline hjob
    have live' := Client.mem_outline hother
    rw [activity] at live
    rw [activity'] at live'
    exact Client.eq_of_id reached.orderly hjob hother
      (reached.gated.one_past_gate live live' behind behind')
  oneSearch event job hjob other hother new new' again again' := by
    have reached' := Outline.reachable_perform reached event
    -- both have yet to end the degraded state, and only one job has to
    have owes {j : Job} (hj : j ∈ (w.perform event).client.jobs) (new : w.client.nextJob ≤ j.id)
        (again : j.activity.isReconnect = true) : j.activity.owes = true := by
      obtain ⟨stage, activity⟩ := Outline.exists_of_isReconnect again
      have live := Client.mem_outline hj
      rw [activity] at live ⊢
      rw [(follows_perform w event).arriving_of_new reached.orderly live new]
      rfl
    exact Client.eq_of_id reached'.orderly hjob hother
      (reached'.owes_unique (Client.mem_outline hother) (Client.mem_outline hjob)
        (owes hother new' again') (owes hjob new again))
  ignores id generation outbox? stale := by
    have ignored : w.client.session.reportLoss? generation = none := by
      refine Session.reportLoss?_eq_none_iff.mpr ?_
      rcases stale with other | degraded | closed
      · exact .inl other.symm
      · exact .inr (by rw [degraded]; nofun)
      · exact .inr (by rw [closed]; nofun)
    refine ⟨ignored, ?_⟩
    unfold Client.stepLoss
    dsimp only
    rw [ignored]
    rfl
  obliged degraded := by
    obtain ⟨j, hj, owes⟩ := reached.exists_owes degraded
    obtain ⟨job, hjob, rfl⟩ := List.mem_map.mp hj
    refine ⟨job, hjob, owes, Activity.not_cancellable_of_owes owes, ?_,
      owes_cases owes (reached.permitted _ hj)⟩
    intro other hother owes'
    exact Client.eq_of_id reached.orderly hother hjob
      (reached.owes_unique hj (Client.mem_outline hother) owes owes')
  passes job hjob why activity := by
    have live := Client.mem_outline hjob
    rw [activity] at live
    obtain ⟨id, why', stage, holds, hsearch⟩ := reached.gated.held_of_waiting live
    obtain ⟨holder, hholder, rfl, activity'⟩ := Client.exists_job hsearch
    exact ⟨holder, hholder, holds, by rw [activity']; rfl⟩
  bounded degraded later none := attempts_le reached degraded none
  ends degraded event := by
    cases (follows_perform w event).advance with
    | stays lifecycle => exact .inl (lifecycle.trans degraded)
    | loses _ after => exact .inl after
    | closes _ after => exact .inr (.inr after)
    | opens _ after => exact .inr (.inl after)

/-- An attempt that is under way after an event was so before, or it begins, and then its search
has checked the session for it. -/
theorem checked_of_isOpening {events : List Event} (event : Event) {job : Job}
    (member : job ∈ (run settings medium (events ++ [event])).client.jobs)
    (opening : job.activity.isOpening = true) :
    (∃ before ∈ (run settings medium events).client.jobs,
        before.id = job.id ∧ before.activity = job.activity) ∨
      ∃ why attempt, Checked settings medium events job.id why attempt := by
  have live := Client.mem_outline member
  rw [run_concat] at live
  rcases (follows_perform _ event).opening_cases live opening with old | ⟨why, attempt, starts⟩
  · exact .inl (Client.exists_job old)
  · exact .inr ⟨why, attempt, checked_of_starting starts⟩

/-- **Whenever a connection is lost, there is one recovery, and the session is never left
stranded.** In every run the connections that are lost grow strictly in generation, so none
is lost twice, and so do those for which another connection is looked for; such a search is
only started by the job that has lost the connection. An attempt begins only after its search
has found the session connecting or degraded, and since then the session has stayed so unless
it was closed. Every state on the way is one that `Recovers` describes. -/
theorem recovers (settings : Settings) (medium : Medium) (events : List Event) :
    let start : World := { client := Client.create settings medium }
    (run settings medium events).Recovers settings ∧
      (start.losses events).Pairwise (· < ·) ∧ (start.reconnects events).Pairwise (· < ·) ∧
      (∀ event, (run settings medium events).startsReconnect event = true →
        ∃ generation, (run settings medium events).reconnectOf? event = some generation) ∧
      ∀ event, ∀ job ∈ (run settings medium (events ++ [event])).client.jobs,
        job.activity.isOpening = true →
          (∃ before ∈ (run settings medium events).client.jobs,
              before.id = job.id ∧ before.activity = job.activity) ∨
            ∃ why attempt, Checked settings medium events job.id why attempt := by
  intro start
  have reached := Outline.reachable_run settings medium events
  refine ⟨recovers_of_reachable reached, losses_pairwise start events,
    reconnects_pairwise .start events, fun event starts => ?_,
    fun event job member opening => checked_of_isOpening event member opening⟩
  obtain ⟨generation, h, -⟩ := reconnectOf?_of_starts reached starts
  exact ⟨generation, h⟩

/-- An attempt may begin in a closed session. Here the session is closed after the search has
found it connecting, and before the search starts its attempt. -/
theorem opens_after_close :
    let events : List Event :=
      [.connect, .turn 0 false, .turn 0 false, .turn 0 false, .shutDown, .turn 1 false]
    let before := run {} .messages events
    let after := run {} .messages (events ++ [.turn 0 false])
    before.client.session.lifecycle = .closed ∧ before.client.loopback.attempts = 0 ∧
      (∀ job ∈ before.client.jobs, job.activity.isOpening = false) ∧
      after.client.session.lifecycle = .closed ∧ after.client.loopback.attempts = 1 ∧
      ∃ job ∈ after.client.jobs, job.activity.isOpening = true := by decide +kernel

end World

end LspClient
