import LspClient.Proofs.Client.Obligation

/-!
# Every connection is lost once

The generation tells connections apart: it grows with every connection that is installed
and never shrinks. `losses` lists the connections that a run loses, and `reconnects` the
lost connections for which it starts a search for another, both by generation and in the
order in which that happens. Both lists grow strictly (`losses_pairwise`,
`reconnects_pairwise`), so no connection is in one of them twice.

Both proofs look ahead. `Outline.bound` is a generation below which no connection can be
lost any more; it never shrinks, and a loss raises it. For the searches the jobs count as
well that have reported a loss and not yet decided.
-/

namespace LspClient

/-- Whether a job is a search for a connection after one was lost. -/
def Activity.isReconnect : Activity → Bool
  | .search why _ => decide (why = .again)
  | _ => false

namespace Outline

variable {settings : Settings} {medium : Medium} {k k' : Outline} {id i : JobId} {a : Activity}
  {generation : Nat} {outbox? : Option Nat} {stage : SearchStage}

/-! ## The next loss -/

/-- The least generation of a connection that can still be lost. -/
def bound (k : Outline) : Nat :=
  if k.session.lifecycle = .ready then k.session.generation else k.session.generation + 1

theorem generation_le_bound (k : Outline) : k.session.generation ≤ k.bound := by
  unfold bound
  split <;> omega

theorem bound_le (k : Outline) : k.bound ≤ k.session.generation + 1 := by
  unfold bound
  split <;> omega

theorem bound_of_not_ready (h : k.session.lifecycle ≠ .ready) :
    k.bound = k.session.generation + 1 := if_neg h

theorem bound_of_ready (h : k.session.lifecycle = .ready) : k.bound = k.session.generation :=
  if_pos h

theorem bound_mono (h : k.session.Advance k'.session) : k.bound ≤ k'.bound := by
  cases h with
  | stays lifecycle same =>
    refine Nat.le_of_eq ?_
    unfold bound
    rw [lifecycle, same]
  | loses before after same =>
    rw [bound_of_ready before, ← same]
    exact generation_le_bound k'
  | closes _ _ grows =>
    have := generation_le_bound k'
    have := bound_le k
    omega
  | opens _ after grows =>
    rw [bound_of_ready after, grows]
    exact bound_le k

/-! ## Jobs that have to decide -/

/-- A job has to decide since its report was taken in. -/
theorem Shift.deciding_cases (h : k.Shift id a k')
    (hi : (i, .lose generation outbox? .deciding) ∈ k'.jobs) :
    ((i, .lose generation outbox? .deciding) ∈ k.jobs ∧ i ≠ id) ∨
      k.session.reportLoss? generation = some k'.session := by
  rcases h.mem_cases hi with old | ⟨-, yields⟩ | begins
  · exact .inl old
  · cases yields with
    | degrade lost => exact .inr lost
    | move step => cases step
    | close closes => cases closes
    | drain drains => cases drains
  · cases begins

/-- Nobody has to decide about a connection that is yet to come. -/
theorem Reachable.deciding_le (h : Reachable settings medium k)
    (hi : (i, .lose generation outbox? .deciding) ∈ k.jobs) :
    generation ≤ k.session.generation := by
  induction h with
  | start => exact absurd hi List.not_mem_nil
  | stir _ stir ih =>
    rw [stir.same_state.2]
    exact ih (Stirs.mem_of_other (.single stir) hi rfl nofun)
  | shift _ _ shift ih =>
    have grows : ∀ {s t : Session}, s.Advance t → s.generation ≤ t.generation := by
      intro s t advance
      cases advance <;> omega
    rcases shift.deciding_cases hi with ⟨old, -⟩ | lost
    · exact Nat.le_trans (ih old) (grows shift.relinks.advance)
    · obtain ⟨rfl, -, -⟩ := Session.reportLoss?_eq_some_iff.mp lost
      exact grows shift.relinks.advance

/-! ## Jobs that look for another connection -/

theorem Yields.isReconnect {b : Activity} (h : Yields k k' id a b) (after : b.isReconnect = true) :
    a.isReconnect = true := by
  cases h with
  | move step => cases step <;> exact after
  | close closes => cases closes <;> exact after
  | drain drains => cases drains <;> exact after
  | take | degrade | arrive | «open» | accept | install => exact after

theorem exists_of_isReconnect (h : a.isReconnect = true) : ∃ stage, a = .search .again stage := by
  cases a with
  | search why stage =>
    cases why with
    | first => cases h
    | again => exact ⟨stage, rfl⟩
  | _ => cases h

/-- A later search was one before, or is started by a job that had to decide. -/
theorem Shift.reconnect_cases (h : k.Shift id a k') (live : (id, a) ∈ k.jobs)
    (hi : (i, .search .again stage) ∈ k'.jobs) :
    (∃ before, (i, .search .again before) ∈ k.jobs) ∨
      (∃ generation outbox?, a = .lose generation outbox? .deciding) ∧
        k'.session.lifecycle = k.session.lifecycle := by
  rcases h.mem_cases hi with ⟨old, -⟩ | ⟨rfl, yields⟩ | begins
  · exact .inl ⟨stage, old⟩
  · obtain ⟨before, rfl⟩ := exists_of_isReconnect (yields.isReconnect rfl)
    exact .inl ⟨before, live⟩
  · cases begins with
    | recover _ same => exact .inr ⟨⟨_, _, rfl⟩, same⟩

/-- A search that an event starts has not taken a step yet. -/
theorem Follows.arriving_of_new {event : Event} (h : k.Follows event k') (o : k.Orderly)
    (hi : (i, .search .again stage) ∈ k'.jobs) (new : k.nextJob ≤ i) : stage = .arriving := by
  have old_lt {b : Activity} (hi : (i, b) ∈ k.jobs) : False :=
    Nat.lt_irrefl _ (Nat.lt_of_lt_of_le (o.below _ hi) new)
  rcases h with stirs | ⟨id, heeds, a, m, rfl, live, shift, stirs⟩
  · exact (old_lt (stirs.mem_of_other hi rfl nofun)).elim
  · rcases shift.mem_cases (stirs.mem_of_other hi rfl nofun) with ⟨old, -⟩ | ⟨rfl, -⟩ | begins
    · exact (old_lt old).elim
    · exact (old_lt live).elim
    · cases begins
      rfl

/-! ## Looking ahead -/

/-- No connection below this generation will be lost, or has a job that will look for
another one. -/
structure Ahead (k : Outline) (generation : Nat) : Prop where
  lost : generation ≤ k.bound
  decided : ∀ id g outbox?, (id, .lose g outbox? .deciding) ∈ k.jobs → generation ≤ g

theorem Ahead.follows {event : Event} {n : Nat} (ahead : k.Ahead n) (h : k.Follows event k') :
    k'.Ahead n where
  lost := Nat.le_trans ahead.lost (bound_mono h.advance)
  decided i g o? hi := by
    rcases h with stirs | ⟨id, heeds, a, m, -, -, shift, stirs⟩
    · exact ahead.decided i g o? (stirs.mem_of_other hi rfl nofun)
    · rcases shift.deciding_cases (stirs.mem_of_other hi rfl nofun) with ⟨old, -⟩ | lost
      · exact ahead.decided i g o? old
      · -- who has just reported a loss decides about the connection that was current
        obtain ⟨rfl, ready, -⟩ := Session.reportLoss?_eq_some_iff.mp lost
        rw [← bound_of_ready ready]
        exact ahead.lost

/-- A search for another connection is started in the turn of the job that has to decide
about the loss, and no other job will have to. -/
theorem Reachable.reconnect (h : Reachable settings medium k) {event : Event}
    (follows : k.Follows event k') (hi : (i, .search .again stage) ∈ k'.jobs)
    (new : k.nextJob ≤ i) :
    ∃ id heeds g outbox?, event = .turn id heeds ∧ (id, .lose g outbox? .deciding) ∈ k.jobs ∧
      k'.Ahead (g + 1) := by
  have old_lt {stage : SearchStage} (hi : (i, .search .again stage) ∈ k.jobs) : False :=
    Nat.lt_irrefl _ (Nat.lt_of_lt_of_le (h.orderly.below _ hi) new)
  rcases follows with stirs | ⟨id, heeds, a, m, rfl, live, shift, stirs⟩
  · exact (old_lt (stirs.mem_of_other hi rfl nofun)).elim
  · rcases shift.reconnect_cases live (stirs.mem_of_other hi rfl nofun) with
      ⟨before, old⟩ | ⟨⟨g, outbox?, rfl⟩, same⟩
    · exact (old_lt old).elim
    refine ⟨id, heeds, g, outbox?, rfl, live, ?_, ?_⟩
    · -- the session is not ready, so only the next connection can be lost
      have notReady : k'.session.lifecycle ≠ .ready := by
        rw [stirs.same_state.1, same]
        exact h.not_ready_of_owes live rfl
      have grows : k.session.generation ≤ k'.session.generation := by
        rw [stirs.same_state.2]
        cases shift.relinks.advance <;> omega
      rw [bound_of_not_ready notReady]
      exact Nat.succ_le_succ (Nat.le_trans (h.deciding_le live) grows)
    · -- no other job has to decide: two would owe an end to the degraded state
      intro j g' o? hj
      rcases shift.deciding_cases (stirs.mem_of_other hj rfl nofun) with ⟨old, other⟩ | lost
      · exact absurd (h.owes_unique live old rfl rfl) other
      · obtain ⟨-, ready, -⟩ := Session.reportLoss?_eq_some_iff.mp lost
        exact absurd ready (h.not_ready_of_owes live rfl)

end Outline

namespace World

/-! ## What a run loses and looks for -/

/-- What the events of a run give, one after another. -/
def trace (f : World → Event → Option Nat) : World → List Event → List Nat
  | _, [] => []
  | w, event :: rest => (f w event).toList ++ trace f (w.perform event) rest

/-- The generation of the connection whose loss makes an event degrade the session. -/
def lossOf? (w : World) (event : Event) : Option Nat :=
  if w.client.session.lifecycle = .ready ∧
      (w.perform event).client.session.lifecycle = .degraded then
    some w.client.session.generation
  else none

/-- Whether an event starts a search for another connection: one runs afterwards that did
not run before. -/
def startsReconnect (w : World) (event : Event) : Bool :=
  (w.perform event).client.jobs.any fun j =>
    decide (w.client.nextJob ≤ j.id) && j.activity.isReconnect

/-- The generation of the connection that the job has lost whose turn it is. -/
def loserOf? (w : World) : Event → Option Nat
  | .turn id _ =>
    match (w.client.job? id).map Job.activity with
    | some (.lose generation _ _) => some generation
    | _ => none
  | _ => none

/-- The generation of the lost connection for which an event starts a search for another. -/
def reconnectOf? (w : World) (event : Event) : Option Nat :=
  if w.startsReconnect event then w.loserOf? event else none

/-- The connections that a run loses, by generation. -/
def losses : World → List Event → List Nat := trace lossOf?

/-- The lost connections for which a run starts a search for another, by generation. -/
def reconnects : World → List Event → List Nat := trace reconnectOf?

/-- A trace grows strictly if there is a bound that holds of all that is to come, never
shrinks, and is raised by everything that comes. -/
theorem trace_pairwise {f : World → Event → Option Nat} {P : World → Prop}
    {A : Nat → World → Prop} (stable : ∀ w event, P w → P (w.perform event))
    (kept : ∀ n w event, P w → A n w → A n (w.perform event))
    (least : ∀ n w event g, P w → A n w → f w event = some g → n ≤ g)
    (raised : ∀ w event g, P w → f w event = some g → A (g + 1) (w.perform event)) :
    ∀ (events : List Event) (w : World), P w → (trace f w events).Pairwise (· < ·) ∧
      ∀ n, A n w → ∀ g ∈ trace f w events, n ≤ g
  | [], _, _ => ⟨List.Pairwise.nil, fun _ _ _ h => absurd h List.not_mem_nil⟩
  | event :: rest, w, holds => by
    obtain ⟨sorted, above⟩ :=
      trace_pairwise stable kept least raised rest (w.perform event) (stable w event holds)
    unfold trace
    cases hf : f w event with
    | none => exact ⟨sorted, fun n hn => above n (kept n w event holds hn)⟩
    | some g =>
      -- what comes now raises the bound for all that comes later
      show (g :: _).Pairwise _ ∧ _
      rw [List.pairwise_cons]
      refine ⟨⟨fun g' hg' => above (g + 1) (raised w event g holds hf) g' hg', sorted⟩, ?_⟩
      intro n hn g' hg'
      rcases List.mem_cons.mp hg' with rfl | later
      · exact least n w event _ holds hn hf
      · exact above n (kept n w event holds hn) g' later

theorem lossOf?_eq_some {w : World} {event : Event} {g : Nat} (h : w.lossOf? event = some g) :
    w.client.session.lifecycle = .ready ∧
      (w.perform event).client.session.lifecycle = .degraded ∧
      w.client.session.generation = g := by
  unfold lossOf? at h
  split at h
  · next both =>
    cases h
    exact ⟨both.1, both.2, rfl⟩
  · cases h

/-- No connection is lost twice. -/
theorem losses_pairwise (w : World) (events : List Event) :
    (w.losses events).Pairwise (· < ·) := by
  refine (trace_pairwise (P := fun _ => True) (A := fun n w => n ≤ w.client.outline.bound)
    (fun _ _ _ => trivial) ?_ ?_ ?_ events w trivial).1
  · intro n w event _ hn
    exact Nat.le_trans hn (Outline.bound_mono (follows_perform w event).advance)
  · intro n w event g _ hn loss
    obtain ⟨ready, -, rfl⟩ := lossOf?_eq_some loss
    rwa [Outline.bound_of_ready ready] at hn
  · intro w event g _ loss
    obtain ⟨ready, degraded, rfl⟩ := lossOf?_eq_some loss
    have notReady : (w.perform event).client.outline.session.lifecycle ≠ .ready := by
      rw [show (w.perform event).client.outline.session.lifecycle = .degraded from degraded]
      nofun
    rw [Outline.bound_of_not_ready notReady]
    cases (follows_perform w event).advance with
    | stays lifecycle generation => exact Nat.le_of_eq (congrArg (· + 1) generation.symm)
    | loses _ _ generation => exact Nat.le_of_eq (congrArg (· + 1) generation.symm)
    | closes _ after =>
      rw [show (w.perform event).client.outline.session.lifecycle = .degraded from degraded] at after
      cases after
    | opens _ after => exact absurd after notReady

variable {settings : Settings} {medium : Medium} {w : World}

/-- A search for another connection is started because one was lost, and only by the job
that has lost it. -/
theorem reconnectOf?_of_starts (reached : Outline.Reachable settings medium w.client.outline)
    {event : Event} (starts : w.startsReconnect event = true) :
    ∃ g, w.reconnectOf? event = some g ∧ (w.perform event).client.outline.Ahead (g + 1) ∧
      ∃ id outbox?, (id, .lose g outbox? .deciding) ∈ w.client.outline.jobs := by
  unfold reconnectOf?
  rw [if_pos starts]
  obtain ⟨job, hjob, both⟩ := List.any_eq_true.mp starts
  rw [Bool.and_eq_true, decide_eq_true_iff] at both
  obtain ⟨new, again⟩ := both
  have live := Client.mem_outline hjob
  cases hactivity : job.activity with
  | search why stage =>
    rw [hactivity] at again live
    cases why with
    | first => cases again
    | again =>
      obtain ⟨id, heeds, g, outbox?, rfl, decides, ahead⟩ :=
        reached.reconnect (follows_perform w event) live new
      obtain ⟨loser, found, -, activity⟩ := Client.job?_of_mem reached.orderly decides
      refine ⟨g, ?_, ahead, id, outbox?, decides⟩
      unfold loserOf?
      dsimp only
      rw [found, Option.map_some, activity]
  | _ =>
    rw [hactivity] at again
    cases again

theorem reconnectOf?_eq_some (reached : Outline.Reachable settings medium w.client.outline)
    {event : Event} {g : Nat} (h : w.reconnectOf? event = some g) :
    (w.perform event).client.outline.Ahead (g + 1) ∧
      ∃ id outbox?, (id, .lose g outbox? .deciding) ∈ w.client.outline.jobs := by
  have starts : w.startsReconnect event = true := by
    unfold reconnectOf? at h
    split at h
    · next starts => exact starts
    · cases h
  obtain ⟨g', hg', rest⟩ := reconnectOf?_of_starts reached starts
  rw [h] at hg'
  cases hg'
  exact rest

/-- No search for another connection is started twice for one that was lost. -/
theorem reconnects_pairwise (reached : Outline.Reachable settings medium w.client.outline)
    (events : List Event) : (w.reconnects events).Pairwise (· < ·) := by
  refine (trace_pairwise (P := fun w => Outline.Reachable settings medium w.client.outline)
    (A := fun n w => w.client.outline.Ahead n) ?_ ?_ ?_ ?_ events w reached).1
  · exact fun w event reached => Outline.reachable_perform reached event
  · exact fun n w event _ ahead => ahead.follows (follows_perform w event)
  · intro n w event g reached ahead h
    obtain ⟨-, id, outbox?, decides⟩ := reconnectOf?_eq_some reached h
    exact ahead.decided id g outbox? decides
  · exact fun w event g reached h => (reconnectOf?_eq_some reached h).1

end World

end LspClient
