import LspClient.Proofs.Client.Gate

/-!
# From the check to the attempt

A search looks at the state of the session and then starts its attempt, and in between anything
may happen. To the state that is little: past the gate the search is alone, so that nobody else
installs a connection, and only a close takes the session out of the state in which the search
has found it (`Reachable.state_of_starting`). So every attempt goes back to a check, and since
then the session was in the right state or closed (`World.checked_of_starting`).
-/

namespace LspClient

namespace Outline

variable {settings : Settings} {medium : Medium} {k k' : Outline} {id i : JobId} {a b : Activity}
  {why : Search} {attempt : Nat} {event : Event}

/-- The state of the session changes as a connection is lost, as somebody closes it or as a
connection is installed. -/
theorem Shift.lifecycle_cases (h : k.Shift id a k') :
    k'.session.lifecycle = k.session.lifecycle ∨ k.session.lifecycle = .ready ∨
      (∃ b, Closes a b ∧ k'.session.lifecycle = .closed) ∨
      ∃ why attempt peer, a = .search why (.installing attempt peer) := by
  cases h with
  | move | take | drain | enter | queue | «open» | accept | giveUpPlace => exact .inl rfl
  | @desert _ outbox? | @recover _ outbox? =>
    refine .inl ?_
    show (k.session.unman outbox?).lifecycle = _
    rw [Session.unman_eq]
  | @drainLoss _ outbox? =>
    refine .inl ?_
    show (k.session.drain.unman outbox?).lifecycle = _
    rw [Session.unman_eq]
    rfl
  | degrade lost =>
    obtain ⟨-, ready, -⟩ := Session.reportLoss?_eq_some_iff.mp lost
    exact .inr (.inl ready)
  | close closes closed =>
    obtain ⟨-, rfl⟩ := Session.close?_eq_some_iff.mp closed
    exact .inr (.inr (.inl ⟨_, closes, rfl⟩))
  | @install why attempt peer => exact .inr (.inr (.inr ⟨why, attempt, peer, rfl⟩))
  | report | leave | giveUpGate =>
    refine .inl ?_
    show k.openGate.session.lifecycle = _
    rw [session_openGate]

/-! ## Checks -/

/-- A move that takes a search to the start of an attempt is a check of the state. -/
theorem Move.eq_checking (h : k.Move id a b) (starts : b = .search why (.starting attempt)) :
    a = .search why (.checking attempt) ∧ k.session.lifecycle = why.state := by
  cases h with
  | checked expected =>
    cases starts
    exact ⟨rfl, expected⟩
  | passed _ _ before | retried _ before =>
    cases starts
    cases before
  | @outdated why | @declined why => cases why <;> cases starts
  | _ => cases starts

/-- A search that is about to start an attempt was so before, or has just checked the state. -/
theorem Shift.starting_cases (h : k.Shift id a k')
    (hi : (i, .search why (.starting attempt)) ∈ k'.jobs) :
    ((i, .search why (.starting attempt)) ∈ k.jobs ∧ i ≠ id) ∨
      i = id ∧ a = .search why (.checking attempt) ∧ k.session.lifecycle = why.state ∧
        k'.session.lifecycle = why.state := by
  rcases h.mem_cases hi with old | ⟨own, yields⟩ | begins
  · exact .inl old
  · obtain ⟨rfl, expected⟩ : a = .search why (.checking attempt) ∧
        k.session.lifecycle = why.state := by
      cases yields with
      | move step => exact step.eq_checking rfl
      | close closes => cases closes
      | drain drains => cases drains
    refine .inr ⟨own, rfl, expected, ?_⟩
    rcases h.lifecycle_cases with same | ready | ⟨b, closes, -⟩ | ⟨_, _, _, other⟩
    · exact same.trans expected
    · rw [expected] at ready
      cases why <;> cases ready
    · cases closes
    · cases other
  · cases begins

theorem Follows.starting_cases (h : k.Follows event k')
    (hi : (i, .search why (.starting attempt)) ∈ k'.jobs) :
    (i, .search why (.starting attempt)) ∈ k.jobs ∨
      ∃ heeds, event = .turn i heeds ∧ (i, .search why (.checking attempt)) ∈ k.jobs ∧
        k.session.lifecycle = why.state ∧ k'.session.lifecycle = why.state := by
  rcases h with stirs | ⟨id, heeds, a, m, turn, live, shift, stirs⟩
  · exact .inl (stirs.mem_of_other hi rfl nofun)
  · rcases shift.starting_cases (stirs.mem_of_other hi rfl nofun) with
      ⟨old, -⟩ | ⟨rfl, rfl, before, after⟩
    · exact .inl old
    · exact .inr ⟨heeds, turn, live, before, stirs.same_state.1.trans after⟩

/-- Until a search starts its attempt, the session stays in its state, unless it is closed. -/
theorem Reachable.state_of_starting (h : Reachable settings medium k)
    (hi : (i, .search why (.starting attempt)) ∈ k.jobs) :
    k.session.lifecycle = why.state ∨ k.session.lifecycle = .closed := by
  -- on how the state was reached, for the search at hand: the step that has brought it to the
  -- start of its attempt is the check, and the steps of others since then only close the session
  induction h with
  | start => exact absurd hi List.not_mem_nil
  | stir _ stir ih =>
    rw [stir.same_state.1]
    exact ih (Stirs.mem_of_other (.single stir) hi rfl nofun)
  | @shift k k' id a reached live shift ih =>
    rcases shift.starting_cases hi with ⟨old, other⟩ | ⟨-, -, -, after⟩
    · rcases shift.lifecycle_cases with same | ready | ⟨b, -, closed⟩ | ⟨why', made, peer, rfl⟩
      · rw [same]
        exact ih old
      · have before := ih old
        rw [ready] at before
        cases why <;> rcases before with state | state <;> cases state
      · exact .inr closed
      · -- whoever installs a connection is past the gate as well
        exact absurd (reached.gated.one_past_gate old live rfl rfl) other
    · exact .inl after

end Outline

open Outline

namespace World

variable {settings : Settings} {medium : Medium} {events : List Event} {id : JobId}
  {why : Search} {attempt : Nat}

/-- At an event of the run a search has found the session in the right state for this attempt,
and since then the session was in that state or closed. -/
def Checked (settings : Settings) (medium : Medium) (events : List Event) (id : JobId)
    (why : Search) (attempt : Nat) : Prop :=
  ∃ before heeds later, events = before ++ .turn id heeds :: later ∧
    (∃ job ∈ (run settings medium before).client.jobs, job.id = id ∧
      job.activity = .search why (.checking attempt)) ∧
    (run settings medium before).client.session.lifecycle = why.state ∧
    ∀ middle, middle <+: later →
      (run settings medium (before ++ .turn id heeds :: middle)).client.session.lifecycle =
          why.state ∨
        (run settings medium (before ++ .turn id heeds :: middle)).client.session.lifecycle =
          .closed

/-- **Every attempt was checked.** -/
theorem checked_of_starting
    (live : (id, .search why (.starting attempt)) ∈
      (run settings medium events).client.outline.jobs) :
    Checked settings medium events id why attempt := by
  induction events using List.reverseRecOn with
  | nil => exact absurd live List.not_mem_nil
  | append_singleton events event ih =>
    have now := (reachable_run settings medium (events ++ [event])).state_of_starting live
    have follows := follows_perform (run settings medium events) event
    rw [← run_concat] at follows
    rcases follows.starting_cases live with old | ⟨heeds, rfl, checks, before, -⟩
    · obtain ⟨early, heeds, later, rfl, checking, state, stays⟩ := ih old
      refine ⟨early, heeds, later ++ [event], by simp, checking, state, fun middle part => ?_⟩
      rcases List.prefix_concat_iff.mp part with rfl | part
      · rw [List.append_assoc] at now
        exact now
      · exact stays middle part
    · refine ⟨events, heeds, [], rfl, Client.exists_job checks, before, fun middle part => ?_⟩
      rw [List.prefix_nil.mp part]
      exact now

end World

end LspClient
