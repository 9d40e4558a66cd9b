import LspClient.Proofs.Client.Burden
import LspClient.Proofs.Client.Episode
import LspClient.Proofs.Client.Gate
import LspClient.Proofs.Client.Reconnect

/-!
# Who disturbs a search

While a search makes its attempts the session stays in the state from which a connection is
looked for. No other search is past the gate, and nobody else has to end the degraded state; so
only a shutdown can come between (`Outline.Shift.keeps_state`). In a run without one, no search
is disturbed (`World.undisturbed`). A search that has failed after all its attempts leaves the
session closed in any case (`Outline.Reachable.closed_of_failed`).
-/

namespace LspClient

/-- Whether a search is past the gate, and nobody has disturbed it. -/
def SearchStage.isUnderWay : SearchStage → Bool
  | .backingOff .. | .checking _ | .starting _ | .opening .. | .installing .. => true
  | .closing (.connectFailed ..) => true
  | _ => false

theorem SearchStage.isPastGate_of_isUnderWay {stage : SearchStage}
    (h : stage.isUnderWay = true) : stage.isPastGate = true := by
  cases stage with
  | arriving | atGate => cases h
  | _ => rfl

/-- Who was disturbed is not under way any more. -/
theorem Search.isUnderWay_afterFailure (why : Search) (state : Lifecycle) :
    (why.afterFailure (.invalidState state)).isUnderWay = false := by
  cases why <;> rfl

/-- The mark of a shutdown. -/
def Activity.stops? : Activity → Option Unit
  | .shutDown _ => some ()
  | _ => none

theorem Activity.isBurden_stops? : Activity.IsBurden Activity.stops? where
  work a work := by cases a <;> first | rfl | cases work
  shutDown _ _ := rfl
  await _ _ _ _ _ := rfl

namespace Outline

variable {settings : Settings} {medium : Medium} {k k' : Outline} {id j : JobId} {a b : Activity}
  {why : Search} {stage : SearchStage} {event : Event}

/-- **Nobody but a shutdown disturbs a search.** As long as a search is past the gate in its
state, no step of another job changes that state. -/
theorem Shift.keeps_state (reached : Reachable settings medium k) (h : k.Shift j a k')
    (actor : (j, a) ∈ k.jobs) (calm : ∀ stage, a ≠ .shutDown stage)
    (live : (id, .search why stage) ∈ k.jobs) (past : stage.isPastGate = true)
    (expected : k.session.lifecycle = why.state) (other : id ≠ j) :
    k'.session.lifecycle = why.state := by
  have gated := reached.gated
  -- a search that could do so would have to be past the gate as well
  have alone {why' : Search} {stage' : SearchStage} (searches : (j, .search why' stage') ∈ k.jobs)
      (past' : stage'.isPastGate = true) : k'.session.lifecycle = why.state := by
    have holder := gated.alone id why stage live past
    rw [gated.alone j why' stage' searches past'] at holder
    exact absurd (Option.some.inj holder).symm other
  rcases h.lifecycle_cases with same | ready | ⟨b, closes, -⟩ | ⟨why', attempt, peer, rfl⟩
  · exact same.trans expected
  · rw [expected] at ready
    cases why <;> cases ready
  · cases closes with
    | search => exact alone actor rfl
    | shutdown => exact absurd rfl (calm _)
    | loss =>
      have disabled := reached.permitted _ actor
      cases why with
      | again => exact absurd disabled ((reached.permitted _ live).1 rfl)
      | first =>
        -- nobody owes anything while the session is connecting
        have owed := reached.owed
        rw [expected] at owed
        have none : k.owed = 0 := owed
        have some : 1 ≤ k.owed := le_total reached.orderly actor fun a => a.owes.toNat
        omega
  · exact alone actor rfl

/-- A search that is under way after its own step was so before, or it has just passed the gate;
the state is as before. -/
theorem Shift.under_way (h : k.Shift id a k')
    (live : (id, .search why stage) ∈ k'.jobs) (way : stage.isUnderWay = true)
    (before : ∀ stage', a = .search why stage' →
      stage'.isUnderWay = true → k.session.lifecycle = why.state) :
    k'.session.lifecycle = why.state := by
  have put {b : Activity} {m : Outline} (member : (id, .search why stage) ∈ (m.put id b).jobs) :
      b = .search why stage := by
    rcases mem_put.mp member with ⟨-, other⟩ | ⟨same, -⟩
    · exact absurd rfl other
    · exact (Prod.mk.inj same).2.symm
  have gone {m : Outline} (member : (id, .search why stage) ∈ (m.erase id).jobs) :
      k'.session.lifecycle = why.state := absurd rfl (mem_erase.mp member).2
  cases h with
  | @move _ _ step =>
    have leads := put live
    cases step with
    | passed _ expected | untried _ expected =>
      cases leads
      exact expected
    | woken | checked | retried | failed =>
      cases leads
      exact before _ rfl rfl
    | outdated | declined =>
      obtain ⟨rfl, same⟩ := Activity.search.inj leads
      rw [← same, Search.isUnderWay_afterFailure] at way
      cases way
    | refused | late =>
      cases leads
      cases way
    | unheard | unsent | written | exhausted | disabled => cases leads
  | «open» | accept =>
    cases put live
    exact before _ rfl rfl
  | enter | queue =>
    cases put live
    cases way
  | close closes =>
    cases closes <;> cases put live
    cases way
  | drain drains =>
    cases drains <;> cases put live
    cases way
  | install =>
    cases put live
    cases way
  | take | degrade => cases put live
  | desert | recover | drainLoss | report | leave | giveUpGate | giveUpPlace => exact gone live

/-- As long as nobody shuts the session down, what is under way stays so. -/
theorem Follows.keeps_state (reached : Reachable settings medium k) (h : k.Follows event k')
    (calm : ∀ j stage, (j, .shutDown stage) ∉ k.jobs)
    (before : ∀ id why stage, (id, .search why stage) ∈ k.jobs → stage.isUnderWay = true →
      k.session.lifecycle = why.state)
    (live : (id, .search why stage) ∈ k'.jobs) (way : stage.isUnderWay = true) :
    k'.session.lifecycle = why.state := by
  have begun : Activity.search why stage ≠ .search .first .arriving := by
    intro same
    cases same
    cases way
  rcases h with stirs | ⟨j, heeds, a, m, rfl, actor, shift, stirs⟩
  · rw [stirs.same_state.1]
    exact before id why stage (stirs.mem_of_other live rfl begun) way
  · rw [stirs.same_state.1]
    have middle := stirs.mem_of_other live rfl begun
    by_cases own : id = j
    · subst own
      refine shift.under_way middle way ?_
      rintro stage' rfl way'
      exact before id why stage' actor way'
    · have old : (id, .search why stage) ∈ k.jobs := by
        rcases shift.mem_cases middle with ⟨old, -⟩ | ⟨same, -⟩ | begins
        · exact old
        · exact absurd same own
        · cases begins
          cases way
      refine shift.keeps_state reached actor ?_ old (SearchStage.isPastGate_of_isUnderWay way)
        (before id why stage old way) own
      rintro stage' rfl
      exact calm j stage' actor

/-- A search that has failed after all its attempts leaves the session closed. -/
theorem Reachable.closed_of_failed (h : Reachable settings medium k) {attempts : Nat}
    {last : ConnectError}
    (live : (id, .search why (.leaving (some (.connectFailed attempts last)))) ∈ k.jobs) :
    k.session.lifecycle = .closed := by
  induction h with
  | start => cases live
  | stir _ stir ih =>
    rw [stir.same_state.1]
    rcases stir.mem_cases live with old | aside | first
    · exact ih old
    · cases aside
    · cases first
  | @shift k k' j a reached actor shift ih =>
    have follows : k.Follows (.turn j false) k' := .inr ⟨j, false, a, k', rfl, actor, shift, .refl⟩
    have stays (closed : k.session.lifecycle = .closed) : k'.session.lifecycle = .closed :=
      (follows.shuts closed).lifecycle
    have disturbed {why' : Search} {state : Lifecycle}
        (same : why'.afterFailure (.invalidState state) =
          .leaving (some (.connectFailed attempts last))) : k'.session.lifecycle = .closed := by
      cases why' <;> cases same
    rcases shift.mem_cases live with ⟨old, -⟩ | ⟨-, yields⟩ | begins
    · exact stays (ih old)
    · generalize target : Activity.search why
        (.leaving (some (.connectFailed attempts last))) = b at yields
      cases yields with
      | move step =>
        cases step with
        | late closed => exact stays closed
        | passed _ _ early | retried _ early =>
          cases target
          cases early
        | outdated | declined => exact disturbed (Activity.search.inj target).2.symm
        | _ => cases target
      | close closes => cases closes <;> cases target
      | drain drains =>
        cases drains with
        | search => exact stays (reached.closed_of_isDraining actor rfl)
        | shutdown => cases target
      | _ => cases target
    · cases begins

end Outline

open Outline

namespace World

variable {settings : Settings} {medium : Medium} {events : List Event} {id : JobId}
  {why : Search} {stage : SearchStage}

/-- Without a shutdown no job shuts the session down. -/
theorem not_mem_shutDown (calm : .shutDown ∉ events) (id : JobId) (stage : ShutdownStage) :
    (id, .shutDown stage) ∉ (run settings medium events).client.outline.jobs := by
  have none : (run settings medium events).client.carried Activity.stops? = [] := by
    induction events using List.reverseRecOn with
    | nil => rfl
    | append_singleton events event ih =>
      have quiet : ∀ a ∈ (run settings medium events).begun event, a.stops? = none := by
        intro a member
        unfold begun at member
        cases event with
        | shutDown => exact absurd (List.mem_append_right _ (List.mem_singleton_self _)) calm
        | turn =>
          obtain ⟨request, -, starts⟩ := List.mem_flatMap.mp member
          rcases List.mem_cons.mp starts with rfl | rest
          · rfl
          · rw [List.mem_singleton.mp rest]
            rfl
        | request =>
          obtain ⟨request, -, rfl⟩ := List.mem_map.mp member
          rfl
        | await =>
          dsimp only at member
          split at member
          · rw [List.mem_singleton.mp member]
            rfl
          · cases member
        | _ => cases member
      have before := ih fun early => calm (List.mem_append_left _ early)
      have carried := carried_perform Activity.isBurden_stops?
        (reachable_run settings medium events).orderly event
      rw [before, List.filterMap_eq_nil_iff.mpr quiet] at carried
      rw [run_concat]
      exact List.subperm_nil.mp carried
  intro live
  have marked := Client.mem_carried (f := Activity.stops?) live rfl
  rw [none] at marked
  cases marked

/-- **Without a shutdown no search is disturbed.** The session stays in the state from which the
connection is looked for. -/
theorem undisturbed (calm : .shutDown ∉ events)
    (live : (id, .search why stage) ∈ (run settings medium events).client.outline.jobs)
    (way : stage.isUnderWay = true) :
    (run settings medium events).client.session.lifecycle = why.state := by
  induction events using List.reverseRecOn generalizing id why stage with
  | nil => cases live
  | append_singleton events event ih =>
    have before : .shutDown ∉ events := fun early => calm (List.mem_append_left _ early)
    rw [run_concat] at live ⊢
    exact (follows_perform _ event).keeps_state (reachable_run settings medium events)
      (not_mem_shutDown before) (fun _ _ _ => ih before) live way

end World

end LspClient
