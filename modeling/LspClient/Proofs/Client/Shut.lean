import LspClient.Proofs.Client.Turns
import LspClient.Proofs.Session.Shut

/-!
# After the close

What happens in a closed session adds nothing to it: the session `Shuts`, in every run and
whatever events there are (`World.shuts_performAll`).

A search may have made its connection when it is too late. `TurnedAway` follows it to its
end: at its first turn it is told that the session is closed, and after three turns at most
it has ended with that error (`World.turnedAway_performAll`).
-/

namespace LspClient

/-- The points of a search whose connection came after the close, and how many turns it
takes from there until its end. -/
inductive SearchStage.IsLate : SearchStage → Nat → Prop
  | installing {attempt peer : Nat} : IsLate (.installing attempt peer) 3
  | closing : IsLate (.closing (.invalidState .closed)) 2
  | leaving : IsLate (.leaving (some (.invalidState .closed))) 1

/-- A search does not wait at these points. -/
theorem SearchStage.IsLate.fixed {stage : SearchStage} {left : Nat} (h : stage.IsLate left)
    (why : Search) : (Activity.search why stage).isCancellable = false := by
  cases h <;> cases why <;> rfl

namespace Outline

variable {k k' : Outline} {id : JobId} {event : Event} {why : Search} {n : Nat}

/-! ## What happens in a closed session -/

theorem Stir.shuts (h : k.Stir k') (closed : k.session.lifecycle = .closed) :
    k.session.Shuts k'.session := by
  rcases h.session_cases with same | quiet | ⟨-, dropped⟩
  · rw [same]
    exact Session.shuts_refl closed
  · exact quiet.shuts closed
  · rw [dropped]
    exact Session.shuts_drop closed

theorem Stirs.shuts (h : k.Stirs k') (closed : k.session.lifecycle = .closed) :
    k.session.Shuts k'.session := by
  induction h with
  | refl => exact Session.shuts_refl closed
  | tail _ last ih => exact ih.trans (last.shuts ih.lifecycle)

theorem Follows.shuts (h : k.Follows event k') (closed : k.session.lifecycle = .closed) :
    k.session.Shuts k'.session := by
  rcases h with stirs | ⟨id, heeds, a, m, -, -, shift, stirs⟩
  · exact stirs.shuts closed
  · have first := shift.relinks.shuts closed
    exact first.trans (stirs.shuts first.lifecycle)

/-! ## Who comes too late -/

/-- A search whose connection came after the close has ended with that error, or takes no
more than three turns to do so, `n` of which it has taken. -/
def TurnedAway (k : Outline) (id : JobId) (why : Search) (n : Nat) : Prop :=
  (k.HasEnded id ∧
      (why = .first → (id, .connected (.error (.invalidState .closed))) ∈ k.results)) ∨
    ∃ stage left, stage.IsLate left ∧ (id, .search why stage) ∈ k.jobs ∧ n + left ≤ 3

theorem TurnedAway.ended (h : k.TurnedAway id why n) (enough : 3 ≤ n) : k.HasEnded id ∧
    (why = .first → (id, .connected (.error (.invalidState .closed))) ∈ k.results) := by
  rcases h with ended | ⟨stage, left, late, -, few⟩
  · exact ended
  · cases late <;> omega

/-- Until its turn, it stays where it is. -/
theorem TurnedAway.follows (t : k.TurnedAway id why n) (o : k.Orderly) (h : k.Follows event k')
    (waits : ∀ heeds, event ≠ .turn id heeds) : k'.TurnedAway id why n := by
  rcases t with ⟨ended, noted⟩ | ⟨stage, left, late, live, few⟩
  · -- what has ended stays ended, and a result once noted stays noted
    exact .inl ⟨h.hasEnded ended, fun first => h.mem_results (noted first)⟩
  · exact .inr ⟨stage, left, late, h.mem_of_other o live rfl waits, few⟩

end Outline

open Outline

namespace Client

variable {c : Client} {id : JobId} {why : Search} {n : Nat}

/-! ## The turns of a search that comes too late -/

theorem isReady_of_isLate (c : Client) {job : Job} {stage : SearchStage} {left : Nat}
    (late : stage.IsLate left) (h : job.activity = .search why stage) : c.isReady job = true := by
  unfold isReady
  rw [h]
  cases late <;> exact Bool.or_true _

theorem close?_of_closed (closed : c.session.lifecycle = .closed) : c.close? = none := by
  unfold close?
  rw [Session.close?_eq_none_iff.mpr closed]
  rfl

/-- A connection that comes after the close is refused. -/
theorem outline_stepSearch_of_closed (closed : c.session.lifecycle = .closed) {attempt peer : Nat} :
    (c.stepSearch id why (.installing attempt peer)).outline =
      c.outline.put id (.search why (why.afterFailure (.invalidState .closed))) := by
  unfold stepSearch
  dsimp only
  split
  · next session done =>
    obtain ⟨expected, -⟩ := Session.install_eq_ok_iff.mp done
    rw [closed] at expected
    cases why <;> cases expected
  · next e refused =>
    obtain ⟨-, rfl⟩ := Session.install_eq_error refused
    rw [outline_failSearch, outline_modifyPeer, closed]

/-- A search that comes too late is one step nearer to its end after its turn. -/
theorem turnedAway_stepSearch (o : c.outline.Orderly) (closed : c.session.lifecycle = .closed)
    {stage : SearchStage} {left : Nat} (late : stage.IsLate left)
    (live : (id, .search why stage) ∈ c.outline.jobs) (few : n + left ≤ 3) :
    (c.stepSearch id why stage).outline.TurnedAway id why (n + 1) := by
  have put {b : Activity} : (id, b) ∈ (c.outline.put id b).jobs :=
    mem_put.mpr (.inr ⟨rfl, _, live⟩)
  cases late with
  | installing =>
    rw [outline_stepSearch_of_closed closed]
    cases why with
    | first => exact .inr ⟨_, 2, .closing, put, by omega⟩
    | again => exact .inr ⟨_, 1, .leaving, put, by omega⟩
  | closing =>
    unfold stepSearch leaveSearch
    dsimp only
    rw [close?_of_closed closed, outline_become]
    exact .inr ⟨_, 1, .leaving, put, by omega⟩
  | leaving =>
    -- the job ends, and a first search has noted its result before
    exact .inl (ends_endSearch o live _)

end Client

namespace World

variable {settings : Settings} {medium : Medium} {w : World} {id : JobId} {why : Search} {n : Nat}

/-! ## Events after the close -/

/-- In a closed session, whatever can happen does. -/
theorem perform_of_closed (room : w.client.session.correlator.size ≤ mostCalls)
    (closed : w.client.session.lifecycle = .closed) (event : Event) :
    w.perform event = w.occur event :=
  perform_eq room ((follows_occur w event).shuts closed).pending.length_le

theorem shuts_performAll (closed : w.client.session.lifecycle = .closed) (later : List Event) :
    w.client.session.Shuts (w.performAll later).client.session := by
  induction later generalizing w with
  | nil => exact Session.shuts_refl closed
  | cons event rest ih =>
    have first := (follows_perform w event).shuts closed
    exact first.trans (ih first.lifecycle)

/-- Every turn takes a search that comes too late nearer to its end. -/
theorem turnedAway_perform (reached : Outline.Reachable settings medium w.client.outline)
    (room : w.client.session.correlator.size ≤ mostCalls)
    (closed : w.client.session.lifecycle = .closed)
    (t : w.client.outline.TurnedAway id why n) (event : Event) :
    (w.perform event).client.outline.TurnedAway id why
      (n + if event.isTurn id = true then 1 else 0) := by
  have follows := follows_perform w event
  by_cases turn : event.isTurn id = true
  · rw [if_pos turn]
    obtain ⟨heeds, rfl⟩ : ∃ heeds, event = .turn id heeds := by
      cases event with
      | turn other heeds => exact ⟨heeds, by rw [beq_iff_eq.mp turn]⟩
      | _ => cases turn
    rcases t with ⟨ended, noted⟩ | ⟨stage, left, late, live, few⟩
    · exact .inl ⟨follows.hasEnded ended, fun first => follows.mem_results (noted first)⟩
    · rw [perform_of_closed room closed]
      have turns := Client.takeTurn_eq reached.orderly live (late.fixed why) heeds
        fun job same => Client.isReady_of_isLate w.client late same
      show (w.client.takeTurn id heeds).outline.TurnedAway id why (n + 1)
      rw [turns]
      exact Client.turnedAway_stepSearch reached.orderly closed late live few
  · rw [if_neg turn]
    refine t.follows reached.orderly follows ?_
    rintro heeds rfl
    exact turn (Event.isTurn_turn id heeds)

theorem turnedAway_performAll (reached : Outline.Reachable settings medium w.client.outline)
    (room : w.client.session.correlator.size ≤ mostCalls)
    (closed : w.client.session.lifecycle = .closed)
    (t : w.client.outline.TurnedAway id why n) (later : List Event) :
    (w.performAll later).client.outline.TurnedAway id why (n + later.countP (·.isTurn id)) := by
  induction later generalizing w n with
  | nil => exact t
  | cons event rest ih =>
    have first := (follows_perform w event).shuts closed
    have rest' := ih (Outline.reachable_perform reached event)
      (Nat.le_trans first.pending.length_le room) first.lifecycle
      (turnedAway_perform reached room closed t event)
    rw [List.countP_cons, Nat.add_comm (rest.countP _), ← Nat.add_assoc]
    exact rest'

end World

end LspClient
