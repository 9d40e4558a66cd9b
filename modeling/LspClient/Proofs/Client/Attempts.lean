import LspClient.Proofs.Client.Turns

/-!
# One step of a search

`Client.Proceeds` says where the step of a search leads, and which part of an attempt it is
(`Client.trial?`): after so many attempts the next one follows, at once or after its delay, or
the search has failed with the last error (`Client.Next`). It is proved once for the steps
themselves (`Client.proceeds_stepSearch`). Every step that a search takes brings it nearer to
its end (`Client.Proceeds.nearer`), so that nothing but waiting can keep it from there.
-/

namespace LspClient

open Outline

/-- What a search does that has to do with its attempts. -/
inductive Trial where
  /-- It passes the gate. -/
  | passed
  | began (attempt : Nat)
  | failed (attempt : Nat) (error : ConnectError)
  /-- The attempt has not come to an end in its time. -/
  | hung (attempt : Nat)
  | opened (attempt : Nat)

/-- When an attempt is due that follows at this time: at once, or after its delay. -/
def Settings.attemptDue (settings : Settings) (why : Search) (attempt since : Nat) : Nat :=
  match why.retry attempt with
  | 0 => since
  | retry => Clock.due since (settings.backoffDelay retry)

theorem Settings.le_attemptDue (settings : Settings) (why : Search) (attempt since : Nat) :
    since ≤ settings.attemptDue why attempt since := by
  unfold attemptDue
  split
  · exact Nat.le_refl _
  · exact Clock.le_due ..

/-- How many steps a search takes at most before it has ended. -/
def SearchStage.stepsLeft (attempts : Nat) : SearchStage → Nat
  | .arriving => 4 * attempts + 6
  | .atGate => 4 * attempts + 5
  | .backingOff n _ => 4 * (attempts - n) + 8
  | .checking n => 4 * (attempts - n) + 7
  | .starting n => 4 * (attempts - n) + 6
  | .opening n .. => 4 * (attempts - n) + 5
  | .installing .. => 4
  | .closing _ => 3
  | .draining _ => 2
  | .leaving _ => 1

theorem SearchStage.stepsLeft_pos (stage : SearchStage) (attempts : Nat) :
    0 < stage.stepsLeft attempts := by
  cases stage <;> exact Nat.succ_pos _

theorem Search.stepsLeft_afterFailure (why : Search) (error : SessionError) (attempts : Nat) :
    (why.afterFailure error).stepsLeft attempts ≤ 3 := by
  cases why with
  | first => exact Nat.le_refl _
  | again =>
    cases error with
    | invalidState => exact Nat.le_add_left 1 2
    | connectFailed => exact Nat.le_refl _

namespace Client

/-- What the next step of a search does for its attempts. -/
def trial? (c : Client) (why : Search) : SearchStage → Option Trial
  | .atGate => if c.session.lifecycle = why.state then some .passed else none
  | .starting attempt => some (.began attempt)
  | .opening attempt number _ resume? =>
    if resume?.any (· ≤ c.clock) then
      match (c.loopback.finishOpen number).2 with
      | .ok _ => some (.opened attempt)
      | .error error => some (.failed attempt error)
    else some (.hung attempt)
  | _ => none

/-- Where a search goes on after so many attempts, the last of which has failed like this. -/
inductive Next (c : Client) (why : Search) (made : Nat) (last : ConnectError) :
    SearchStage → Prop
  | delayed (left : made < why.attempts c.session.settings) (some : why.retry (made + 1) ≠ 0) :
      Next c why made last
        (.backingOff (made + 1) (c.session.settings.attemptDue why (made + 1) c.clock))
  | atOnce (left : made < why.attempts c.session.settings)
      (now : c.session.settings.attemptDue why (made + 1) c.clock = c.clock) :
      Next c why made last (.checking (made + 1))
  | enough (all : why.attempts c.session.settings ≤ made) :
      Next c why made last (.closing (.connectFailed (why.attempts c.session.settings) last))

/-- Where the step of a search leads that does not end it, and what it does for the attempts. -/
inductive Proceeds (c : Client) (why : Search) : SearchStage → Option Trial → SearchStage → Prop
  | arrives : Proceeds c why .arriving none .atGate
  | passes {stage : SearchStage} (expected : c.session.lifecycle = why.state)
      (next : c.Next why 0 noAttempt stage) : Proceeds c why .atGate (some .passed) stage
  | refused (other : c.session.lifecycle ≠ why.state) :
      Proceeds c why .atGate none (.leaving (some (.invalidState c.session.lifecycle)))
  | wakes {attempt until_ : Nat} :
      Proceeds c why (.backingOff attempt until_) none (.checking attempt)
  | checks {attempt : Nat} (expected : c.session.lifecycle = why.state) :
      Proceeds c why (.checking attempt) none (.starting attempt)
  | begins {attempt number : Nat} {resume? : Option Nat} :
      Proceeds c why (.starting attempt) (some (.began attempt))
        (.opening attempt number
          (Clock.due c.clock c.session.settings.connectTimeout.toNat) resume?)
  | outdated {attempt : Nat} (other : c.session.lifecycle ≠ why.state) :
      Proceeds c why (.checking attempt) none
        (why.afterFailure (.invalidState c.session.lifecycle))
  | accepted {attempt number deadline peer : Nat} {resume? : Option Nat} :
      Proceeds c why (.opening attempt number deadline resume?) (some (.opened attempt))
        (.installing attempt peer)
  | fails {attempt number deadline : Nat} {resume? : Option Nat} {error : ConnectError}
      {stage : SearchStage} (failed : (c.loopback.finishOpen number).2 = .error error)
      (next : c.Next why attempt error stage) :
      Proceeds c why (.opening attempt number deadline resume?) (some (.failed attempt error))
        stage
  | hangs {attempt number deadline : Nat} {resume? : Option Nat} {stage : SearchStage}
      (nothing : resume?.any (· ≤ c.clock) = false)
      (next : c.Next why attempt (.timedOut c.session.settings.connectTimeout.toNat) stage) :
      Proceeds c why (.opening attempt number deadline resume?) (some (.hung attempt)) stage
  | installs {attempt peer : Nat} (expected : c.session.lifecycle = why.state) :
      Proceeds c why (.installing attempt peer) none (.leaving none)
  | declined {attempt peer : Nat} (other : c.session.lifecycle ≠ why.state) :
      Proceeds c why (.installing attempt peer) none
        (why.afterFailure (.invalidState c.session.lifecycle))
  | closes {error : SessionError} : Proceeds c why (.closing error) none (.draining error)
  | late {error : SessionError} : Proceeds c why (.closing error) none (.leaving (some error))
  | drains {error : SessionError} : Proceeds c why (.draining error) none (.leaving (some error))

variable {c : Client} {id : JobId} {why : Search} {stage next : SearchStage} {made : Nat}
  {last : ConnectError}

theorem mem_put_search {k : Outline} (jobs : (id, .search why stage) ∈ k.jobs)
    (next : SearchStage) : (id, .search why next) ∈ (k.put id (.search why next)).jobs :=
  mem_put.mpr (.inr ⟨rfl, _, jobs⟩)

theorem next_nextAttempt (live : (id, .search why stage) ∈ c.outline.jobs) (made : Nat)
    (last : ConnectError) : ∃ next, c.Next why made last next ∧
      (id, .search why next) ∈ (c.nextAttempt id why made last).outline.jobs := by
  unfold nextAttempt
  dsimp only
  by_cases left : made < why.attempts c.session.settings
  · rw [if_pos left]
    unfold toAttempt
    split
    · next now =>
      refine ⟨_, .atOnce left ?_, ?_⟩
      · unfold Settings.attemptDue
        rw [now]
        rfl
      · rw [outline_become]
        exact mem_put_search live _
    · next some =>
      refine ⟨_, .delayed left some, ?_⟩
      unfold Settings.attemptDue
      rw [outline_become]
      split
      · next now => exact absurd now some
      · exact mem_put_search live _
  · rw [if_neg left, outline_failSearch]
    refine ⟨_, .enough (Nat.le_of_not_lt left), ?_⟩
    have same : why.afterFailure (.connectFailed (why.attempts c.session.settings) last) =
        .closing (.connectFailed (why.attempts c.session.settings) last) := by
      cases why <;> rfl
    rw [same]
    exact mem_put_search live _

theorem next_failAttempt (live : (id, .search why stage) ∈ c.outline.jobs) (attempt : Nat)
    (error : ConnectError) : ∃ next, c.Next why attempt error next ∧
      (id, .search why next) ∈ (c.failAttempt id why attempt error).outline.jobs := by
  obtain ⟨next, goesOn, put⟩ := next_nextAttempt (c := c.log _) live attempt error
  refine ⟨next, ?_, put⟩
  cases goesOn with
  | delayed left some => exact .delayed left some
  | atOnce left now => exact .atOnce left now
  | enough all => exact .enough all

/-- An attempt that goes on comes to a connection or fails, and one that does not go on in its
time has failed. -/
theorem proceeds_opening {attempt number deadline : Nat} {resume? : Option Nat}
    (live : (id, .search why (.opening attempt number deadline resume?)) ∈ c.outline.jobs) :
    ∃ next, c.Proceeds why (.opening attempt number deadline resume?)
        (c.trial? why (.opening attempt number deadline resume?)) next ∧
      (id, .search why next) ∈
        (c.stepSearch id why (.opening attempt number deadline resume?)).outline.jobs := by
  unfold stepSearch trial?
  dsimp only
  cases resumes : resume?.any (· ≤ c.clock) with
  | false =>
    rw [if_neg Bool.false_ne_true, if_neg Bool.false_ne_true]
    obtain ⟨next, follows, jobs⟩ := next_failAttempt live attempt _
    exact ⟨next, .hangs resumes follows, jobs⟩
  | true =>
    rw [if_pos rfl, if_pos rfl]
    cases finished : c.loopback.finishOpen number with
    | mk loopback result =>
      cases result with
      | ok peer =>
        dsimp only
        refine ⟨.installing attempt peer, .accepted, ?_⟩
        rw [outline_become]
        exact mem_put_search live _
      | error error =>
        dsimp only
        have same := outline_of_refused finished
        obtain ⟨next, follows, jobs⟩ :=
          next_failAttempt (c := { c with loopback }) (by rw [same]; exact live) attempt error
        refine ⟨next, .fails (by rw [finished]) ?_, jobs⟩
        cases follows with
        | delayed left some => exact .delayed left some
        | atOnce left now => exact .atOnce left now
        | enough all => exact .enough all

theorem proceeds_installing {attempt peer : Nat}
    (live : (id, .search why (.installing attempt peer)) ∈ c.outline.jobs) :
    ∃ next, c.Proceeds why (.installing attempt peer)
        (c.trial? why (.installing attempt peer)) next ∧
      (id, .search why next) ∈
        (c.stepSearch id why (.installing attempt peer)).outline.jobs := by
  unfold stepSearch trial?
  dsimp only
  cases installed : c.session.install why.state c.nextJob (c.nextJob + 1) with
  | ok session =>
    refine ⟨_, .installs (Session.install_eq_ok_iff.mp installed).1, ?_⟩
    unfold leaveSearch
    rw [outline_become, outline_spawn, outline_spawn]
    exact mem_put_search (mem_add.mpr (.inl (mem_add.mpr (.inl live)))) _
  | error e =>
    obtain ⟨other, rfl⟩ := Session.install_eq_error installed
    dsimp only
    rw [outline_failSearch, outline_modifyPeer]
    exact ⟨_, .declined other, mem_put_search live _⟩

/-- **What the step of a search does.** Unless it is over already, it goes on like this. -/
theorem proceeds_stepSearch (live : (id, .search why stage) ∈ c.outline.jobs)
    (goesOn : ∀ error?, stage ≠ .leaving error?) :
    ∃ next, c.Proceeds why stage (c.trial? why stage) next ∧
      (id, .search why next) ∈ (c.stepSearch id why stage).outline.jobs := by
  cases stage with
  | arriving =>
    unfold stepSearch trial?
    refine ⟨_, .arrives, ?_⟩
    dsimp only
    split
    · rw [outline_become]
      exact mem_put_search live _
    · rw [outline_become]
      exact mem_put_search live _
  | atGate =>
    unfold stepSearch trial?
    dsimp only
    by_cases expected : c.session.lifecycle = why.state
    · rw [if_pos expected, if_pos expected]
      obtain ⟨next, follows, jobs⟩ := next_nextAttempt live 0 noAttempt
      exact ⟨next, .passes expected follows, jobs⟩
    · rw [if_neg expected, if_neg expected]
      refine ⟨_, .refused expected, ?_⟩
      unfold leaveSearch
      rw [outline_become]
      exact mem_put_search live _
  | backingOff attempt until_ =>
    unfold stepSearch trial?
    refine ⟨_, .wakes, ?_⟩
    dsimp only
    rw [outline_become]
    exact mem_put_search live _
  | checking attempt =>
    unfold stepSearch trial?
    dsimp only
    by_cases expected : c.session.lifecycle = why.state
    · rw [if_pos expected, outline_become]
      exact ⟨_, .checks expected, mem_put_search live _⟩
    · rw [if_neg expected, outline_failSearch]
      exact ⟨_, .outdated expected, mem_put_search live _⟩
  | starting attempt =>
    unfold stepSearch trial?
    refine ⟨.opening attempt (c.loopback.beginOpen c.clock).1.attempts
      (Clock.due c.clock c.session.settings.connectTimeout.toNat)
      (c.loopback.beginOpen c.clock).2, .begins, ?_⟩
    dsimp only
    rw [outline_become]
    exact mem_put_search live _
  | opening => exact proceeds_opening live
  | installing => exact proceeds_installing live
  | closing error =>
    unfold stepSearch trial?
    dsimp only
    cases closes : c.close? with
    | none =>
      refine ⟨_, .late, ?_⟩
      unfold leaveSearch
      rw [outline_become]
      exact mem_put_search live _
    | some both =>
      obtain ⟨closed, writer?⟩ := both
      obtain ⟨s, -, same⟩ := outline_close? closes
      refine ⟨_, .closes, ?_⟩
      dsimp only
      rw [outline_become, same]
      exact mem_put_search live _
  | draining error =>
    unfold stepSearch leaveSearch
    refine ⟨_, .drains, ?_⟩
    dsimp only
    rw [outline_become]
    exact mem_put_search live _
  | leaving error? => exact absurd rfl (goesOn error?)

/-- A search that is over has ended, and a first one has told its result. -/
theorem leaves_stepSearch (o : c.outline.Orderly) {error? : Option SessionError}
    (live : (id, .search why (.leaving error?)) ∈ c.outline.jobs) :
    (c.stepSearch id why (.leaving error?)).outline.HasEnded id ∧
      (why = .first → (id, .connected (Search.result error?)) ∈
        (c.stepSearch id why (.leaving error?)).outline.results) := by
  unfold stepSearch
  exact ends_endSearch o live error?

/-! ## Nearer to the end -/

theorem Next.nearer {attempts : Nat} (h : c.Next why made last next)
    (bound : why.attempts c.session.settings = attempts) :
    next.stepsLeft attempts < 4 * (attempts - made) + 5 := by
  cases h with
  | delayed left =>
    rw [bound] at left
    unfold SearchStage.stepsLeft
    dsimp only
    omega
  | atOnce left =>
    rw [bound] at left
    unfold SearchStage.stepsLeft
    dsimp only
    omega
  | enough =>
    unfold SearchStage.stepsLeft
    dsimp only
    omega

/-- Every step takes a search nearer to its end. -/
theorem Proceeds.nearer {trial? : Option Trial} (h : c.Proceeds why stage trial? next) :
    next.stepsLeft (why.attempts c.session.settings) <
      stage.stepsLeft (why.attempts c.session.settings) := by
  generalize bound : why.attempts c.session.settings = attempts
  have failure := why.stepsLeft_afterFailure (.invalidState c.session.lifecycle) attempts
  cases h with
  | passes _ follows =>
    have less := follows.nearer bound
    unfold SearchStage.stepsLeft at less ⊢
    dsimp only at less ⊢
    omega
  | fails _ follows | hangs _ follows => exact follows.nearer bound
  | outdated =>
    refine Nat.lt_of_le_of_lt failure ?_
    unfold SearchStage.stepsLeft
    dsimp only
    omega
  | declined => exact Nat.lt_of_le_of_lt failure (Nat.lt_succ_self 3)
  | refused | accepted =>
    unfold SearchStage.stepsLeft
    dsimp only
    omega
  | arrives | wakes | checks | begins | installs | closes | late | drains =>
    unfold SearchStage.stepsLeft
    dsimp only
    omega

end Client

end LspClient
