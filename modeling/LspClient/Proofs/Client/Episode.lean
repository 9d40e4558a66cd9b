import LspClient.Proofs.Client.Obligation
import LspClient.Proofs.Client.Starting

/-!
# What a degraded session may spend

While a session is degraded, the one job that owes it an end also carries the attempts to
connect that are left. `Shift.spends`: whatever happens, the attempts made and the attempts
left never grow in sum, so every attempt is paid for. `Reachable.opensLeft_le`: there are
never more attempts left than the settings allow. So a degraded session makes no more attempts
than that until it has a connection again (`World.attempts_le`). Its close does not end the
count, since an attempt that was checked before may start after it.

`Permitted` is the invariant behind it: what a job does is permitted by the settings, and
the numbers of its attempts are among those that they allow.
-/

namespace LspClient

/-- Whether the next attempt of a search is one that it may make. -/
def SearchStage.Permitted (attempts : Nat) : SearchStage → Prop
  | .backingOff n _ | .checking n | .starting n => 1 ≤ n ∧ n ≤ attempts
  | _ => True

/-- Whether the settings let a job do what it does. -/
def Activity.Permitted (settings : Settings) : Activity → Prop
  | .lose _ _ .closing => settings.maxReconnectAttempts = 0
  | .search why stage => (why = .again → settings.maxReconnectAttempts ≠ 0) ∧
      stage.Permitted (why.attempts settings)
  | _ => True

/-- How many attempts a search has left, of so many that it may make. -/
def SearchStage.opensLeft (most : Nat) : SearchStage → Nat
  | .arriving | .atGate => most
  | .backingOff n _ | .checking n | .starting n => most - (n - 1)
  | .opening n .. | .installing n _ => most - n
  | .closing _ | .draining _ | .leaving _ => 0

/-- How many attempts a job has left that owes an end to the degraded state. -/
def Activity.opensLeft (most : Nat) : Activity → Nat
  | .lose _ _ .deciding => most
  | .search .again stage => stage.opensLeft most
  | _ => 0

theorem Search.one_le_attempts {settings : Settings} {why : Search}
    (h : why = .again → settings.maxReconnectAttempts ≠ 0) : 1 ≤ why.attempts settings := by
  cases why with
  | first =>
    show 1 ≤ min (settings.maxReconnectAttempts.toNat + 1) (2 ^ 32 - 1)
    omega
  | again =>
    refine Nat.one_le_iff_ne_zero.mpr fun zero => h rfl ?_
    exact UInt32.toNat_inj.mp zero

theorem SearchStage.IsBefore.permitted {stage : SearchStage} {attempt attempts : Nat}
    (before : stage.IsBefore attempt) (first : 1 ≤ attempt) (last : attempt ≤ attempts) :
    stage.Permitted attempts := by
  cases stage with
  | backingOff | checking =>
    cases before
    exact ⟨first, last⟩
  | _ => cases before

theorem SearchStage.IsBefore.opensLeft_eq {stage : SearchStage} {attempt : Nat}
    (before : stage.IsBefore attempt) (most : Nat) :
    stage.opensLeft most = most - (attempt - 1) := by
  cases stage with
  | backingOff | checking =>
    cases before
    rfl
  | _ => cases before

namespace Outline

variable {settings : Settings} {medium : Medium} {k k' : Outline} {id : JobId} {a b : Activity}
  {most : Nat}

/-! ## Permissions -/

theorem permitted_of_isAside (aside : a.isAside = true) : a.Permitted settings := by
  cases a with
  | lose | search => cases aside
  | _ => trivial

theorem Stir.permitted (h : k.Stir k') (all : ∀ j ∈ k.jobs, j.2.Permitted settings) :
    ∀ j ∈ k'.jobs, j.2.Permitted settings := by
  intro j hj
  rcases h.mem_cases hj with old | aside | first
  · exact all j old
  · exact permitted_of_isAside aside
  · rw [first]
    exact ⟨nofun, trivial⟩

theorem Move.permitted (h : k.Move id a b) (before : a.Permitted k.session.settings) :
    b.Permitted k.session.settings := by
  cases h with
  | unheard | unsent | written | exhausted => trivial
  | disabled none => exact none
  | passed _ _ ahead =>
    exact ⟨before.1, ahead.permitted (Nat.le_refl _) (Search.one_le_attempts before.1)⟩
  | woken | checked => exact before
  | retried more ahead => exact ⟨before.1, ahead.permitted (Nat.le_add_left ..) more⟩
  | untried | refused | failed | late => exact ⟨before.1, trivial⟩
  | @outdated why | @declined why => exact ⟨before.1, by cases why <;> trivial⟩

theorem Yields.permitted (h : Yields k k' id a b) (before : a.Permitted k.session.settings) :
    b.Permitted k.session.settings := by
  cases h with
  | move step => exact step.permitted before
  | take | degrade => trivial
  | close closes =>
    cases closes with
    | loss | shutdown => trivial
    | search => exact ⟨before.1, trivial⟩
  | drain drains =>
    cases drains with
    | search => exact ⟨before.1, trivial⟩
    | shutdown => trivial
  | arrive | «open» | accept | install => exact ⟨before.1, trivial⟩

theorem Begins.permitted (h : Begins k k' a b) : b.Permitted k.session.settings := by
  cases h with
  | recover some => exact ⟨fun _ => some, trivial⟩
  | read | write => trivial

theorem Shift.permitted (h : k.Shift id a k') (live : (id, a) ∈ k.jobs)
    (all : ∀ j ∈ k.jobs, j.2.Permitted k.session.settings) :
    ∀ j ∈ k'.jobs, j.2.Permitted k.session.settings := by
  intro j hj
  rcases h.mem_cases hj with ⟨old, -⟩ | ⟨-, yields⟩ | begins
  · exact all j old
  · exact yields.permitted (all _ live)
  · exact begins.permitted

theorem Reachable.permitted (h : Reachable settings medium k) :
    ∀ j ∈ k.jobs, j.2.Permitted settings := by
  induction h with
  | start => exact fun _ hj => absurd hj List.not_mem_nil
  | stir _ stir ih => exact stir.permitted ih
  | shift reached live shift ih =>
    rw [← reached.settings_eq] at ih ⊢
    exact shift.permitted live ih

/-! ## Attempts -/

/-- The attempts left in an episode. -/
def opensLeft (k : Outline) (most : Nat) : Nat := k.total (Activity.opensLeft most)

theorem opensLeft_of_isAside (aside : a.isAside = true) : a.opensLeft most = 0 := by
  cases a with
  | lose | search => cases aside
  | _ => rfl

theorem Stir.opensLeft_eq (h : k.Stir k') (o : k.Orderly) (most : Nat) :
    k'.opensLeft most = k.opensLeft most :=
  h.total_eq o (fun _ aside => opensLeft_of_isAside aside) rfl

theorem Stir.attempts_eq (h : k.Stir k') : k'.attempts = k.attempts := by
  cases h <;> rfl

/-- Only who owes something has attempts left, and never more than are allowed. -/
theorem opensLeft_le_owes (most : Nat) (a : Activity) :
    a.opensLeft most ≤ most * a.owes.toNat := by
  cases a with
  | lose generation outbox? stage =>
    cases stage with
    | deciding => exact Nat.le_of_eq (Nat.mul_one most).symm
    | reporting | closing | draining => exact Nat.zero_le _
  | search why stage =>
    cases why with
    | first => exact Nat.zero_le _
    | again =>
      cases stage with
      | arriving | atGate => exact Nat.le_of_eq (Nat.mul_one most).symm
      | backingOff | checking | starting | opening | installing =>
        exact Nat.le_trans (Nat.sub_le ..) (Nat.le_of_eq (Nat.mul_one most).symm)
      | closing | draining | leaving => exact Nat.zero_le _
  | _ => exact Nat.zero_le _

theorem Reachable.opensLeft_le (h : Reachable settings medium k) (most : Nat) :
    k.opensLeft most ≤ most :=
  calc
    k.opensLeft most ≤ most * k.owed := total_le_mul (opensLeft_le_owes most) k
    _ ≤ most * 1 := Nat.mul_le_mul_left most h.owed.le_one
    _ = most := Nat.mul_one most

/-- A move that makes no attempt does not add to those that are left. -/
theorem Move.opensLeft_le (h : k.Move id a b) (most : Nat) :
    b.opensLeft most ≤ a.opensLeft most := by
  have search {why : Search} {stage next : SearchStage}
      (less : next.opensLeft most ≤ stage.opensLeft most) :
      (Activity.search why next).opensLeft most ≤ (Activity.search why stage).opensLeft most := by
    cases why with
    | first => exact Nat.le_refl _
    | again => exact less
  cases h with
  | unheard | unsent | written | exhausted => exact Nat.le_refl _
  | disabled => exact Nat.zero_le _
  | passed _ _ before =>
    refine search ?_
    rw [before.opensLeft_eq]
    exact Nat.sub_le ..
  | woken | checked => exact search (Nat.le_refl _)
  | retried _ before =>
    refine search ?_
    rw [before.opensLeft_eq, Nat.add_sub_cancel]
    exact Nat.le_refl _
  | untried | refused | failed | late => exact search (Nat.zero_le _)
  | @outdated why | @declined why => cases why <;> exact search (Nat.zero_le _)

@[simp] theorem attempts_openGate (k : Outline) : k.openGate.attempts = k.attempts := by
  unfold openGate
  split <;> rfl

/-- An attempt is made by a search that is about to do so. -/
theorem Shift.attempts_cases (h : k.Shift id a k') : k'.attempts = k.attempts ∨
    ∃ why attempt, a = .search why (.starting attempt) := by
  cases h with
  | «open» => exact .inr ⟨_, _, rfl⟩
  | report | leave | giveUpGate => exact .inl (attempts_openGate k)
  | _ => exact .inl rfl

theorem Stirs.attempts_eq (h : k.Stirs k') : k'.attempts = k.attempts := by
  induction h with
  | refl => rfl
  | tail _ last ih => exact last.attempts_eq.trans ih

theorem Follows.attempts_cases {event : Event} (h : k.Follows event k') :
    k'.attempts = k.attempts ∨ ∃ id heeds why attempt, event = .turn id heeds ∧
      (id, .search why (.starting attempt)) ∈ k.jobs := by
  rcases h with stirs | ⟨id, heeds, a, m, turn, live, shift, stirs⟩
  · exact .inl stirs.attempts_eq
  · rcases shift.attempts_cases with same | ⟨why, attempt, rfl⟩
    · exact .inl (stirs.attempts_eq.trans same)
    · exact .inr ⟨id, heeds, why, attempt, turn, live⟩

/-- Whether the session has lost its connection and found no other: it is degraded, or it was
closed since, and no first search is about to start an attempt. -/
structure IsLost (k : Outline) : Prop where
  state : k.session.lifecycle = .degraded ∨ k.session.lifecycle = .closed
  later : ∀ id attempt, (id, .search .first (.starting attempt)) ∉ k.jobs

theorem IsLost.not_ready (lost : k.IsLost) : k.session.lifecycle ≠ .ready := by
  intro ready
  rcases lost.state with state | state <;> rw [ready] at state <;> cases state

theorem Reachable.isLost (h : Reachable settings medium k)
    (degraded : k.session.lifecycle = .degraded) : k.IsLost where
  state := .inl degraded
  later id attempt live := by
    have state := h.state_of_starting live
    rw [degraded] at state
    rcases state with state | state <;> cases state

/-- Only a new connection ends that. -/
theorem IsLost.follows {event : Event} (lost : k.IsLost) (h : k.Follows event k')
    (after : k'.session.lifecycle ≠ .ready) : k'.IsLost where
  state := by
    cases h.advance with
    | stays same =>
      rw [same]
      exact lost.state
    | closes _ closed => exact .inr closed
    | opens _ ready => exact absurd ready after
    | loses ready => exact absurd ready lost.not_ready
  later id attempt live := by
    rcases h.starting_cases live with old | ⟨-, -, -, expected, -⟩
    · exact lost.later id attempt old
    · have state := lost.state
      rw [expected] at state
      rcases state with state | state <;> cases state

/-- As long as the session has no connection again, the attempts made and the attempts left do
not grow in sum. -/
theorem Shift.spends (h : k.Shift id a k') (o : k.Orderly) (live : (id, a) ∈ k.jobs)
    (permitted : a.Permitted k.session.settings) (lost : k.IsLost)
    (after : k'.session.lifecycle ≠ .ready)
    (hmost : most = k.session.settings.maxReconnectAttempts.toNat) :
    k'.attempts + k'.opensLeft most ≤ k.attempts + k.opensLeft most := by
  have put (b : Activity) :
      (k.put id b).opensLeft most + a.opensLeft most = k.opensLeft most + b.opensLeft most :=
    total_put o live b _
  have erase : (k.erase id).opensLeft most + a.opensLeft most = k.opensLeft most :=
    total_erase o live _
  have same {b : Activity} (less : b.opensLeft most ≤ a.opensLeft most) :
      k.attempts + (k.put id b).opensLeft most ≤ k.attempts + k.opensLeft most := by
    have := put b
    omega
  have ended : k.attempts + (k.erase id).opensLeft most ≤ k.attempts + k.opensLeft most := by
    omega
  cases h with
  | move step => exact same (step.opensLeft_le most)
  | desert | drainLoss | giveUpPlace => exact ended
  | take => exact same (Nat.le_refl _)
  -- a session without a connection takes in no loss
  | degrade taken =>
    obtain ⟨-, ready, -⟩ := Session.reportLoss?_eq_some_iff.mp taken
    exact absurd ready lost.not_ready
  | @recover generation outbox? =>
    -- the new search may make the attempts that the old job had left
    have added : (k.add (.search .again .arriving)).opensLeft most = k.opensLeft most + most :=
      total_add _
    have gone : ((k.add (.search .again .arriving)).erase id).opensLeft most + most =
        (k.add (.search .again .arriving)).opensLeft most :=
      total_erase (o.add _) (mem_add.mpr (.inl live)) _
    show k.attempts + ((k.add (.search .again .arriving)).erase id).opensLeft most ≤ _
    omega
  | close closes =>
    refine same ?_
    cases closes with
    | @search why => cases why <;> exact Nat.zero_le _
    | loss | shutdown => exact Nat.zero_le _
  | drain drains =>
    refine same ?_
    cases drains with
    | @search why => cases why <;> exact Nat.zero_le _
    | shutdown => exact Nat.le_refl _
  | @enter why | @queue why | @accept why => cases why <;> exact same (Nat.le_refl _)
  | @«open» why attempt deadline resume? =>
    cases why with
    | first => exact absurd live (lost.later id attempt)
    | again =>
      -- the attempt that begins is one of those that were left
      obtain ⟨-, first, last⟩ := permitted
      have last' : attempt ≤ most := by
        rw [hmost]
        exact last
      have exchanged := put (.search .again (.opening attempt (k.attempts + 1) deadline resume?))
      have paid : (Activity.search .again (.starting attempt)).opensLeft most =
          (Activity.search .again
            (.opening attempt (k.attempts + 1) deadline resume?)).opensLeft most + 1 := by
        show most - (attempt - 1) = most - attempt + 1
        omega
      show k.attempts + 1 + (k.put id _).opensLeft most ≤ _
      omega
  | install done =>
    obtain ⟨-, rfl⟩ := Session.install_eq_ok_iff.mp done
    exact absurd rfl after
  | report | leave | giveUpGate =>
    have gone : (k.openGate.erase id).opensLeft most = (k.erase id).opensLeft most :=
      total_congr (jobs_erase_openGate k id) _
    show k.openGate.attempts + (k.openGate.erase id).opensLeft most ≤ _
    rw [attempts_openGate, gone]
    exact ended

theorem Reachable.stirs_same (h : Reachable settings medium k) (stirs : k.Stirs k') :
    k'.session.lifecycle = k.session.lifecycle ∧
      k'.session.generation = k.session.generation ∧ k'.attempts = k.attempts ∧
      ∀ most, k'.opensLeft most = k.opensLeft most := by
  induction stirs with
  | refl => exact ⟨rfl, rfl, rfl, fun _ => rfl⟩
  | tail before last ih =>
    obtain ⟨lifecycle, generation, attempts, left⟩ := ih
    refine ⟨last.same_state.1.trans lifecycle, last.same_state.2.trans generation,
      last.attempts_eq.trans attempts, fun most => ?_⟩
    rw [last.opensLeft_eq (h.stirs before).orderly, left most]

/-- An event that brings no connection spends what it attempts. -/
theorem Reachable.spends {event : Event} (h : Reachable settings medium k)
    (follows : k.Follows event k') (lost : k.IsLost) (after : k'.session.lifecycle ≠ .ready)
    (hmost : most = settings.maxReconnectAttempts.toNat) :
    k'.attempts + k'.opensLeft most ≤ k.attempts + k.opensLeft most := by
  rcases follows with stirs | ⟨id, heeds, a, m, -, live, shift, stirs⟩
  · obtain ⟨-, -, attempts, left⟩ := h.stirs_same stirs
    exact Nat.le_of_eq (by rw [attempts, left])
  · obtain ⟨lifecycle, -, attempts, left⟩ := (h.shift live shift).stirs_same stirs
    rw [attempts, left]
    rw [lifecycle] at after
    refine shift.spends h.orderly live ?_ lost after ?_
    · rw [h.settings_eq]
      exact h.permitted _ live
    · rw [h.settings_eq]
      exact hmost

end Outline

namespace World

/-- Whether the session has no connection after any of these events. It may be closed. -/
def FindsNone (w : World) (events : List Event) : Prop :=
  ∀ n ≤ events.length, (w.performAll (events.take n)).client.session.lifecycle ≠ .ready

/-- A degraded session makes no more attempts than the settings allow until it has a connection
again. -/
theorem attempts_le {settings : Settings} {medium : Medium} {w : World}
    (reached : Outline.Reachable settings medium w.client.outline)
    (degraded : w.client.session.lifecycle = .degraded) {events : List Event}
    (none : w.FindsNone events) :
    (w.performAll events).client.loopback.attempts ≤
      w.client.loopback.attempts + settings.maxReconnectAttempts.toNat := by
  -- the induction carries what is left along with what is made
  suffices spent : ∀ (events : List Event) (w : World),
      Outline.Reachable settings medium w.client.outline → w.client.outline.IsLost →
      w.FindsNone events →
      (w.performAll events).client.outline.attempts ≤ w.client.outline.attempts +
        w.client.outline.opensLeft settings.maxReconnectAttempts.toNat by
    exact Nat.le_trans (spent events w reached (reached.isLost degraded) none)
      (Nat.add_le_add_left (reached.opensLeft_le _) _)
  intro events
  induction events with
  | nil => exact fun w _ _ _ => Nat.le_add_right ..
  | cons event rest ih =>
    intro w reached lost none
    have follows := follows_perform w event
    have after := none 1 (Nat.succ_le_succ (Nat.zero_le _))
    have first := reached.spends follows lost after rfl
    have later := ih (w.perform event) (Outline.reachable_perform reached event)
      (lost.follows follows after) fun n hn => none (n + 1) (Nat.succ_le_succ hn)
    exact Nat.le_trans later first

end World

end LspClient
