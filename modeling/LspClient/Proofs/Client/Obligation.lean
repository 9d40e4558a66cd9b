import LspClient.Proofs.Client.Reachable

/-!
# Who has to end the degraded state

A job *owes* something if it has to bring a degraded session to an end of that: it has
reported the loss of the connection and has not yet decided what to do, or is about to
close the session, or it is a search for a new connection that has not come to its end.
`Reachable.owed` says how many such jobs there are: exactly one while the session is
degraded, none while it has a connection or never had one, and at most one that comes too
late after it was closed.
-/

namespace LspClient

/-- Whether a search has neither installed a connection nor closed the session. -/
def SearchStage.isUndecided : SearchStage → Bool
  | .draining _ | .leaving _ => false
  | _ => true

/-- Whether a job has to end the degraded state. -/
def Activity.owes : Activity → Bool
  | .lose _ _ .deciding | .lose _ _ .closing => true
  | .search .again stage => stage.isUndecided
  | _ => false

/-- How many jobs have to end the degraded state. -/
def Lifecycle.Owed : Lifecycle → Nat → Prop
  | .connecting, n | .ready, n => n = 0
  | .degraded, n => n = 1
  | .closed, n => n ≤ 1

theorem Lifecycle.Owed.le_one {l : Lifecycle} {n : Nat} (h : l.Owed n) : n ≤ 1 := by
  cases l with
  | connecting | ready => exact Nat.le_succ_of_le (Nat.le_of_eq h)
  | degraded => exact Nat.le_of_eq h
  | closed => exact h

/-- Unless the session is degraded, a job can be relieved. -/
theorem Lifecycle.Owed.less {l : Lifecycle} {m n : Nat} (h : l.Owed n) (less : m ≤ n)
    (other : l ≠ .degraded) : l.Owed m := by
  cases l with
  | connecting | ready => exact Nat.le_zero.mp (Nat.le_trans less (Nat.le_of_eq h))
  | degraded => exact absurd rfl other
  | closed => exact Nat.le_trans less h

theorem SearchStage.IsBefore.isUndecided {stage : SearchStage} {attempt : Nat}
    (h : stage.IsBefore attempt) : stage.isUndecided = true := by
  cases stage with
  | backingOff | checking => rfl
  | arriving | atGate | starting | opening | installing | closing | draining | leaving => cases h

namespace Outline

variable {settings : Settings} {medium : Medium} {k k' : Outline} {id : JobId} {a b : Activity}

/-- The number of jobs that owe something. -/
def owed (k : Outline) : Nat := k.total fun a => a.owes.toNat

/-! ## Counting them -/

theorem owes_of_isAside (aside : a.isAside = true) : a.owes = false := by
  cases a with
  | lose | search => cases aside
  | _ => rfl

/-- Small changes leave every total alone to which they cannot contribute. -/
theorem Stir.total_eq (h : k.Stir k') (o : k.Orderly) {f : Activity → Nat}
    (aside : ∀ a, a.isAside = true → f a = 0) (first : f (.search .first .arriving) = 0) :
    k'.total f = k.total f := by
  cases h with
  | session | note | serve | letGo | drop => rfl
  | start ha => rw [total_add, aside _ ha, Nat.add_zero]
  | connect => rw [total_add, first, Nat.add_zero]
  | @move _ _ b live ha hb =>
    have exchanged := total_put o live b f
    rw [aside _ ha, aside _ hb] at exchanged
    exact exchanged
  | leave live ha =>
    have ended := total_erase o live f
    rw [aside _ ha] at ended
    exact ended

theorem owes_search {why : Search} {stage next : SearchStage}
    (h : next.isUndecided = stage.isUndecided) :
    (Activity.search why next).owes = (Activity.search why stage).owes := by
  cases why with
  | first => rfl
  | again => exact h

theorem owes_of_decided {why : Search} {stage : SearchStage} (h : stage.isUndecided = false) :
    (Activity.search why stage).owes = false := by
  cases why with
  | first => rfl
  | again => exact h

/-- A move keeps what a job owes; only outside the degraded state it may relieve it. -/
theorem Move.owes (h : k.Move id a b) :
    b.owes = a.owes ∨ (b.owes = false ∧ k.session.lifecycle ≠ .degraded) := by
  cases h with
  | unheard | unsent | written | exhausted | disabled => exact .inl rfl
  | woken | checked | untried | failed => exact .inl (owes_search rfl)
  | passed _ _ before | retried _ before => exact .inl (owes_search before.isUndecided)
  | @refused why _ other | @outdated why _ other | @declined why _ _ other =>
    cases why with
    | first => exact .inl rfl
    | again => exact .inr ⟨rfl, other⟩
  | late closed =>
    refine .inr ⟨owes_of_decided rfl, ?_⟩
    rw [closed]
    nofun

theorem Stir.owed_eq (h : k.Stir k') (o : k.Orderly) : k'.owed = k.owed :=
  h.total_eq o (fun _ aside => by rw [owes_of_isAside aside]; rfl) rfl

/-- Whoever deserts owes nothing, unless he comes too late. -/
theorem Deserts.owes {outbox? : Option Nat} (h : k.Deserts a outbox?) :
    a.owes = false ∨ k.session.lifecycle = .closed := by
  cases h with
  | unknown | unconnected | unneeded | finished | ignored => exact .inl rfl
  | late closed => exact .inr closed

theorem Closes.relieves (h : Closes a b) : b.owes = false := by
  cases h with
  | search => exact owes_of_decided rfl
  | loss | shutdown => rfl

theorem Drains.owes (h : Drains a b) : b.owes = a.owes := by
  cases h with
  | search => exact owes_search rfl
  | shutdown => rfl

/-- Every shift leaves as many jobs in charge as the state that it leads to asks for. -/
theorem Shift.owed (h : k.Shift id a k') (o : k.Orderly) (live : (id, a) ∈ k.jobs)
    (before : k.session.lifecycle.Owed k.owed) : k'.session.lifecycle.Owed k'.owed := by
  have put (b : Activity) : (k.put id b).owed + a.owes.toNat = k.owed + b.owes.toNat :=
    total_put o live b _
  have erase : (k.erase id).owed + a.owes.toNat = k.owed := total_erase o live _
  -- the job goes on owing what it owed
  have same {b : Activity} (owes : b.owes = a.owes) :
      k.session.lifecycle.Owed (k.put id b).owed := by
    have exchanged := put b
    rw [owes] at exchanged
    rw [Nat.add_right_cancel exchanged]
    exact before
  -- the job ends and did not owe anything
  have ended (owes : a.owes = false) : k.session.lifecycle.Owed (k.erase id).owed := by
    rw [owes] at erase
    rw [show (k.erase id).owed = k.owed from erase]
    exact before
  cases h with
  | @move _ b step =>
    rcases step.owes with owes | ⟨relieved, other⟩
    · exact same owes
    · have exchanged := put b
      rw [relieved] at exchanged
      exact before.less (Nat.le.intro exchanged) other
  | @desert _ outbox? deserts =>
    show (k.session.unman outbox?).lifecycle.Owed (k.erase id).owed
    rw [Session.unman_eq]
    rcases deserts.owes with owes | closed
    · exact ended owes
    · refine before.less (Nat.le.intro erase) ?_
      rw [closed]
      nofun
  | take => exact same rfl
  | @degrade generation outbox? s lost =>
    -- nobody owed anything before, and the job that has reported the loss does from now on
    obtain ⟨-, ready, rfl⟩ := Session.reportLoss?_eq_some_iff.mp lost
    rw [ready] at before
    have exchanged := put (.lose generation outbox? .deciding)
    rw [show k.owed = 0 from before] at exchanged
    exact exchanged
  | @recover generation outbox? =>
    -- the job ends, and the search that it starts owes in its place
    have added : (k.add (.search .again .arriving)).owed = k.owed + 1 := total_add _
    have gone : ((k.add (.search .again .arriving)).erase id).owed + 1 =
        (k.add (.search .again .arriving)).owed :=
      total_erase (o.add _) (mem_add.mpr (.inl live)) _
    show (k.session.unman outbox?).lifecycle.Owed
      ((k.add (.search .again .arriving)).erase id).owed
    rw [Session.unman_eq, Nat.add_right_cancel (gone.trans added)]
    exact before
  | @close _ b s closes closed =>
    -- of a closed session nobody needs to take care
    obtain ⟨-, rfl⟩ := Session.close?_eq_some_iff.mp closed
    have exchanged := put b
    rw [closes.relieves] at exchanged
    exact Nat.le_trans (Nat.le.intro exchanged) before.le_one
  | drain drains => exact same drains.owes
  | @drainLoss generation outbox? =>
    show (k.session.drain.unman outbox?).lifecycle.Owed (k.erase id).owed
    rw [Session.unman_eq]
    exact ended rfl
  | enter | queue | «open» | accept => exact same (owes_search rfl)
  | @install why attempt peer s done =>
    obtain ⟨expected, rfl⟩ := Session.install_eq_ok_iff.mp done
    -- a later search has done what the state had asked of it
    have exchanged : Outline.owed _ + (Activity.search why (.installing attempt peer)).owes.toNat =
        k.owed + 0 + 0 + (Activity.search why (.leaving none)).owes.toNat :=
      total_add_add_put o live (.read peer (k.session.generation + 1))
        (.write peer (k.session.generation + 1) k.session.outboxes.length .idle) _ _
    rw [expected] at before
    cases why with
    | first => exact exchanged.trans before
    | again => exact Nat.succ.inj (exchanged.trans before)
  | report | leave | giveUpGate =>
    show k.openGate.session.lifecycle.Owed (k.openGate.erase id).owed
    have gone : (k.openGate.erase id).owed = (k.erase id).owed :=
      total_congr (jobs_erase_openGate k id) _
    rw [session_openGate, gone]
    exact ended rfl
  | giveUpPlace => exact ended rfl

theorem Reachable.owed (h : Reachable settings medium k) :
    k.session.lifecycle.Owed k.owed := by
  induction h with
  | start => rfl
  | stir reached stir ih =>
    rw [stir.same_state.1, stir.owed_eq reached.orderly]
    exact ih
  | shift reached live shift ih => exact shift.owed reached.orderly live ih

/-- A ready session has nobody who owes anything. -/
theorem Reachable.not_ready_of_owes (h : Reachable settings medium k)
    (live : (id, a) ∈ k.jobs) (owes : a.owes = true) : k.session.lifecycle ≠ .ready := by
  intro ready
  have one : a.owes.toNat ≤ k.owed := le_total h.orderly live fun a => a.owes.toNat
  have none : k.owed = 0 := by
    have owed := h.owed
    rwa [ready] at owed
  rw [owes, none] at one
  cases one

/-- In a degraded session some job does. -/
theorem Reachable.exists_owes (h : Reachable settings medium k)
    (degraded : k.session.lifecycle = .degraded) : ∃ j ∈ k.jobs, j.2.owes = true := by
  have one : k.owed = 1 := by
    have owed := h.owed
    rwa [degraded] at owed
  obtain ⟨j, hj, counts⟩ :=
    exists_of_total_pos (show 0 < k.owed by rw [one]; exact Nat.one_pos)
  refine ⟨j, hj, ?_⟩
  by_contra none
  rw [Bool.not_eq_true] at none
  rw [show j.2.owes.toNat = 0 by rw [none]; rfl] at counts
  exact Nat.lt_irrefl 0 counts

/-- No two jobs owe something. -/
theorem Reachable.owes_unique (h : Reachable settings medium k) {other : JobId}
    (ha : (id, a) ∈ k.jobs) (hb : (other, b) ∈ k.jobs) (owesA : a.owes = true)
    (owesB : b.owes = true) : other = id := by
  by_contra apart
  have two := add_le_total h.orderly ha hb apart fun a => a.owes.toNat
  have one : k.owed ≤ 1 := h.owed.le_one
  rw [owesA, owesB] at two
  exact absurd (Nat.le_trans two one) (by decide)

end Outline

end LspClient
