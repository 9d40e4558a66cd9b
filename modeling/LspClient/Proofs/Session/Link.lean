import LspClient.Client.Activity
import LspClient.Proofs.Session.Quiet

/-!
# Installing, losing and closing a connection

One lemma for each operation that changes the connection says when it happens and which
session comes out. The outboxes are described by the place: only the current one is ever
touched, and it is touched exactly when the session lets go of it.
-/

namespace LspClient.Session

variable {s t : Session}

/-! ## Losing -/

/-- The outboxes after the session has let go of the current one. -/
def sealedBoxes (s : Session) : List Outbox :=
  match s.outbox? with
  | none => s.outboxes
  | some index => s.outboxes.modify index fun o => { o with isSealed := true }

theorem sealOutbox_eq (s : Session) :
    s.sealOutbox = { s with outboxes := s.sealedBoxes, outbox? := none } := by
  unfold sealOutbox sealedBoxes
  cases s with
  | mk settings endpoint lifecycle generation outbox? =>
    cases outbox? <;> rfl

@[simp] theorem length_sealedBoxes (s : Session) : s.sealedBoxes.length = s.outboxes.length := by
  unfold sealedBoxes
  split
  · rfl
  · exact List.length_modify ..

theorem canMoveTo_degraded_iff (l : Lifecycle) : l.canMoveTo .degraded = true ↔ l = .ready := by
  cases l <;> decide

private theorem lost_eq (s : Session) :
    { sealOutbox { s with lifecycle := .degraded } with reader? := none, writer? := none } =
      { s with
        lifecycle := .degraded, outboxes := s.sealedBoxes, outbox? := none
        reader? := none, writer? := none } := by
  rw [sealOutbox_eq]
  rfl

/-- A loss is taken in exactly if it is about the current connection of a ready session. -/
theorem reportLoss?_eq_some_iff {generation : Nat} :
    s.reportLoss? generation = some t ↔ s.generation = generation ∧ s.lifecycle = .ready ∧
      t = { s with
        lifecycle := .degraded, outboxes := s.sealedBoxes, outbox? := none
        reader? := none, writer? := none } := by
  unfold reportLoss? moveTo?
  constructor
  · intro h
    split at h
    · next current =>
      split at h
      · next may =>
        cases h
        exact ⟨current, (canMoveTo_degraded_iff _).mp may, lost_eq s⟩
      · cases h
    · cases h
  · rintro ⟨current, ready, rfl⟩
    rw [if_pos current, if_pos ((canMoveTo_degraded_iff _).mpr ready)]
    exact congrArg some (lost_eq s)

theorem reportLoss?_eq_none_iff {generation : Nat} :
    s.reportLoss? generation = none ↔ s.generation ≠ generation ∨ s.lifecycle ≠ .ready := by
  rw [Option.eq_none_iff_forall_ne_some]
  constructor
  · intro h
    by_contra hnot
    rw [not_or, not_not, not_not] at hnot
    exact h _ (reportLoss?_eq_some_iff.mpr ⟨hnot.1, hnot.2, rfl⟩)
  · intro h t ht
    obtain ⟨current, ready, -⟩ := reportLoss?_eq_some_iff.mp ht
    rcases h with stale | notReady
    · exact stale current
    · exact notReady ready

/-! ## Closing -/

/-- The outboxes after the session was closed: the current one ends with the command that
stops its writer. -/
def stoppedBoxes (s : Session) : List Outbox :=
  match s.outbox? with
  | none => s.outboxes
  | some index =>
    s.outboxes.modify index fun o =>
      { o with commands := o.commands ++ [.stop], isSealed := true }

@[simp] theorem length_stoppedBoxes (s : Session) :
    s.stoppedBoxes.length = s.outboxes.length := by
  unfold stoppedBoxes
  split
  · rfl
  · exact List.length_modify ..

private theorem closed_eq (s : Session) :
    { sealOutbox (stopWriter { s with lifecycle := .closed }) with
      generation := s.generation + 1, reader? := none, writer? := none } =
      { s with
        lifecycle := .closed, generation := s.generation + 1
        outboxes := s.stoppedBoxes, outbox? := none, reader? := none, writer? := none } := by
  cases s with
  | mk settings endpoint lifecycle generation outbox? =>
    cases outbox? with
    | none => rfl
    | some index =>
      unfold stopWriter sealOutbox stoppedBoxes enqueue modifyOutbox
      dsimp only
      rw [List.modify_modify_eq]
      rfl

/-- A session can be closed exactly once. -/
theorem close?_eq_some_iff :
    s.close? = some t ↔ s.lifecycle ≠ .closed ∧
      t = { s with
        lifecycle := .closed, generation := s.generation + 1
        outboxes := s.stoppedBoxes, outbox? := none, reader? := none, writer? := none } := by
  unfold close? moveTo?
  constructor
  · intro h
    split at h
    · next may =>
      cases h
      exact ⟨(Lifecycle.canMoveTo_closed_iff _).mp may, closed_eq s⟩
    · cases h
  · rintro ⟨opened, rfl⟩
    rw [if_pos ((Lifecycle.canMoveTo_closed_iff _).mpr opened)]
    exact congrArg some (closed_eq s)

theorem close?_eq_none_iff : s.close? = none ↔ s.lifecycle = .closed := by
  rw [Option.eq_none_iff_forall_ne_some]
  constructor
  · intro h
    by_contra opened
    exact h _ (close?_eq_some_iff.mpr ⟨opened, rfl⟩)
  · intro closed t ht
    exact (close?_eq_some_iff.mp ht).1 closed

/-! ## Installing -/

private theorem installed_eq (s : Session) {why : Search} (expected : s.lifecycle = why.state)
    (reader writer : JobId) :
    s.install why.state reader writer = .ok { s with
      lifecycle := .ready, generation := s.generation + 1
      outbox? := some s.outboxes.length, reader? := some reader, writer? := some writer
      outboxes := s.outboxes ++ [{}] } := by
  have may : s.lifecycle.canMoveTo .ready = true := by
    rw [expected]
    cases why <;> rfl
  unfold install
  rw [if_pos expected]
  unfold moveTo?
  simp only [may, if_true, Option.getD_some]

/-- A connection is installed exactly in the state from which it was looked for; only from
`connecting` and `degraded` are connections looked for. -/
theorem install_eq_ok_iff {why : Search} {reader writer : JobId} :
    s.install why.state reader writer = .ok t ↔ s.lifecycle = why.state ∧
      t = { s with
        lifecycle := .ready, generation := s.generation + 1
        outbox? := some s.outboxes.length, reader? := some reader, writer? := some writer
        outboxes := s.outboxes ++ [{}] } := by
  constructor
  · intro h
    have expected : s.lifecycle = why.state := by
      by_contra other
      unfold install at h
      rw [if_neg other] at h
      cases h
    rw [installed_eq s expected] at h
    cases h
    exact ⟨expected, rfl⟩
  · rintro ⟨expected, rfl⟩
    exact installed_eq s expected reader writer

theorem install_eq_error {expected : Lifecycle} {reader writer : JobId} {e : SessionError}
    (h : s.install expected reader writer = .error e) :
    s.lifecycle ≠ expected ∧ e = .invalidState s.lifecycle := by
  unfold install at h
  split at h
  · cases h
  · next other =>
    cases h
    exact ⟨other, rfl⟩

/-! ## Letting go -/

theorem getElem?_unman (s : Session) (outbox? : Option Nat) (i : Nat) :
    (s.unman outbox?).outboxes[i]? =
      if outbox? = some i then s.outboxes[i]?.map fun o => { o with isManned := false }
      else s.outboxes[i]? := by
  unfold unman
  cases outbox? with
  | none => rfl
  | some index =>
    simp only [getElem?_modifyOutbox, Option.some.injEq]

theorem unman_eq (s : Session) (outbox? : Option Nat) :
    s.unman outbox? = { s with outboxes := (s.unman outbox?).outboxes } := by
  unfold unman
  cases outbox? <;> rfl

@[simp] theorem length_unman (s : Session) (outbox? : Option Nat) :
    (s.unman outbox?).outboxes.length = s.outboxes.length := by
  unfold unman
  cases outbox? with
  | none => rfl
  | some index => exact List.length_modify ..

theorem drop_eq (s : Session) :
    s.drop = { s with
      outboxes := s.sealedBoxes, outbox? := none, correlator := s.correlator.drain
      reader? := none, writer? := none, isDropped := true } := by
  unfold drop
  rw [sealOutbox_eq]
  rfl

/-! ## Any of them -/

/-- What the steps of readers, writers, searches and shutdowns do to the session, if they do
anything to it. -/
inductive Relinks (s : Session) : Session → Prop
  /-- Without an outbox that is nothing at all. -/
  | unmanned (outbox? : Option Nat) : Relinks s (s.unman outbox?)
  | taken {index : Nat} {box : Outbox} {command : WriterCommand} {rest : List WriterCommand}
      (found : s.outboxes[index]? = some box) (head : box.commands = command :: rest) :
      Relinks s (s.modifyOutbox index fun o => { o with commands := rest })
  | lost {generation : Nat} {t : Session} (lost : s.reportLoss? generation = some t) : Relinks s t
  | closed {t : Session} (closed : s.close? = some t) : Relinks s t
  | drained (outbox? : Option Nat) : Relinks s (s.drain.unman outbox?)
  | installed {why : Search} {reader writer : JobId} {t : Session}
      (done : s.install why.state reader writer = .ok t) : Relinks s t

/-- Settings stay, nobody drops the session, and calls are left alone or all fail. -/
theorem Relinks.keeps (h : s.Relinks t) : t.settings = s.settings ∧ t.isDropped = s.isDropped ∧
    (t.correlator = s.correlator ∨ t.correlator = s.correlator.drain) := by
  cases h with
  | unmanned outbox? =>
    rw [unman_eq]
    exact ⟨rfl, rfl, .inl rfl⟩
  | taken => exact ⟨rfl, rfl, .inl rfl⟩
  | lost lost =>
    obtain ⟨-, -, rfl⟩ := reportLoss?_eq_some_iff.mp lost
    exact ⟨rfl, rfl, .inl rfl⟩
  | closed closed =>
    obtain ⟨-, rfl⟩ := close?_eq_some_iff.mp closed
    exact ⟨rfl, rfl, .inl rfl⟩
  | drained outbox? =>
    rw [unman_eq]
    exact ⟨rfl, rfl, .inr rfl⟩
  | installed done =>
    obtain ⟨-, rfl⟩ := install_eq_ok_iff.mp done
    exact ⟨rfl, rfl, .inl rfl⟩

/-- How lifecycle and generation go on: the generation stays or grows by one, and grows with
every connection that is installed and with the close. -/
inductive Advance (s t : Session) : Prop
  | stays (lifecycle : t.lifecycle = s.lifecycle) (generation : t.generation = s.generation)
  | loses (before : s.lifecycle = .ready) (after : t.lifecycle = .degraded)
      (generation : t.generation = s.generation)
  | closes (before : s.lifecycle ≠ .closed) (after : t.lifecycle = .closed)
      (generation : t.generation = s.generation + 1)
  | opens (before : s.lifecycle = .connecting ∨ s.lifecycle = .degraded)
      (after : t.lifecycle = .ready) (generation : t.generation = s.generation + 1)

theorem Relinks.advance (h : s.Relinks t) : s.Advance t := by
  cases h with
  | unmanned outbox? =>
    rw [unman_eq]
    exact .stays rfl rfl
  | taken => exact .stays rfl rfl
  | lost lost =>
    obtain ⟨-, ready, rfl⟩ := reportLoss?_eq_some_iff.mp lost
    exact .loses ready rfl rfl
  | closed closed =>
    obtain ⟨before, rfl⟩ := close?_eq_some_iff.mp closed
    exact .closes before rfl rfl
  | drained outbox? =>
    rw [unman_eq]
    exact .stays rfl rfl
  | @installed why _ _ _ done =>
    obtain ⟨expected, rfl⟩ := install_eq_ok_iff.mp done
    refine .opens ?_ rfl rfl
    cases why with
    | first => exact .inl expected
    | again => exact .inr expected

end LspClient.Session
