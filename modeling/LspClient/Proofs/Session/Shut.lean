import LspClient.Proofs.Session.Link

/-!
# A session that is closed

`Shuts s t` says that nothing new has come about between a closed session `s` and what has
become of it, `t`: it is closed still, no connection was installed, no frame was put into
an outbox and no call was registered. What is left is to work off the frames that are
there, and to answer or to fail the calls that are outstanding.

Every operation on a closed session is of this kind: small changes (`Quiet.shuts`), the
steps of readers, writers, searches and shutdowns (`Relinks.shuts`), and the drop.
-/

namespace LspClient.Session

variable {s t u : Session}

/-- What a closed session keeps. -/
structure Shuts (s t : Session) : Prop where
  lifecycle : t.lifecycle = .closed
  generation : t.generation = s.generation
  /-- Every connection would have brought an outbox. -/
  length : t.outboxes.length = s.outboxes.length
  /-- Commands are only taken out. -/
  boxes : ∀ (i : Nat) (b : Outbox), t.outboxes[i]? = some b →
    ∃ a : Outbox, s.outboxes[i]? = some a ∧ b.commands <:+ a.commands
  /-- Every call would have taken a serial number. -/
  nextSerial : t.correlator.nextSerial = s.correlator.nextSerial
  pending : t.correlator.pending.Sublist s.correlator.pending
  /-- What has become of a registration stays. -/
  settled : ∀ serial, (∀ call ∈ s.correlator.pending, call.serial ≠ serial) →
    t.correlator.delivery serial = s.correlator.delivery serial

theorem shuts_refl (closed : s.lifecycle = .closed) : s.Shuts s :=
  ⟨closed, rfl, rfl, fun _ b hb => ⟨b, hb, List.suffix_rfl⟩, rfl, .refl _, fun _ _ => rfl⟩

theorem Shuts.trans (h : s.Shuts t) (h' : t.Shuts u) : s.Shuts u where
  lifecycle := h'.lifecycle
  generation := h'.generation.trans h.generation
  length := h'.length.trans h.length
  boxes i c hc := by
    obtain ⟨b, hb, later⟩ := h'.boxes i c hc
    obtain ⟨a, ha, earlier⟩ := h.boxes i b hb
    exact ⟨a, ha, later.trans earlier⟩
  nextSerial := h'.nextSerial.trans h.nextSerial
  pending := h'.pending.trans h.pending
  settled serial outside := by
    have outside' : ∀ call ∈ t.correlator.pending, call.serial ≠ serial :=
      fun call member => outside call (h.pending.subset member)
    rw [h'.settled serial outside', h.settled serial outside]

theorem Quiet.shuts (h : s.Quiet t) (closed : s.lifecycle = .closed) : s.Shuts t := by
  have notReady : s.lifecycle ≠ .ready := by
    rw [closed]
    nofun
  -- what is registered or put into an outbox needs a ready session
  obtain ⟨outboxes, nextSerial, pending, settled⟩ := h.of_not_ready notReady
  have link := h.sameLink
  refine ⟨link.lifecycle.trans closed, link.generation, link.length, ?_, nextSerial, pending,
    settled⟩
  intro i b hb
  rw [outboxes] at hb
  exact ⟨b, hb, List.suffix_rfl⟩

/-- Where one outbox loses commands at most, all of them do. -/
theorem boxes_modify {boxes : List Outbox} {index : Nat} {change : Outbox → Outbox}
    (h : ∀ a, boxes[index]? = some a → (change a).commands <:+ a.commands) (i : Nat) (b : Outbox)
    (hb : (boxes.modify index change)[i]? = some b) :
    ∃ a, boxes[i]? = some a ∧ b.commands <:+ a.commands := by
  rw [List.getElem?_modify] at hb
  by_cases same : index = i
  · subst same
    obtain ⟨a, ha, changed⟩ := Option.map_eq_some_iff.mp hb
    rw [if_pos rfl] at changed
    exact ⟨a, ha, by rw [← changed]; exact h a ha⟩
  · obtain ⟨a, ha, changed⟩ := Option.map_eq_some_iff.mp hb
    rw [if_neg same] at changed
    subst changed
    exact ⟨a, ha, List.suffix_rfl⟩

/-- If calls are left alone or all fail, it depends on the connection alone. -/
theorem shuts_of_calls (lifecycle : t.lifecycle = .closed) (generation : t.generation = s.generation)
    (length : t.outboxes.length = s.outboxes.length)
    (boxes : ∀ (i : Nat) (b : Outbox), t.outboxes[i]? = some b →
      ∃ a : Outbox, s.outboxes[i]? = some a ∧ b.commands <:+ a.commands)
    (calls : t.correlator = s.correlator ∨ t.correlator = s.correlator.drain) : s.Shuts t := by
  rcases calls with same | drained
  · refine ⟨lifecycle, generation, length, boxes, ?_, ?_, ?_⟩
    · rw [same]
    · exact (congrArg Correlator.pending same) ▸ .refl _
    · intro serial _
      rw [same]
  · refine ⟨lifecycle, generation, length, boxes, ?_, ?_, ?_⟩
    · rw [drained, Correlator.nextSerial_drain]
    · rw [drained, Correlator.pending_drain]
      exact List.nil_sublist _
    · intro serial outside
      rw [drained]
      exact Correlator.delivery_drain_of_not_mem outside

theorem shuts_drop (closed : s.lifecycle = .closed) : s.Shuts s.drop := by
  rw [drop_eq]
  refine shuts_of_calls closed rfl (length_sealedBoxes s) ?_ (.inr rfl)
  show ∀ (i : Nat) (b : Outbox), s.sealedBoxes[i]? = some b → _
  unfold sealedBoxes
  split
  · exact fun _ b hb => ⟨b, hb, List.suffix_rfl⟩
  · exact boxes_modify fun _ _ => List.suffix_rfl

theorem boxes_unman (s : Session) (outbox? : Option Nat) (i : Nat) (b : Outbox)
    (hb : (s.unman outbox?).outboxes[i]? = some b) :
    ∃ a : Outbox, s.outboxes[i]? = some a ∧ b.commands <:+ a.commands := by
  cases outbox? with
  | none => exact ⟨b, hb, List.suffix_rfl⟩
  | some index =>
    refine boxes_modify ?_ i b
      (show (s.outboxes.modify index fun o => { o with isManned := false })[i]? = some b from hb)
    exact fun _ _ => List.suffix_rfl

theorem Relinks.shuts (h : s.Relinks t) (closed : s.lifecycle = .closed) : s.Shuts t := by
  have calls := h.keeps.2.2
  cases h with
  | unmanned outbox? =>
    have boxes := boxes_unman s outbox?
    have length := length_unman s outbox?
    rw [unman_eq] at calls ⊢
    exact shuts_of_calls closed rfl length boxes calls
  | @taken index box command rest found head =>
    refine shuts_of_calls closed rfl (List.length_modify ..) (boxes_modify ?_) calls
    intro a ha
    rw [found] at ha
    cases ha
    rw [head]
    exact List.suffix_cons command rest
  | lost lost =>
    obtain ⟨-, ready, -⟩ := reportLoss?_eq_some_iff.mp lost
    rw [closed] at ready
    cases ready
  | closed again => exact absurd closed (close?_eq_some_iff.mp again).1
  | drained outbox? =>
    have boxes := boxes_unman s.drain outbox?
    have length := length_unman s.drain outbox?
    rw [unman_eq] at calls ⊢
    exact shuts_of_calls closed rfl length boxes calls
  | @installed why _ _ _ done =>
    obtain ⟨expected, -⟩ := install_eq_ok_iff.mp done
    rw [closed] at expected
    cases why <;> cases expected

end LspClient.Session
