import LspClient.Proofs.Session.Fresh
import LspClient.Proofs.Session.Link

/-!
# Ready means that frames can be sent

`Linked` says of a session that it is ready exactly while it has a current outbox, and that
frames can be put into that outbox. Whatever is done to a session keeps it, except that
nobody may leave the current outbox behind (`Relinks.linked`); that the writers do not is
shown with the jobs.

In a session that is linked, requests and notifications have only the failures that
`request_cases` and `notify_cases` list, and a failure changes nothing.
-/

namespace LspClient

/-- Frames can be put into the outbox, and its writer has not been told to stop. -/
structure Outbox.IsOpen (o : Outbox) : Prop where
  manned : o.isManned = true
  unsealed : o.isSealed = false
  goesOn : WriterCommand.stop ∉ o.commands

theorem Outbox.Grows.isOpen {a b : Outbox} (h : a.Grows b) (o : a.IsOpen) : b.IsOpen where
  manned := h.isManned.trans o.manned
  unsealed := h.isSealed.trans o.unsealed
  goesOn := by
    obtain ⟨frames, hframes⟩ := h.commands
    rw [hframes, List.mem_append, List.mem_map]
    rintro (old | ⟨frame, -, heq⟩)
    · exact o.goesOn old
    · cases heq

namespace Session

variable {s t : Session}

/-- What ties the state of a session to its current outbox. -/
structure Linked (s : Session) : Prop where
  /-- Only a ready session has a current outbox. -/
  current : ∀ index, s.outbox? = some index → s.lifecycle = .ready ∧ s.isDropped = false
  /-- Frames can be put into it. -/
  isOpen : ∀ index, s.outbox? = some index → ∃ o, s.outboxes[index]? = some o ∧ o.IsOpen
  /-- A ready session has one. -/
  ready : s.lifecycle = .ready → s.isDropped = false → ∃ index, s.outbox? = some index

theorem Linked.ready_iff (l : s.Linked) (alive : s.isDropped = false) :
    s.lifecycle = .ready ↔ s.outbox?.isSome = true := by
  rw [Option.isSome_iff_exists]
  exact ⟨fun ready => l.ready ready alive, fun ⟨index, h⟩ => (l.current index h).1⟩

/-! ## What keeps it -/

/-- A session without an outbox has nothing to keep unless it is ready. -/
theorem Linked.of_none (none : s.outbox? = none)
    (other : s.lifecycle = .ready → s.isDropped = true) : s.Linked where
  current index h := by
    rw [none] at h
    cases h
  isOpen index h := by
    rw [none] at h
    cases h
  ready ready alive := by
    rw [other ready] at alive
    cases alive

/-- A session that has kept its state and its current outbox is still linked, if the outbox
is still open. -/
theorem Linked.same (l : s.Linked) (lifecycle : t.lifecycle = s.lifecycle)
    (isDropped : t.isDropped = s.isDropped) (outbox : t.outbox? = s.outbox?)
    (isOpen : ∀ index o, s.outbox? = some index → s.outboxes[index]? = some o → o.IsOpen →
      ∃ o', t.outboxes[index]? = some o' ∧ o'.IsOpen) : t.Linked where
  current index h := by
    rw [lifecycle, isDropped]
    rw [outbox] at h
    exact l.current index h
  isOpen index h := by
    rw [outbox] at h
    obtain ⟨o, ho, hopen⟩ := l.isOpen index h
    exact isOpen index o h ho hopen
  ready ready alive := by
    rw [lifecycle] at ready
    rw [isDropped] at alive
    rw [outbox]
    exact l.ready ready alive

theorem Quiet.linked (h : s.Quiet t) (l : s.Linked) : t.Linked := by
  have link := h.sameLink
  refine l.same link.lifecycle link.isDropped link.outbox? fun index o _ ho hopen => ?_
  have bound : index < t.outboxes.length := by
    rw [link.length]
    exact (List.getElem?_eq_some_iff.mp ho).1
  have hb : t.outboxes[index]? = some t.outboxes[index] := List.getElem?_eq_getElem bound
  obtain ⟨a, ha, grows⟩ := link.boxes index _ hb
  rw [ho] at ha
  cases ha
  exact ⟨_, hb, grows.isOpen hopen⟩

theorem linked_drop (s : Session) : s.drop.Linked := by
  rw [drop_eq]
  exact .of_none rfl fun _ => rfl

theorem Linked.unman (l : s.Linked) {outbox? : Option Nat}
    (other : ∀ index, s.outbox? = some index → outbox? ≠ some index) :
    (s.unman outbox?).Linked := by
  have same : ∀ index, s.outbox? = some index →
      (s.unman outbox?).outboxes[index]? = s.outboxes[index]? := by
    intro index h
    rw [getElem?_unman, if_neg (other index h)]
  rw [unman_eq] at same ⊢
  refine l.same rfl rfl rfl fun index o h ho hopen => ⟨o, ?_, hopen⟩
  rw [same index h]
  exact ho

theorem Linked.take (l : s.Linked) {index : Nat} {box : Outbox} {command : WriterCommand}
    {rest : List WriterCommand} (found : s.outboxes[index]? = some box)
    (head : box.commands = command :: rest) :
    (s.modifyOutbox index fun o => { o with commands := rest }).Linked := by
  refine l.same rfl rfl rfl fun i o _ ho hopen => ?_
  rw [getElem?_modifyOutbox]
  by_cases here : index = i
  · subst here
    rw [ho] at found
    cases found
    rw [if_pos rfl, ho]
    refine ⟨_, rfl, hopen.manned, hopen.unsealed, fun h => hopen.goesOn ?_⟩
    rw [head]
    exact List.mem_cons_of_mem _ h
  · rw [if_neg here]
    exact ⟨o, ho, hopen⟩

theorem Linked.drain (l : s.Linked) : s.drain.Linked :=
  l.same rfl rfl rfl fun _ o _ ho hopen => ⟨o, ho, hopen⟩

theorem linked_of_lost {generation : Nat} (h : s.reportLoss? generation = some t) : t.Linked := by
  obtain ⟨-, -, rfl⟩ := reportLoss?_eq_some_iff.mp h
  exact .of_none rfl nofun

theorem linked_of_closed (h : s.close? = some t) : t.Linked := by
  obtain ⟨-, rfl⟩ := close?_eq_some_iff.mp h
  exact .of_none rfl nofun

/-- A new connection comes with an outbox of its own. -/
theorem linked_of_installed {why : Search} {reader writer : JobId}
    (alive : s.isDropped = false) (h : s.install why.state reader writer = .ok t) :
    t.Linked := by
  obtain ⟨-, rfl⟩ := install_eq_ok_iff.mp h
  constructor
  · exact fun _ _ => ⟨rfl, alive⟩
  · rintro index ⟨⟩
    exact ⟨{}, List.getElem?_concat_length, rfl, rfl, List.not_mem_nil⟩
  · exact fun _ _ => ⟨_, rfl⟩

/-! ## What can fail in it -/

theorem Linked.readyOutbox_eq_error (l : s.Linked) (alive : s.isDropped = false) {e : CallError}
    (h : s.readyOutbox = .error e) : s.lifecycle ≠ .ready ∧ e = .notReady s.lifecycle := by
  unfold readyOutbox at h
  split at h
  · next ready =>
    obtain ⟨index, hindex⟩ := l.ready ready alive
    rw [hindex] at h
    cases h
  · next notReady =>
    cases h
    exact ⟨notReady, rfl⟩

/-- Frames for the current outbox always go in. -/
theorem Linked.post?_isSome (l : s.Linked) {index : Nat} (current : s.outbox? = some index)
    (frame : Bytes) : s.post? index frame = some (s.enqueue index (.send frame)) := by
  obtain ⟨o, ho, hopen⟩ := l.isOpen index current
  unfold post?
  rw [ho]
  exact if_pos hopen.manned

/-- A request is refused because the session is not ready or because its id is outstanding,
and then nothing changes; else it is sent. -/
theorem Linked.request_cases (l : s.Linked) (alive : s.isDropped = false)
    (room : s.correlator.size < 2 ^ 64) (id? : Option RequestId) (method : String)
    (params : Option Json) (now : Nat) :
    (s.lifecycle ≠ .ready ∧
      s.request id? method params now = (s, .error (.notReady s.lifecycle))) ∨
    (∃ id, id? = some id ∧ s.correlator.contains id = true ∧
      s.request id? method params now = (s, .error (.duplicateId id))) ∨
    (s.lifecycle = .ready ∧ ∃ sent ticket, s.request id? method params now = (sent, .ok ticket)) := by
  unfold request
  cases hready : s.readyOutbox with
  | error e =>
    obtain ⟨notReady, rfl⟩ := l.readyOutbox_eq_error alive hready
    exact .inl ⟨notReady, rfl⟩
  | ok index =>
    obtain ⟨ready, current⟩ := readyOutbox_eq_ok_iff.mp hready
    cases hregistered : s.register id? method now with
    | error e =>
      obtain ⟨id, hid, rfl, taken⟩ := register_eq_error room hregistered
      exact .inr (.inl ⟨id, hid, taken, rfl⟩)
    | ok pair =>
      obtain ⟨registered, ticket⟩ := pair
      -- registering leaves the outbox as it is, so the frame goes in
      have link := (Quiet.registered hready hregistered).sameLink
      have posted := ((Quiet.registered hready hregistered).linked l).post?_isSome
        (link.outbox?.trans current) (Envelope.request ⟨ticket.id, method, params⟩).encode
      dsimp only
      rw [posted]
      exact .inr (.inr ⟨ready, _, _, rfl⟩)

/-- A notification is refused because the session is not ready; else it is sent. -/
theorem Linked.notify_cases (l : s.Linked) (alive : s.isDropped = false) (method : String)
    (params : Option Json) :
    (s.lifecycle ≠ .ready ∧ s.notify method params = .error (.notReady s.lifecycle)) ∨
    (s.lifecycle = .ready ∧ ∃ sent, s.notify method params = .ok sent) := by
  unfold notify send
  cases hready : s.readyOutbox with
  | error e =>
    obtain ⟨notReady, rfl⟩ := l.readyOutbox_eq_error alive hready
    exact .inl ⟨notReady, rfl⟩
  | ok index =>
    obtain ⟨ready, current⟩ := readyOutbox_eq_ok_iff.mp hready
    have posted := l.post?_isSome current (Envelope.notification ⟨method, params⟩).encode
    simp only [bind, Except.bind, posted]
    exact .inr ⟨ready, _, rfl⟩

end Session

end LspClient
