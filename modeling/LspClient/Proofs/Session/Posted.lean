import LspClient.Proofs.Session.Outbound

/-!
# What is put into the outboxes

`posted` compares the outboxes of two sessions and gives what was put at their ends. A
message that is sent puts exactly its own frame there (`posted_send`), and it is sent
exactly if the session is ready (`Linked.send_cases`); to drop the session puts nothing
anywhere.
-/

namespace LspClient.Session

variable {s t : Session}

/-- What stands in the outboxes, one after another. -/
def queues (s : Session) : List (List WriterCommand) := s.outboxes.map Outbox.commands

/-- What the later queues have at their ends beyond the earlier ones. -/
def added : List (List WriterCommand) → List (List WriterCommand) → List WriterCommand
  | old :: olds, new :: news => new.drop old.length ++ added olds news
  | _, news => news.flatten

/-- What was put into outboxes from one session to the next. -/
def posted (s t : Session) : List WriterCommand := added s.queues t.queues

theorem added_self (queues : List (List WriterCommand)) : added queues queues = [] := by
  induction queues with
  | nil => rfl
  | cons queue rest ih =>
    show queue.drop queue.length ++ added rest rest = []
    rw [ih, List.drop_length]
    rfl

theorem added_modify {queues : List (List WriterCommand)} {index : Nat}
    (h : index < queues.length) (command : WriterCommand) :
    added queues (queues.modify index (· ++ [command])) = [command] := by
  induction queues generalizing index with
  | nil => exact absurd h (Nat.not_lt_zero _)
  | cons queue rest ih =>
    cases index with
    | zero =>
      show (queue ++ [command]).drop queue.length ++ added rest rest = [command]
      rw [added_self, List.drop_left, List.append_nil]
    | succ index =>
      show queue.drop queue.length ++ added rest (rest.modify index _) = [command]
      rw [List.drop_length, ih (Nat.lt_of_succ_lt_succ h)]
      rfl

theorem posted_of_queues (h : t.queues = s.queues) : s.posted t = [] := by
  unfold posted
  rw [h, added_self]

/-- What is done to an outbox is done to its queue. -/
theorem commands_modify {change : Outbox → Outbox} {f : List WriterCommand → List WriterCommand}
    (h : ∀ o : Outbox, (change o).commands = f o.commands) (boxes : List Outbox) (index : Nat) :
    (boxes.modify index change).map Outbox.commands =
      (boxes.map Outbox.commands).modify index f := by
  apply List.ext_getElem?
  intro i
  rw [List.getElem?_map, List.getElem?_modify, List.getElem?_modify, List.getElem?_map]
  by_cases same : index = i
  · simp only [same, if_true]
    cases boxes[i]? with
    | none => rfl
    | some o => exact congrArg some (h o)
  · simp only [same, if_false]
    cases boxes[i]? <;> rfl

theorem queues_enqueue (s : Session) (index : Nat) (command : WriterCommand) :
    (s.enqueue index command).queues = s.queues.modify index (· ++ [command]) :=
  commands_modify (fun _ => rfl) s.outboxes index

/-- To seal an outbox puts nothing into it. -/
theorem commands_sealedBoxes (s : Session) : s.sealedBoxes.map Outbox.commands = s.queues := by
  unfold sealedBoxes
  split
  · rfl
  · next index _ =>
    have seals (o : Outbox) : ({ o with isSealed := true } : Outbox).commands = id o.commands := rfl
    exact (commands_modify seals s.outboxes index).trans (List.modify_id ..)

/-- Nobody sends anything by dropping the session. -/
theorem queues_drop (s : Session) : s.drop.queues = s.queues := by
  rw [drop_eq]
  exact commands_sealedBoxes s

/-! ## Sending -/

/-- A message is refused because the session is not ready; else it goes into the current
outbox. -/
theorem Linked.send_cases (l : s.Linked) (alive : s.isDropped = false) (message : Envelope) :
    (s.lifecycle ≠ .ready ∧ ∃ e, s.send message = .error e) ∨
    (s.lifecycle = .ready ∧ ∃ index, index < s.outboxes.length ∧
      s.send message = .ok (s.enqueue index (.send message.encode))) := by
  unfold send
  cases outbox : s.readyOutbox with
  | error e => exact .inl ⟨(l.readyOutbox_eq_error alive outbox).1, e, rfl⟩
  | ok index =>
    obtain ⟨ready, current⟩ := readyOutbox_eq_ok_iff.mp outbox
    obtain ⟨box, found, -⟩ := l.isOpen index current
    refine .inr ⟨ready, index, (List.getElem?_eq_some_iff.mp found).1, ?_⟩
    simp only [bind, Except.bind, l.post?_isSome current]

theorem posted_enqueue {index : Nat} (h : index < s.outboxes.length) (command : WriterCommand) :
    s.posted (s.enqueue index command) = [command] := by
  unfold posted
  rw [queues_enqueue, added_modify]
  unfold queues
  rw [List.length_map]
  exact h

end LspClient.Session
