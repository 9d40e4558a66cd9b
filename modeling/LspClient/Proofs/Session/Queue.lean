import LspClient.Proofs.Session.Dealing
import LspClient.Proofs.Session.Posted

/-!
# What happens to the queues of the writers

Of all that is done to a session, only a writer takes something out of an outbox, and only
an installation adds one. Whatever else is done `Feeds` the current outbox: the frame of the
message that is sent is put at its end, if one is sent, and when the session is closed the
command to stop. The other outboxes stay as they are.
-/

namespace LspClient.Session

variable {s t : Session} {now : Nat} {dealing : Dealing} {frames : List Bytes}

/-- These frames, and possibly the command to stop, are put at the end of the current outbox,
and nothing into any other. With that command the session lets go of the outbox. -/
structure Feeds (s t : Session) (frames : List Bytes) : Prop where
  current : t.outbox? = s.outbox? ∨ t.outbox? = none
  queues : ∃ stops, (stops = [] ∨ stops = [.stop] ∧ t.outbox? = none) ∧
    ∀ i, t.queues[i]? = s.queues[i]?.map
      (· ++ if s.outbox? = some i then frames.map .send ++ stops else [])

/-- The frames that are sent. -/
def sentFrames (s : Session) (now : Nat) : Dealing → List Bytes
  | .errand errand => (s.message? now errand).toList.map Envelope.encode
  | _ => []

/-- What is put at the end of one queue. -/
theorem getElem?_appended (queues : List (List WriterCommand)) (index i : Nat)
    (more : List WriterCommand) : (queues.modify index (· ++ more))[i]? =
      queues[i]?.map (· ++ if some index = some i then more else []) := by
  rw [List.getElem?_modify]
  cases queues[i]? with
  | none => rfl
  | some queue =>
    by_cases here : index = i
    · simp [here]
    · simp [here]

theorem feeds_nothing (queues : t.queues = s.queues)
    (current : t.outbox? = s.outbox? ∨ t.outbox? = none) : s.Feeds t [] where
  current := current
  queues := by
    refine ⟨[], .inl rfl, fun i => ?_⟩
    rw [queues, List.map_nil, List.append_nil, ite_self]
    cases s.queues[i]? with
    | none => rfl
    | some queue => exact congrArg some (List.append_nil queue).symm

theorem Feeds.drop (h : s.Feeds t frames) : s.Feeds t.drop frames := by
  obtain ⟨stops, ends, queues⟩ := h.queues
  have gone : t.drop.outbox? = none := by rw [drop_eq]
  refine ⟨.inr gone, stops, ends.imp_right fun last => ⟨last.1, gone⟩, fun i => ?_⟩
  rw [queues_drop]
  exact queues i

theorem queues_unman (s : Session) (outbox? : Option Nat) :
    (s.unman outbox?).queues = s.queues := by
  unfold unman
  cases outbox? with
  | none => rfl
  | some index =>
    have deserts (o : Outbox) :
        ({ o with isManned := false } : Outbox).commands = id o.commands := rfl
    exact (commands_modify deserts s.outboxes index).trans (List.modify_id ..)

/-- To close the session puts the command to stop into the current outbox. -/
theorem feeds_of_close? (closed : s.close? = some t) :
    s.Feeds t [] ∧ ∀ i, s.outbox? = some i → t.queues[i]? = s.queues[i]?.map (· ++ [.stop]) := by
  obtain ⟨-, rfl⟩ := close?_eq_some_iff.mp closed
  have queues (i : Nat) : (s.stoppedBoxes.map Outbox.commands)[i]? =
      s.queues[i]?.map (· ++ if s.outbox? = some i then [.stop] else []) := by
    unfold stoppedBoxes
    cases s.outbox? with
    | none =>
      show s.queues[i]? = _
      cases s.queues[i]? with
      | none => rfl
      | some queue => exact congrArg some (List.append_nil queue).symm
    | some index =>
      dsimp only
      rw [commands_modify (f := (· ++ [.stop])) (fun _ => rfl)]
      exact getElem?_appended s.queues index i [.stop]
  refine ⟨⟨.inr rfl, [.stop], .inr ⟨rfl, rfl⟩, queues⟩, fun i current => ?_⟩
  have here := queues i
  rw [if_pos current] at here
  exact here

/-- Whatever is done, unless it is taken from an outbox or a connection is installed, feeds the
current outbox with what is sent. -/
theorem Deals.feeds (h : s.Deals now dealing t) (takes : ∀ outbox, dealing ≠ .take outbox)
    (installs : dealing ≠ .install) : s.Feeds t (s.sentFrames now dealing) := by
  have idle (dealing : Dealing) (other : ∀ errand, dealing ≠ .errand errand) :
      s.sentFrames now dealing = [] := by
    cases dealing with
    | errand errand => exact absurd rfl (other errand)
    | _ => rfl
  cases h with
  | rest other =>
    rw [idle _ other]
    exact feeds_nothing rfl (.inl rfl)
  | removed | routed => exact feeds_nothing rfl (.inl rfl)
  | unmanned outbox? =>
    refine feeds_nothing (queues_unman s outbox?) (.inl ?_)
    rw [unman_eq]
  | drained outbox? =>
    refine feeds_nothing (queues_unman s.drain outbox?) (.inl ?_)
    rw [unman_eq]
    rfl
  | lost lost =>
    obtain ⟨-, -, rfl⟩ := reportLoss?_eq_some_iff.mp lost
    exact feeds_nothing (commands_sealedBoxes s) (.inr rfl)
  | closed closed => exact (feeds_of_close? closed).1
  | taken => exact absurd rfl (takes _)
  | installed => exact absurd rfl installs
  | carriedOut errand =>
    obtain ⟨base, prepares, after⟩ := carryOut_eq s now errand
    obtain ⟨correlator, nextId, rfl⟩ := prepares.exists_eq
    unfold sentFrames
    dsimp only
    split at after
    · next nothing =>
      rw [after, nothing]
      exact feeds_nothing rfl (.inl rfl)
    · next message sent =>
      obtain ⟨index, ready, after⟩ := after
      have current := (readyOutbox_eq_ok_iff.mp ready).2
      rw [after, sent]
      refine ⟨.inl rfl, [], .inl rfl, fun i => ?_⟩
      rw [queues_enqueue, current]
      exact getElem?_appended s.queues index i [.send message.encode]

/-- The queue that a writer takes a command from gets shorter by this one. -/
theorem queues_take (s : Session) {index : Nat} {box : Outbox}
    (found : s.outboxes[index]? = some box) (rest : List WriterCommand) (i : Nat) :
    (s.modifyOutbox index fun o => { o with commands := rest }).queues[i]? =
      if index = i then some rest else s.queues[i]? := by
  show (List.map Outbox.commands _)[i]? = _
  unfold modifyOutbox
  dsimp only
  rw [commands_modify (f := fun _ => rest) (fun _ => rfl), List.getElem?_modify]
  by_cases here : index = i
  · subst here
    simp [found]
  · simp [here, queues]

/-- A session that gets closed was closed by the first half of closing. -/
theorem Deals.close? (h : s.Deals now dealing t) (before : s.lifecycle ≠ .closed)
    (after : t.lifecycle = .closed) : s.close? = some t := by
  cases h with
  | closed closed => exact closed
  | rest | removed | routed | taken => exact absurd after before
  | unmanned | drained =>
    rw [unman_eq] at after
    exact absurd after before
  | lost lost =>
    obtain ⟨-, -, rfl⟩ := reportLoss?_eq_some_iff.mp lost
    cases after
  | installed done =>
    obtain ⟨-, rfl⟩ := install_eq_ok_iff.mp done
    cases after
  | carriedOut errand =>
    obtain ⟨base, prepares, same⟩ := carryOut_eq s now errand
    obtain ⟨correlator, nextId, rfl⟩ := prepares.exists_eq
    split at same
    · rw [same] at after
      exact absurd after before
    · obtain ⟨index, -, same⟩ := same
      rw [same] at after
      exact absurd after before

/-! ## Between sender and sink -/

/-- What was sent is what was handed over and, after it, what is left in the queue; behind that
there may be the command to stop. -/
def Flow (s : Session) (index : Nat) (sent handed : List Bytes) : Prop :=
  ∃ left stops, s.queues[index]? = some (left.map .send ++ stops) ∧
    (stops = [] ∨ stops = [.stop]) ∧ sent = handed ++ left

variable {index : Nat} {sent handed : List Bytes} {rest : List WriterCommand}

theorem Flow.congr (h : s.Flow index sent handed) (same : t.queues[index]? = s.queues[index]?) :
    t.Flow index sent handed := by
  obtain ⟨left, stops, queue, ends, all⟩ := h
  exact ⟨left, stops, same.trans queue, ends, all⟩

/-- Into the current outbox nothing was put yet behind the frames. -/
theorem Flow.feeds (h : s.Flow index sent handed) (l : s.Linked) (feeds : s.Feeds t frames) :
    t.Flow index (sent ++ if s.outbox? = some index then frames else []) handed := by
  obtain ⟨left, stops, queue, ends, all⟩ := h
  obtain ⟨more, ends', queues⟩ := feeds.queues
  have here := queues index
  rw [queue] at here
  by_cases current : s.outbox? = some index
  · rw [if_pos current] at here ⊢
    obtain ⟨box, found, isOpen⟩ := l.isOpen index current
    have same : some (left.map .send ++ stops) = some box.commands := by
      rw [← queue]
      show (s.outboxes.map Outbox.commands)[index]? = _
      rw [List.getElem?_map, found]
      rfl
    -- the current outbox is open: the command to stop is not in it
    obtain rfl : stops = [] := by
      rcases ends with none | rfl
      · exact none
      · refine absurd ?_ isOpen.goesOn
        rw [← Option.some.inj same]
        exact List.mem_append_right _ (List.mem_singleton.mpr rfl)
    refine ⟨left ++ frames, more, ?_, ends'.imp_right And.left, ?_⟩
    · rw [here]
      simp
    · rw [all, List.append_assoc]
  · rw [if_neg current] at here ⊢
    refine ⟨left, stops, ?_, ends, ?_⟩
    · rw [here]
      exact congrArg some (List.append_nil _)
    · rw [all, List.append_nil]

/-- The frame that a writer takes is the next that was sent. -/
theorem Flow.take_send (h : s.Flow index sent handed) {frame : Bytes}
    (queue : s.queues[index]? = some (.send frame :: rest))
    (after : t.queues[index]? = some rest) : t.Flow index sent (handed ++ [frame]) := by
  obtain ⟨left, stops, before, ends, all⟩ := h
  rw [queue] at before
  have same := Option.some.inj before
  cases left with
  | nil => rcases ends with rfl | rfl <;> cases same
  | cons first left =>
    obtain ⟨head, tail⟩ := List.cons.inj same
    cases head
    refine ⟨left, stops, after.trans (congrArg some tail), ends, ?_⟩
    rw [all, List.append_assoc]
    rfl

/-- Behind the command to stop there is nothing, and when a writer comes to it all that was
sent is handed over. -/
theorem Flow.take_stop (h : s.Flow index sent handed)
    (queue : s.queues[index]? = some (.stop :: rest)) : rest = [] ∧ sent = handed := by
  obtain ⟨left, stops, before, ends, all⟩ := h
  rw [queue] at before
  have same := Option.some.inj before
  cases left with
  | nil =>
    rw [List.append_nil] at all
    rcases ends with rfl | rfl
    · cases same
    · exact ⟨(List.cons.inj same).2, all⟩
  | cons first left => cases (List.cons.inj same).1

/-- If the queue is empty, all that was sent is handed over. -/
theorem Flow.eq_of_nil (h : s.Flow index sent handed) (queue : s.queues[index]? = some []) :
    sent = handed := by
  obtain ⟨left, stops, before, -, all⟩ := h
  rw [queue] at before
  obtain ⟨nothing, -⟩ := List.nil_eq_append_iff.mp (Option.some.inj before)
  rw [all, List.map_eq_nil_iff.mp nothing, List.append_nil]

end LspClient.Session
