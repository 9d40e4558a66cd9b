import LspClient.Proofs.Client.Closing
import LspClient.Proofs.Client.Wire

/-!
# Frames on the wire are in the order of the calls

`World.writes_in_order` puts together what holds of the sinks of a run. A sink gets the
frames that were sent over its connection while it was the current one, in that order and
no other. If the session is closed while a connection is current, its writer finds the
command to stop behind everything that was sent; `WriteStage.work` bounds how many turns it
takes to get there. A writer that can go on makes progress at each of its turns, and the only
thing it may have to wait for is room in its sink; so unless the sink fails, it hands over
everything and closes the sink.
-/

namespace LspClient

/-! ## Work that is left -/

/-- A bound on the turns that it takes to work off a command: a frame is taken up in one turn,
and every further turn writes at least one byte of it. -/
def WriterCommand.work : WriterCommand → Nat
  | .send frame => (Framing.frame frame).length + 2
  | .stop => 0

/-- A bound on the turns of a writer at this point that has these commands before it. -/
def WriteStage.work (queue : List WriterCommand) : WriteStage → Nat
  | .idle => (queue.map WriterCommand.work).sum + 2
  | .writing left => left.length + 1 + ((queue.map WriterCommand.work).sum + 2)
  | .closing => 1

theorem Medium.length_wrap_le (medium : Medium) (frame : Bytes) :
    (medium.wrap frame).length ≤ (Framing.frame frame).length := by
  cases medium with
  | messages =>
    unfold Medium.wrap Framing.frame
    simp
  | stream => exact Nat.le_refl _

/-- A write that does not fail gets rid of something, if there is room. -/
theorem Peer.length_write_lt {p p' : Peer} {medium : Medium} {data left : Bytes}
    (room : p.canWrite medium = true) (done : p.write medium data = .ok (p', left)) :
    left.length < data.length ∨ left = [] := by
  unfold Peer.write at done
  unfold Peer.canWrite at room
  split at done
  · cases done
  · next there =>
    split at done
    · cases done
      exact .inr rfl
    · next free bounded =>
      cases done
      rw [bounded] at room
      have positive : free ≠ 0 := by
        rintro rfl
        simp [there] at room
      rw [List.length_drop]
      by_cases empty : data = []
      · exact .inr (by rw [empty, List.drop_nil])
      · have := List.length_pos_iff.mpr empty
        omega

/-- The peer whose sink fails at the next step of a job. -/
def Client.sinkFails? (c : Client) (job : Job) : Option Nat :=
  match job.activity with
  | .write peer _ _ (.writing left) =>
    match c.loopback.peer? peer with
    | some p =>
      match p.write c.loopback.medium left with
      | .ok _ => none
      | .error _ => some peer
    | none => none
  | _ => none

/-- No step of a writer closes the session. -/
theorem Outline.Shift.lifecycle_of_write {k k' : Outline} {id : JobId}
    {peer generation index : Nat} {stage : WriteStage}
    (h : k.Shift id (.write peer generation index stage) k') :
    k'.session.lifecycle = k.session.lifecycle := by
  cases h with
  | move | take => rfl
  | desert =>
    show (k.session.unman _).lifecycle = _
    rw [Session.unman_eq]
  | close closes => cases closes
  | drain drains => cases drains

namespace World

/-- The peer whose sink fails at an event. -/
def failsAt (w : World) (event : Event) : List Nat :=
  ((w.acting? event).bind w.client.sinkFails?).toList

/-- The peers whose sinks have failed in a run. -/
def failed (settings : Settings) (medium : Medium) (events : List Event) : List Nat :=
  gathered failsAt { client := Client.create settings medium } events

variable {settings : Settings} {medium : Medium} {w : World} {event : Event} {id : JobId}
  {peer generation index : Nat} {stage : WriteStage} {job : Job} {left : Bytes}

/-- A writer that is writing writes some of the rest, unless its sink fails. -/
theorem writing_cases (room : w.client.session.correlator.size ≤ mostCalls)
    (acts : w.acting? event = some job)
    (activity : job.activity = .write peer generation index (.writing left))
    (known : peer < w.client.loopback.peers.length) (works : peer ∉ w.failsAt event) :
    ∃ stage : WriteStage, (w.perform event).client.outline =
        w.client.outline.put job.id (.write peer generation index stage) ∧
      (stage = .idle ∨ ∃ rest, stage = .writing rest ∧ rest.length < left.length) := by
  obtain ⟨p, found⟩ : ∃ p, w.client.loopback.peer? peer = some p :=
    ⟨_, List.getElem?_eq_getElem known⟩
  obtain ⟨-, -, ready, -⟩ := acting?_eq_some acts
  have canWrite : p.canWrite w.client.loopback.medium = true := by
    unfold Client.isReady Client.isWriteReady at ready
    rw [goesOn_of_writer acts activity, activity] at ready
    simpa [found] using ready
  rw [perform_of_writer room acts activity]
  unfold Client.stepWrite
  dsimp only
  rw [found]
  dsimp only
  split
  · next p' rest done =>
    have same : (w.client.modifyPeer peer fun _ => p').outline = w.client.outline :=
      Client.outline_modifyPeer ..
    refine ⟨_, by rw [Client.outline_become, same], ?_⟩
    by_cases empty : rest.isEmpty = true
    · exact .inl (if_pos empty)
    · refine .inr ⟨rest, if_neg empty, ?_⟩
      rcases Peer.length_write_lt canWrite done with less | none
      · exact less
      · rw [none] at empty
        exact absurd rfl empty
  · next e fails =>
    refine absurd ?_ works
    unfold failsAt Client.sinkFails?
    rw [acts, Option.bind_some, activity]
    dsimp only
    rw [found]
    dsimp only
    rw [fails]
    exact List.mem_singleton.mpr rfl

/-- A writer whose sink works stays a writer. -/
theorem mem_failsAt (room : w.client.session.correlator.size ≤ mostCalls)
    (acts : w.acting? event = some job)
    (activity : job.activity = .write peer generation index (.writing left))
    (known : peer < w.client.loopback.peers.length) {outbox? : Option Nat} {stage : LossStage}
    (lost : (job.id, .lose generation outbox? stage) ∈ (w.perform event).client.outline.jobs) :
    peer ∈ w.failsAt event := by
  by_contra works
  obtain ⟨stage, outline, -⟩ := writing_cases room acts activity known works
  rw [outline] at lost
  rcases Outline.mem_put.mp lost with ⟨-, other⟩ | ⟨same, -⟩
  · exact other rfl
  · cases same

/-- A writer has lost its connection because its sink has failed. -/
theorem lost_cases (o : w.client.outline.Orderly)
    (room : w.client.session.correlator.size ≤ mostCalls) {opened : List Nat}
    (lines : w.client.outline.Lines opened) {stage : LossStage}
    (hj : (id, .lose generation (some index) stage) ∈ (w.perform event).client.outline.jobs) :
    (∃ before, (id, .lose generation (some index) before) ∈ w.client.outline.jobs) ∨
      ∃ peer, opened[index]? = some peer ∧ peer ∈ w.failsAt event := by
  rcases follows_perform w event with stirs | ⟨_, heeds, a, m, rfl, live, shift, stirs⟩
  · exact .inl ⟨stage, Outline.Stirs.mem_of_other stirs hj rfl nofun⟩
  · cases acts : w.acting? (.turn _ heeds) with
    | none =>
      rw [perform_of_idle acts] at hj
      exact .inl ⟨stage, hj⟩
    | some job =>
      obtain ⟨⟨_, same⟩, live', -⟩ := acting?_eq_some acts
      cases same
      have before := Outline.Stirs.mem_of_other stirs hj rfl nofun
      rcases shift.mem_cases before with old | ⟨own, yields⟩ | begins
      · exact .inl ⟨stage, old.1⟩
      · dsimp only at own yields
        rw [← own] at live
        generalize target : Activity.lose generation (some index) stage = b at yields
        cases yields with
        | move step =>
          cases step with
          | @unsent peer _ _ left =>
            cases target
            rw [own] at live hj
            have known := lines.known _ (List.mem_of_getElem? (lines.writes _ _ _ _ _ live))
            exact .inr ⟨peer, lines.writes _ _ _ _ _ live,
              mem_failsAt room acts (o.unique live' live) known hj⟩
          | disabled =>
            cases target
            exact .inl ⟨_, live⟩
          | _ => cases target
        | degrade =>
          cases target
          exact .inl ⟨_, live⟩
        | close closes =>
          cases closes <;> cases target
          exact .inl ⟨_, live⟩
        | drain drains => cases drains <;> cases target
        | _ => cases target
      · generalize target : Activity.lose generation (some index) stage = b at begins
        cases begins <;> cases target

theorem failed_concat (settings : Settings) (medium : Medium) (events : List Event)
    (event : Event) : failed settings medium (events ++ [event]) =
      failed settings medium events ++ (run settings medium events).failsAt event :=
  gathered_concat ..

theorem mem_failed_append {events : List Event} (h : peer ∈ failed settings medium events)
    (more : List Event) : peer ∈ failed settings medium (events ++ more) := by
  induction more using List.reverseRecOn with
  | nil =>
    rw [List.append_nil]
    exact h
  | append_singleton more event ih =>
    rw [← List.append_assoc, failed_concat]
    exact List.mem_append_left _ ih

/-- Of every connection that was lost while something was written to it the sink has failed. -/
theorem mem_failed (settings : Settings) (medium : Medium) (events : List Event) :
    ∀ id generation index stage, (id, .lose generation (some index) stage) ∈
        (run settings medium events).client.outline.jobs →
      ∀ peer, (opened settings medium events)[index]? = some peer →
        peer ∈ failed settings medium events := by
  induction events using List.reverseRecOn with
  | nil => exact fun _ _ _ _ live => absurd live List.not_mem_nil
  | append_singleton events event ih =>
    intro id generation index stage live peer own
    have reached := Outline.reachable_run settings medium events
    have lines := (wired_run settings medium events).lines
    rw [run_concat] at live
    rw [failed_concat, List.mem_append]
    have same {p : Nat} (early : (opened settings medium events)[index]? = some p) : p = peer :=
      Option.some.inj ((getElem?_opened early [event]).symm.trans own)
    rcases lost_cases reached.orderly (size_le_mostCalls settings medium events) lines live with
      ⟨before, old⟩ | ⟨p, early, now⟩
    · have within : index < (opened settings medium events).length := by
        rw [lines.length]
        exact (reached.staffed.sound _ old).1
      have early := List.getElem?_eq_getElem within
      rw [← same early]
      exact .inl (ih _ _ _ _ old _ early)
    · rw [← same early]
      exact .inr now

/-! ## Working off a queue -/

/-- Whether a writer works off what was sent before the command to stop, or has done so, and
needs no more turns than this. -/
def IsFlushing (w : World) (id : JobId) (peer index n : Nat) : Prop :=
  ∃ generation stage queue, (id, .write peer generation index stage) ∈ w.client.outline.jobs ∧
    w.client.session.queues[index]? = some queue ∧ (stage = .closing ∨ .stop ∈ queue) ∧
    WriteStage.work queue stage ≤ n

variable {n : Nat}

theorem IsFlushing.pos (h : w.IsFlushing id peer index n) : 0 < n := by
  obtain ⟨generation, stage, queue, -, -, -, bound⟩ := h
  have last : 0 < WriteStage.work queue stage := by cases stage <;> exact Nat.succ_pos _
  exact Nat.lt_of_lt_of_le last bound

section

variable {opened : List Nat} {sent : Nat → List Bytes} {calls : Nat → List SinkCall}

/-- A writer that takes up the next command has less left to do. -/
theorem flushing_idle {queue : List WriterCommand} (wired : w.Wired opened sent calls)
    (room : w.client.session.correlator.size ≤ mostCalls) (acts : w.acting? event = some job)
    (activity : job.activity = .write peer generation index .idle)
    (found : w.client.session.queues[index]? = some queue) (stops : .stop ∈ queue) :
    ∃ m < WriteStage.work queue .idle, (w.perform event).IsFlushing job.id peer index m := by
  obtain ⟨-, live, -⟩ := acting?_eq_some acts
  rw [activity] at live
  obtain ⟨session, stage, outline, -, -, -, ways⟩ :=
    writer_cases room acts activity (wired.lines.inside live)
  have same : (w.perform event).client.session = session := congrArg Outline.session outline
  have goesOn : (job.id, .write peer generation index stage) ∈
      (w.perform event).client.outline.jobs := by
    rw [outline]
    exact Outline.mem_put.mpr (.inr ⟨rfl, _, live⟩)
  have closes : 1 < WriteStage.work queue .idle := Nat.succ_lt_succ (Nat.succ_pos _)
  rcases ways with ⟨frame, rest, head, after, rfl⟩ | ⟨rest, -, after, rfl⟩ | ⟨-, after, rfl⟩
  · rw [found] at head
    cases Option.some.inj head
    have stops : WriterCommand.stop ∈ rest := (List.mem_cons.mp stops).resolve_left nofun
    refine ⟨_, ?_, generation, _, rest, goesOn, by rw [same, after], .inr stops, Nat.le_refl _⟩
    have shorter := w.client.loopback.medium.length_wrap_le frame
    show (w.client.loopback.medium.wrap frame).length + 1 +
      ((rest.map WriterCommand.work).sum + 2) <
        (Framing.frame frame).length + 2 + (rest.map WriterCommand.work).sum + 2
    omega
  · exact ⟨1, closes, generation, _, rest, goesOn, by rw [same, after], .inl rfl, Nat.le_refl _⟩
  · exact ⟨1, closes, generation, _, [], goesOn, by rw [same, after], .inl rfl, Nat.le_refl _⟩

/-- A writer that writes has less left to do. -/
theorem flushing_writing {queue : List WriterCommand} (wired : w.Wired opened sent calls)
    (room : w.client.session.correlator.size ≤ mostCalls) (acts : w.acting? event = some job)
    (activity : job.activity = .write peer generation index (.writing left))
    (works : peer ∉ w.failsAt event)
    (found : w.client.session.queues[index]? = some queue) (stops : .stop ∈ queue) :
    ∃ m < WriteStage.work queue (.writing left),
      (w.perform event).IsFlushing job.id peer index m := by
  obtain ⟨-, live, -⟩ := acting?_eq_some acts
  rw [activity] at live
  have known := wired.lines.known _ (List.mem_of_getElem? (wired.lines.writes _ _ _ _ _ live))
  obtain ⟨stage, outline, ways⟩ := writing_cases room acts activity known works
  have same : (w.perform event).client.session = w.client.session :=
    congrArg Outline.session outline
  have goesOn : (job.id, .write peer generation index stage) ∈
      (w.perform event).client.outline.jobs := by
    rw [outline]
    exact Outline.mem_put.mpr (.inr ⟨rfl, _, live⟩)
  refine ⟨_, ?_, generation, stage, queue, goesOn, by rw [same, found], .inr stops, Nat.le_refl _⟩
  rcases ways with rfl | ⟨rest, rfl, less⟩
  · show (queue.map WriterCommand.work).sum + 2 <
      left.length + 1 + ((queue.map WriterCommand.work).sum + 2)
    omega
  · show rest.length + 1 + ((queue.map WriterCommand.work).sum + 2) <
      left.length + 1 + ((queue.map WriterCommand.work).sum + 2)
    omega

/-- At each turn that a writer can take there is less left to do. -/
theorem IsFlushing.turn (h : w.IsFlushing id peer index n) (wired : w.Wired opened sent calls)
    (o : w.client.outline.Orderly) (room : w.client.session.correlator.size ≤ mostCalls)
    (acts : w.acting? event = some job) (own : job.id = id) (works : peer ∉ w.failsAt event) :
    .close ∈ w.callsTo peer event ∨ ∃ m < n, (w.perform event).IsFlushing id peer index m := by
  obtain ⟨generation, stage, queue, live, found, ends, bound⟩ := h
  subst own
  obtain ⟨-, live', -⟩ := acting?_eq_some acts
  have activity := o.unique live' live
  cases stage with
  | closing =>
    rw [callsTo_of_writer acts activity]
    exact .inl (List.mem_singleton.mpr rfl)
  | idle =>
    have stops := ends.resolve_left nofun
    obtain ⟨m, less, still⟩ := flushing_idle wired room acts activity found stops
    exact .inr ⟨m, Nat.lt_of_lt_of_le less bound, still⟩
  | writing left =>
    have stops := ends.resolve_left nofun
    obtain ⟨m, less, still⟩ := flushing_writing wired room acts activity works found stops
    exact .inr ⟨m, Nat.lt_of_lt_of_le less bound, still⟩

/-- At every event, a turn that the writer can take makes the rest less, and nothing else makes
it more. -/
theorem IsFlushing.perform (h : w.IsFlushing id peer index n) (wired : w.Wired opened sent calls)
    (o : w.client.outline.Orderly) (room : w.client.session.correlator.size ≤ mostCalls)
    (past : w.client.session.outbox? ≠ some index) (works : peer ∉ w.failsAt event) :
    .close ∈ w.callsTo peer event ∨ ∃ m, m + (isDue id w event).toNat ≤ n ∧
      (w.perform event).IsFlushing id peer index m := by
  by_cases own : ∃ job, w.acting? event = some job ∧ job.id = id
  · obtain ⟨job, acts, own⟩ := own
    rcases h.turn wired o room acts own works with closes | ⟨m, less, still⟩
    · exact .inl closes
    · exact .inr ⟨m, Nat.le_trans (Nat.add_le_add_left (Bool.toNat_le _) m) less, still⟩
  · obtain ⟨generation, stage, queue, live, found, ends, bound⟩ := h
    have aside (job : Job) (acts : w.acting? event = some job) : job.id ≠ id :=
      fun same => own ⟨job, acts, same⟩
    obtain ⟨same, -⟩ := queue_perform event room wired.lines (wired.lines.inside live) past <| by
      intro job acts peer' generation' activity
      obtain ⟨-, live', -⟩ := acting?_eq_some acts
      rw [activity] at live'
      exact aside job acts (wired.lines.single _ _ _ _ _ _ _ _ _ live' live)
    refine .inr ⟨n, ?_, generation, stage, queue, mem_perform_of_aside o live rfl aside,
      same.trans found, ends, bound⟩
    rw [isDue_of_aside aside]
    exact Nat.le_refl n

end

/-- Whether a writer is still there, and can take its next turn or waits for room in its sink. -/
structure IsAtWork (w : World) (id : JobId) (peer index : Nat) : Prop where
  live : ∃ generation stage, (id, .write peer generation index stage) ∈ w.client.outline.jobs
  goesOn : isDue id w (.turn id false) = true ∨
    ∃ p, w.client.loopback.peer? peer = some p ∧ p.canWrite w.client.loopback.medium = false

theorem IsFlushing.isAtWork (h : w.IsFlushing id peer index n) (o : w.client.outline.Orderly) :
    w.IsAtWork id peer index := by
  obtain ⟨generation, stage, queue, live, found, ends, -⟩ := h
  refine ⟨⟨generation, stage, live⟩, ?_⟩
  obtain ⟨isQueued, turning⟩ := Client.turning?_eq o live rfl false
  have ready (ready : w.client.isWriteReady peer index stage = true) :
      isDue id w (.turn id false) = true := by
    unfold isDue
    dsimp only
    rw [turning, Option.any_some, beq_self_eq_true, Bool.true_and]
    exact ready
  cases stage with
  | closing => exact .inl (ready rfl)
  | idle =>
    refine .inl (ready ?_)
    obtain ⟨box, there, rfl⟩ : ∃ box, w.client.session.outboxes[index]? = some box ∧
        box.commands = queue := by
      have found : (w.client.session.outboxes.map Outbox.commands)[index]? = some queue := found
      rw [List.getElem?_map] at found
      exact Option.map_eq_some_iff.mp found
    have stops := ends.resolve_left nofun
    have waits : box.commands.isEmpty = false := by
      cases commands : box.commands with
      | nil =>
        rw [commands] at stops
        exact absurd stops List.not_mem_nil
      | cons => rfl
    unfold Client.isWriteReady
    dsimp only
    rw [there, Option.all_some, waits]
    exact Bool.or_true _
  | writing left =>
    unfold Client.isWriteReady at ready
    dsimp only at ready
    cases there : w.client.loopback.peer? peer with
    | none =>
      rw [there] at ready
      exact .inl (ready rfl)
    | some p =>
      cases can : p.canWrite w.client.loopback.medium with
      | true =>
        rw [there] at ready
        exact .inl (ready can)
      | false => exact .inr ⟨p, rfl, can⟩

/-! ## From the close on -/

/-- The session is not closed at the turn of a writer, so the writer of the current connection
stays. -/
theorem writer_of_close (o : w.client.outline.Orderly)
    (live : (id, .write peer generation index stage) ∈ w.client.outline.jobs)
    (before : w.client.session.lifecycle ≠ .closed)
    (after : (w.perform event).client.session.lifecycle = .closed) :
    (id, .write peer generation index stage) ∈ (w.perform event).client.outline.jobs := by
  rcases follows_perform w event with stirs | ⟨other, heeds, a, m, rfl, live', shift, stirs⟩
  · exact absurd (stirs.same_state.1.symm.trans after) before
  · have apart : id ≠ other := by
      rintro rfl
      cases o.unique live live'
      exact before (shift.lifecycle_of_write.symm.trans (stirs.same_state.1.symm.trans after))
    exact stirs.mem_of_live (o.shift shift) (shift.mem_of_ne live apart) rfl

/-- With the close, the command to stop is put behind everything that was sent. -/
theorem queue_of_close (before : w.client.session.lifecycle ≠ .closed)
    (after : (w.perform event).client.session.lifecycle = .closed)
    (current : w.client.session.outbox? = some index) :
    (w.perform event).client.session.queues[index]? =
      w.client.session.queues[index]?.map (· ++ [.stop]) := by
  obtain ⟨t, deals, same | ⟨-, -, dropped⟩⟩ := comes_perform w event
  · rw [same] at after ⊢
    exact (Session.feeds_of_close? (deals.close? before after)).2 index current
  · rw [dropped] at after ⊢
    rw [Session.queues_drop]
    have after : t.lifecycle = .closed := by
      rw [Session.drop_eq] at after
      exact after
    exact (Session.feeds_of_close? (deals.close? before after)).2 index current

/-- The writer of the connection that is current when the session is closed works off what was
sent, unless its sink has failed before. -/
theorem exists_flushing (settings : Settings) (medium : Medium) (events : List Event)
    (event : Event) (own : (opened settings medium events)[index]? = some peer)
    (current : (run settings medium events).client.session.outbox? = some index)
    (after : (run settings medium (events ++ [event])).client.session.lifecycle = .closed)
    (works : peer ∉ failed settings medium events) :
    ∃ id n, (run settings medium (events ++ [event])).IsFlushing id peer index n := by
  rw [run_concat] at after ⊢
  have reached := Outline.reachable_run settings medium events
  have lines := (wired_run settings medium events).lines
  obtain ⟨ready, -⟩ := reached.staffed.linked.current index current
  have before : (run settings medium events).client.session.lifecycle ≠ .closed := by
    intro closed
    cases ready.symm.trans closed
  obtain ⟨⟨id, activity⟩, live, serves⟩ := reached.staffed.served index current
  cases activity with
  | write peer' generation outbox stage =>
    cases Option.some.inj serves
    cases Option.some.inj (own.symm.trans (lines.writes _ _ _ _ _ live))
    obtain ⟨left, stops, found, -⟩ := (wired_run settings medium events).flow index peer own
    refine ⟨id, _, generation, stage, left.map .send ++ stops ++ [.stop],
      writer_of_close reached.orderly live before after, ?_, .inr ?_, Nat.le_refl _⟩
    · rw [queue_of_close before after current, found]
      rfl
    · exact List.mem_append_right _ (List.mem_singleton.mpr rfl)
  | lose generation outbox? stage =>
    -- it has stopped writing before the close, because its sink has failed
    cases show outbox? = some index from serves
    exact absurd (mem_failed settings medium events _ _ _ _ live peer own) works
  | _ => cases serves

/-- In a closed session a writer that works off what was sent comes to its end, or it does not
get the turns for it, or waits. -/
theorem flushing_run (settings : Settings) (medium : Medium) {events : List Event}
    (closed : (run settings medium events).client.session.lifecycle = .closed)
    (h : (run settings medium events).IsFlushing id peer index n) (later : List Event)
    (works : peer ∉ failed settings medium (events ++ later)) :
    .close ∈ sinkCalls settings medium (events ++ later) peer ∨
      ∃ m, m + (run settings medium events).dueTurns id later ≤ n ∧
        (run settings medium (events ++ later)).IsFlushing id peer index m := by
  induction later using List.reverseRecOn with
  | nil =>
    rw [List.append_nil]
    exact .inr ⟨n, Nat.le_refl n, h⟩
  | append_singleton later event ih =>
    rw [← List.append_assoc, failed_concat, List.mem_append, not_or] at works
    rw [← List.append_assoc, sinkCalls_concat, run_concat]
    rcases ih works.1 with closes | ⟨m, turns, still⟩
    · exact .inl (List.mem_append_left _ closes)
    · have reached := Outline.reachable_run settings medium (events ++ later)
      -- a closed session has no current connection, so nothing more is put into the queue
      have past : (run settings medium (events ++ later)).client.session.outbox? ≠ some index := by
        intro current
        obtain ⟨ready, -⟩ := reached.staffed.linked.current index current
        rw [run_append] at ready
        cases ready.symm.trans (shuts_performAll closed later).lifecycle
      rcases still.perform (wired_run settings medium (events ++ later)) reached.orderly
          (size_le_mostCalls settings medium (events ++ later)) past works.2 with
        closes | ⟨m', less, still⟩
      · exact .inl (List.mem_append_right _ closes)
      · refine .inr ⟨m', ?_, still⟩
        rw [dueTurns_concat, ← run_append]
        omega

/-! ## In order, and all of it -/

/-- What the sinks of the connections are asked in a run. -/
structure WritesInOrder (settings : Settings) (medium : Medium) (events : List Event) : Prop where
  /-- Every connection has a sink of its own. -/
  apart : (opened settings medium events).Nodup
  strangers : ∀ peer ∉ opened settings medium events, sinkCalls settings medium events peer = []
  /-- The frames that a sink is handed were sent over its connection while that was the current
  one, and in this order. -/
  ordered : ∀ index peer, (opened settings medium events)[index]? = some peer →
    (sinkCalls settings medium events peer).filterMap SinkCall.frame? <+:
      sentOver settings medium events index
  /-- Before a sink is closed it is handed everything that was sent, and after it nothing. -/
  last : ∀ index peer, (opened settings medium events)[index]? = some peer →
    .close ∈ sinkCalls settings medium events peer →
    sinkCalls settings medium events peer =
      (sentOver settings medium events index).map .send ++ [.close]
  /-- At every event a sink does what it is asked. -/
  obeys : ∀ event peer, ∀ call ∈ (run settings medium events).callsTo peer event,
    (run settings medium events).Obeys (run settings medium (events ++ [event])) peer call
  /-- If the session is closed while a connection is the current one, its writer hands over what
  was sent and closes the sink; unless the sink fails, it needs no more than so many turns at
  which it can go on, and all that it ever waits for is room in its sink. -/
  flushes : ∀ index peer event, (opened settings medium events)[index]? = some peer →
    (run settings medium events).client.session.outbox? = some index →
    (run settings medium (events ++ [event])).client.session.lifecycle = .closed →
    ∃ writer limit, ∀ later, peer ∉ failed settings medium (events ++ event :: later) →
      sinkCalls settings medium (events ++ event :: later) peer =
          (sentOver settings medium (events ++ event :: later) index).map .send ++ [.close] ∨
        (run settings medium (events ++ [event])).dueTurns writer later < limit ∧
          (run settings medium (events ++ event :: later)).IsAtWork writer peer index

/-- **Frames are written in the order of the calls, and a close leaves none behind.** -/
theorem writes_in_order (settings : Settings) (medium : Medium) (events : List Event) :
    WritesInOrder settings medium events where
  apart := (wired_run settings medium events).lines.apart
  strangers := (wired_run settings medium events).strangers
  ordered index peer own := by
    obtain ⟨left, -, -, -, all⟩ := (wired_run settings medium events).flow index peer own
    rw [all]
    exact List.prefix_append ..
  last index peer own closes := ((wired_run settings medium events).closed index peer own closes).1
  obeys event peer call asked := by
    rw [run_concat]
    exact obeys_perform (size_le_mostCalls settings medium events)
      (wired_run settings medium events).lines asked
  flushes index peer event own current closed := by
    by_cases works : peer ∈ failed settings medium events
    · -- then its sink has failed, whatever comes later
      exact ⟨0, 0, fun later fine => absurd (mem_failed_append works _) fine⟩
    · obtain ⟨writer, n, flushing⟩ :=
        exists_flushing settings medium events event own current closed works
      refine ⟨writer, n, fun later fine => ?_⟩
      rw [List.append_cons] at fine ⊢
      rcases flushing_run settings medium closed flushing later fine with closes | ⟨m, turns, still⟩
      · have wired := wired_run settings medium (events ++ [event] ++ later)
        exact .inl (wired.closed index peer (getElem?_opened (getElem?_opened own _) _)
          closes).1
      · have left := still.pos
        have reached := Outline.reachable_run settings medium (events ++ [event] ++ later)
        exact .inr ⟨by omega, still.isAtWork reached.orderly⟩

end World

end LspClient
