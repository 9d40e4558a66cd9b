import LspClient.Proofs.Client.Numbers
import LspClient.Proofs.Client.Wire
import LspClient.Proofs.Session.Allocation

/-!
# Numbers in the order of the queue

A request is given its id and put into the queue of its connection in one step, so whatever
else goes on meanwhile, the ids that the session generates stand in the queues in the order in
which it has generated them. `placed` lists everything that was ever put into a queue, with its
connection; connection by connection that is what was sent over it (`sentOver_eq`). In this list
the generated ids rise, on each connection and from one connection to the next, as long as the
counter does not come to the end of the positive numbers (`allocates_in_order`).
-/

namespace LspClient

/-- A message that was put into the queue of a connection. -/
structure Placed where
  connection : Nat
  /-- The id that the sender of a request has chosen. -/
  chosen? : Option RequestId
  message : Envelope

/-- The request in it, with the id that its sender has chosen. -/
def Placed.request? (p : Placed) : Option (Option RequestId × Request) :=
  match p.message with
  | .request request => some (p.chosen?, request)
  | _ => none

/-- The id in it that the session has generated. -/
def Placed.generated? (p : Placed) : Option RequestId :=
  match p.request? with
  | some (none, request) => some request.id
  | _ => none

/-- The id that the sender of a request has chosen. -/
def Errand.chosen? : Errand → Option RequestId
  | .request id? _ _ => id?
  | _ => none

namespace World

/-- What is put into the current queue at an event. -/
def places (w : World) (event : Event) : List Placed :=
  match w.client.session.outbox?, w.errand? event, w.sends? event with
  | some index, some errand, some message => [⟨index, errand.chosen?, message⟩]
  | _, _, _ => []

/-- All that was put into queues in a run, in order. -/
def placed (settings : Settings) (medium : Medium) (events : List Event) : List Placed :=
  gathered places { client := Client.create settings medium } events

variable {settings : Settings} {medium : Medium} {w : World} {event : Event} {index : Nat}
  {p : Placed} {id : RequestId} {events : List Event}

theorem placed_concat (settings : Settings) (medium : Medium) (events : List Event)
    (event : Event) : placed settings medium (events ++ [event]) =
      placed settings medium events ++ (run settings medium events).places event :=
  gathered_concat ..

/-! ## One event -/

/-- Nothing is sent but on an errand. -/
theorem exists_errand {message : Envelope} (sends : w.sends? event = some message) :
    ∃ errand, w.errand? event = some errand := by
  obtain ⟨errand, own, -⟩ := Option.bind_eq_some_iff.mp sends
  exact ⟨errand, own⟩

theorem mem_places (h : p ∈ w.places event) :
    w.client.session.outbox? = some p.connection ∧ w.sends? event = some p.message := by
  unfold places at h
  split at h
  · next index errand message current own sends =>
    cases List.mem_singleton.mp h
    exact ⟨current, sends⟩
  · exact absurd h List.not_mem_nil

/-- At most one message is put into a queue at an event. -/
theorem places_cases (w : World) (event : Event) :
    w.places event = [] ∨ ∃ p, w.places event = [p] := by
  unfold places
  split
  · exact .inr ⟨_, rfl⟩
  · exact .inl rfl

/-- What is put into the queue of a connection is what is sent over it. -/
theorem sendsOver_eq (w : World) (index : Nat) (event : Event) : w.sendsOver index event =
    ((w.places event).filter (·.connection == index)).map (·.message.encode) := by
  unfold sendsOver places
  cases sends : w.sends? event with
  | none =>
    simp only [Option.toList_none, List.map_nil, ite_self]
    split
    · next same => cases same
    · rfl
  | some message =>
    obtain ⟨errand, own⟩ := exists_errand sends
    rw [own]
    cases w.client.session.outbox? with
    | none => rfl
    | some current =>
      by_cases here : current = index
      · simp [here]
      · simp [here]

/-- A request that is sent is put into the current queue. -/
theorem outbox?_of_asks {sent : Option RequestId × Request} (h : sent ∈ w.asks event) :
    ∃ index, w.client.session.outbox? = some index := by
  obtain ⟨ticket, -, done, -⟩ := mem_asks h
  obtain ⟨index, registered, ready, -⟩ := Session.request_eq_ok done
  exact ⟨index, (Session.readyOutbox_eq_ok_iff.mp ready).2⟩

/-- The requests that are sent are those that are put into the current queue. -/
theorem asks_eq (w : World) (event : Event) :
    w.asks event = (w.places event).filterMap Placed.request? := by
  by_cases none : w.asks event = []
  · rw [none]
    refine (List.filterMap_eq_nil_iff.mpr fun p member => ?_).symm
    obtain ⟨-, sends⟩ := mem_places member
    cases message : p.message with
    | request request =>
      rw [message] at sends
      obtain ⟨id?, ticket, own, -⟩ := sends?_eq_request sends
      unfold asks at none
      rw [own, sends] at none
      cases none
    | notification => unfold Placed.request?; rw [message]
    | response => unfold Placed.request?; rw [message]
  · obtain ⟨sent, member⟩ := List.exists_mem_of_ne_nil _ none
    obtain ⟨index, current⟩ := outbox?_of_asks member
    unfold asks at member
    split at member
    · next id? method params request own sends =>
      unfold asks places
      rw [own, sends, current]
      rfl
    · exact absurd member List.not_mem_nil

/-- The id that the session generates for a request is the fresh one, the counter goes past it,
and it is the last number that the counter goes through. -/
theorem generated?_of_places (o : w.client.outline.Orderly) (member : p ∈ w.places event)
    (own : p.generated? = some id) : id = .number w.client.session.freshId ∧
      (w.perform event).client.session.nextId = w.client.session.freshId + 1 ∧
      (w.counts event).getLast? = some w.client.session.freshId := by
  have asked : ∃ request : Request, (none, request) ∈ w.asks event ∧ request.id = id := by
    rw [asks_eq]
    unfold Placed.generated? at own
    split at own
    · next request same =>
      cases own
      exact ⟨request, List.mem_filterMap.mpr ⟨p, member, same⟩, rfl⟩
    · cases own
  obtain ⟨request, asks, rfl⟩ := asked
  obtain ⟨ticket, errand, sent, named⟩ := mem_asks asks
  obtain ⟨number, same, -, last⟩ := number_of_request o errand sent
  obtain ⟨index, registered, -, done, after⟩ := Session.request_eq_ok sent
  obtain ⟨fresh, next⟩ := Session.register_none done
  obtain ⟨-, session⟩ := issues o errand sent
  rw [fresh] at same named
  cases same
  refine ⟨named.symm, ?_, last⟩
  rw [session, after]
  exact next

/-- Unless a connection is installed, the current one is the one that was current before. -/
theorem outbox?_of_perform (room : w.client.session.correlator.size ≤ mostCalls)
    {opened : List Nat} (lines : w.client.outline.Lines opened) (installs : w.opens event = [])
    (current : (w.perform event).client.session.outbox? = some index) :
    w.client.session.outbox? = some index := by
  by_cases takes : ∃ i, w.dealing event = .take i
  · obtain ⟨i, take⟩ := takes
    obtain ⟨job, peer, generation, acts, activity⟩ := dealing_eq_take take
    obtain ⟨-, live, -⟩ := acting?_eq_some acts
    rw [activity] at live
    obtain ⟨session, stage, outline, same, -⟩ :=
      writer_cases room acts activity (lines.inside live)
    have own : (w.perform event).client.session = session := congrArg Outline.session outline
    rw [← same, ← own]
    exact current
  · have feeds := feeds_perform (fun i take => takes ⟨i, take⟩)
      fun install => dealing_eq_install install installs
    rcases feeds.current with same | none
    · rw [← same]
      exact current
    · rw [none] at current
      cases current

/-! ## Runs -/

/-- What was put into the queue of a connection in a run is what was sent over it. -/
theorem sentOver_eq (settings : Settings) (medium : Medium) (events : List Event) (index : Nat) :
    sentOver settings medium events index =
      ((placed settings medium events).filter (·.connection == index)).map
        (·.message.encode) := by
  induction events using List.reverseRecOn with
  | nil => rfl
  | append_singleton events event ih =>
    rw [sentOver_concat, placed_concat, List.filter_append, List.map_append, ← ih, ← sendsOver_eq]

/-- The requests that were sent in a run are those that were put into queues. -/
theorem asked_eq (settings : Settings) (medium : Medium) (events : List Event) :
    asked settings medium events = (placed settings medium events).filterMap Placed.request? := by
  induction events using List.reverseRecOn with
  | nil => rfl
  | append_singleton events event ih =>
    rw [asked_concat, placed_concat, List.filterMap_append, ← ih, ← asks_eq]

/-- The current connection is the last that was installed. -/
theorem current_eq_last {events : List Event}
    (current : (run settings medium events).client.session.outbox? = some index) :
    index + 1 = (opened settings medium events).length := by
  induction events using List.reverseRecOn with
  | nil => cases current
  | append_singleton events event ih =>
    have room := size_le_mostCalls settings medium events
    have wired := wired_run settings medium events
    rw [opened_concat, List.length_append]
    rw [run_concat] at current
    by_cases installs : (run settings medium events).opens event = []
    · rw [installs, ih (outbox?_of_perform room wired.lines installs current)]
      rfl
    · obtain ⟨peer, member⟩ := List.exists_mem_of_ne_nil _ installs
      obtain ⟨-, latest, -⟩ := queues_of_opens room installs
      rw [latest] at current
      cases current
      rw [(wired.opens_new room member).1, wired.lines.length]
      rfl

/-- What is put into a queue goes to the last connection, and what was put into queues before
went to that one or to earlier ones. -/
theorem placed_pairwise (settings : Settings) (medium : Medium) (events : List Event) :
    (placed settings medium events).Pairwise (·.connection ≤ ·.connection) ∧
      ∀ p ∈ placed settings medium events,
        p.connection < (opened settings medium events).length := by
  induction events using List.reverseRecOn with
  | nil => exact ⟨List.Pairwise.nil, fun _ h => absurd h List.not_mem_nil⟩
  | append_singleton events event ih =>
    obtain ⟨sorted, below⟩ := ih
    have last {p : Placed} (member : p ∈ (run settings medium events).places event) :
        p.connection + 1 = (opened settings medium events).length :=
      current_eq_last (mem_places member).1
    rw [placed_concat, opened_concat]
    refine ⟨List.pairwise_append.mpr ⟨sorted, ?_, fun p old q new => ?_⟩, fun p member => ?_⟩
    · refine List.pairwise_of_forall_mem_list fun p hp q hq => ?_
      have := last hp
      have := last hq
      omega
    · have := below p old
      have := last new
      omega
    · rw [List.length_append]
      rcases List.mem_append.mp member with old | new
      · have := below p old
        omega
      · have := last new
        omega

/-- The generated ids in the queues are numbers that the counter has gone through, in the same
order. -/
theorem exists_numbers (settings : Settings) (medium : Medium) (events : List Event) :
    ∃ numbers : List Int64, (placed settings medium events).filterMap Placed.generated? =
        numbers.map .number ∧ numbers.Sublist (generated settings medium events) := by
  induction events using List.reverseRecOn with
  | nil => exact ⟨[], rfl, List.nil_sublist _⟩
  | append_singleton events event ih =>
    obtain ⟨numbers, same, within⟩ := ih
    rw [placed_concat, generated_concat, List.filterMap_append, same]
    rcases places_cases (run settings medium events) event with none | ⟨p, one⟩
    · rw [none]
      exact ⟨numbers, List.append_nil _, within.trans (List.sublist_append_left _ _)⟩
    · rw [one]
      cases own : p.generated? with
      | none =>
        refine ⟨numbers, ?_, within.trans (List.sublist_append_left _ _)⟩
        rw [List.filterMap_cons_none own]
        exact List.append_nil _
      | some id =>
        have member : p ∈ (run settings medium events).places event := by
          rw [one]
          exact List.mem_singleton_self p
        obtain ⟨rfl, -, last⟩ := generated?_of_places
          (Outline.reachable_run settings medium events).orderly member own
        refine ⟨numbers ++ [(run settings medium events).client.session.freshId], ?_,
          within.append (List.singleton_sublist.mpr (List.mem_of_getLast? last))⟩
        rw [List.filterMap_cons_some own, List.map_append]
        rfl

/-- The counter stands behind the numbers that it has gone through. -/
theorem nextId_run (settings : Settings) (medium : Medium) (events : List Event) :
    (run settings medium events).client.session.nextId =
      Int64.ofNat ((generated settings medium events).length + 1) := by
  obtain ⟨n, all, next⟩ := gathered_counts { client := Client.create settings medium } events
  have length : (generated settings medium events).length = n := by
    unfold generated
    rw [all, List.length_map, List.length_range]
  rw [length, Nat.add_comm, Int64.ofNat_add]
  exact next

/-- As long as there are fewer than 2^63, all numbers that the counter has gone through are
positive. -/
theorem one_le_of_generated (few : (generated settings medium events).length < 2 ^ 63)
    {n : Int64} (member : n ∈ generated settings medium events) : 1 ≤ n := by
  rw [generated_eq] at member
  obtain ⟨i, within, rfl⟩ := List.mem_map.mp member
  rw [List.mem_range] at within
  exact Session.one_le_ofNat_succ (by omega)

/-- How the ids of requests come about in a run that bring none, and where they go. -/
structure AllocatesInOrder (settings : Settings) (medium : Medium) (events : List Event) :
    Prop where
  /-- What a request would get next. -/
  allocates : (run settings medium events).client.session.Allocates
    (generated settings medium events).length
  /-- A generated id that was put into a queue is the one that was fresh at that moment, and the
  counter has gone past it. -/
  fresh : ∀ before event later, events = before ++ event :: later →
    ∀ p ∈ (run settings medium before).places event, ∀ id, p.generated? = some id →
      id = .number (run settings medium before).client.session.freshId ∧
      ((run settings medium before).perform event).client.session.nextId =
        (run settings medium before).client.session.freshId + 1
  /-- All requests that were sent were put into queues. -/
  requests : asked settings medium events =
    (placed settings medium events).filterMap Placed.request?
  /-- What was put into the queue of a connection, in this order, is what was sent over it. -/
  sent : ∀ index, sentOver settings medium events index =
    ((placed settings medium events).filter (·.connection == index)).map (·.message.encode)
  /-- It was handed over in this order, or stands in the queue. -/
  flow : ∀ index peer, (opened settings medium events)[index]? = some peer →
    (run settings medium events).client.session.Flow index (sentOver settings medium events index)
      ((sinkCalls settings medium events peer).filterMap SinkCall.frame?)
  /-- Connections come one after another. -/
  connections : (placed settings medium events).Pairwise (·.connection ≤ ·.connection)
  /-- Unless 2^63 numbers are generated, the generated ids in the queues are positive and rise. -/
  rising : (generated settings medium events).length < 2 ^ 63 →
    ∃ numbers : List Int64, (placed settings medium events).filterMap Placed.generated? =
        numbers.map .number ∧ numbers.Pairwise (· < ·) ∧ ∀ n ∈ numbers, 1 ≤ n

/-- **Generated ids rise in the order of the queues.** Whatever requests go on at the same time,
a request that brings no id gets the least number from the counter on that no outstanding call
has, and these numbers rise in the order in which the requests are put into the queues, on each
connection and from one connection to the next. -/
theorem allocates_in_order (settings : Settings) (medium : Medium) (events : List Event) :
    AllocatesInOrder settings medium events where
  allocates := Session.allocates
    (Nat.lt_of_le_of_lt (size_le_mostCalls settings medium events) (by decide))
    (nextId_run settings medium events)
  fresh before event later _ p member id own := by
    obtain ⟨same, next, -⟩ := generated?_of_places
      (Outline.reachable_run settings medium before).orderly member own
    exact ⟨same, next⟩
  requests := asked_eq settings medium events
  sent := sentOver_eq settings medium events
  flow := (wired_run settings medium events).flow
  connections := (placed_pairwise settings medium events).1
  rising few := by
    obtain ⟨numbers, same, within⟩ := exists_numbers settings medium events
    exact ⟨numbers, same, (generated_pairwise few).sublist within,
      fun n member => one_le_of_generated few (within.subset member)⟩

end World

end LspClient
