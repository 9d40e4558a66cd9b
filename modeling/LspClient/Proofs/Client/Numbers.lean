import LspClient.Proofs.Client.Requests

/-!
# The numbers that a session generates

A request that brings no id gets the next number that no outstanding call has. `generated`
lists the numbers that the counter has gone through in a run, those that it skipped
included; they are one, two, three and so on. So as long as there are fewer than 2^63 of
them, no id is generated twice.

They share their range with the numbers that callers choose. The counter skips such a
number only while its call is outstanding, so a number that a caller has used earlier, and
that has been answered, cancelled or dropped since, is generated once more
(`number_used_again`). This is the only way in which an id that has been on the wire comes
back (`World.generates_fresh`).
-/

namespace LspClient

open Correlator

namespace Session

variable {s t : Session} {ticket : Ticket}

/-- The numbers that the counter has gone through from one session to the next. -/
def counted (s t : Session) : List Int64 :=
  (List.range (t.nextId - s.nextId).toBitVec.toNat).map fun i => s.nextId + Int64.ofNat i

theorem ofNat_toNat (n : Int64) : Int64.ofNat n.toBitVec.toNat = n := by
  apply Int64.toBitVec_inj.mp
  simp

theorem nextId_counted (s t : Session) :
    t.nextId = s.nextId + Int64.ofNat (s.counted t).length := by
  unfold counted
  rw [List.length_map, List.length_range, ofNat_toNat, Int64.add_comm, Int64.sub_add_cancel]

theorem counted_eq {n : Nat} (h : t.nextId = s.nextId + Int64.ofNat n) (bound : n < 2 ^ 64) :
    s.counted t = (List.range n).map fun i => s.nextId + Int64.ofNat i := by
  have distance : (t.nextId - s.nextId).toBitVec.toNat = n := by
    rw [h, Int64.add_comm, Int64.add_sub_cancel]
    simp only [Int64.toBitVec_ofNat', BitVec.toNat_ofNat]
    exact Nat.mod_eq_of_lt bound
  unfold counted
  rw [distance]

theorem counted_range (s t : Session) : s.counted t =
    (List.range (s.counted t).length).map fun i => s.nextId + Int64.ofNat i := by
  simp [counted]

/-- A request that is sent takes up room for one call. -/
theorem size_request {id? : Option RequestId} {method : String} {params : Option Json} {now : Nat}
    (sent : (s.request id? method params now).2 = .ok ticket) :
    (s.request id? method params now).1.correlator.size = s.correlator.size + 1 := by
  obtain ⟨index, registered, -, done, after⟩ := request_eq_ok sent
  obtain ⟨correlator, nextId, inTable, rfl, -⟩ := register_eq_ok done
  rw [after]
  show correlator.pending.length = _
  rw [(Correlator.register_eq_ok inTable).1, List.length_append]
  rfl

/-- The number of a request that brings none is the last that the counter has gone through,
and no outstanding call has it. -/
theorem counted_request {method : String} {params : Option Json} {now : Nat}
    (room : s.correlator.size + 1 < 2 ^ 64)
    (sent : (s.request none method params now).2 = .ok ticket) :
    ∃ number, ticket.id = .number number ∧ s.correlator.contains ticket.id = false ∧
      (s.counted (s.request none method params now).1).getLast? = some number := by
  obtain ⟨index, registered, -, done, after⟩ := request_eq_ok sent
  obtain ⟨own, next⟩ := register_none done
  refine ⟨s.freshId, own, ?_, ?_⟩
  · rw [own]
    exact freshId_free (by omega)
  · obtain ⟨skipped, -, found, between⟩ := s.freshFrom_eq (s.correlator.size + 1) s.nextId
    -- not all numbers that were looked at can be taken
    have fewer : skipped ≤ s.correlator.size := by
      by_contra more
      obtain ⟨i, within, free⟩ := exists_free (s := s) (by omega)
      rw [between i (by omega)] at free
      cases free
    have distance : (s.request none method params now).1.nextId =
        s.nextId + Int64.ofNat (skipped + 1) := by
      rw [after]
      show registered.nextId = _
      rw [next]
      show s.freshFrom (s.correlator.size + 1) s.nextId + 1 = _
      rw [found, Int64.ofNat_add, ← Int64.add_assoc]
      rfl
    rw [counted_eq distance (by omega), List.range_succ, List.map_append]
    simp only [List.map_cons, List.map_nil, List.getLast?_concat, Option.some.injEq]
    exact found.symm

end Session

namespace World

variable {w : World} {event : Event} {events : List Event} {settings : Settings} {medium : Medium}

/-! ## Numbers in order -/

/-- The numbers that the counter goes through at an event. -/
def counts (w : World) (event : Event) : List Int64 :=
  w.client.session.counted (w.perform event).client.session

theorem gathered_counts (w : World) (events : List Event) :
    ∃ n, gathered counts w events =
        ((List.range n).map fun i => w.client.session.nextId + Int64.ofNat i) ∧
      (w.performAll events).client.session.nextId =
        w.client.session.nextId + Int64.ofNat n := by
  induction events using List.reverseRecOn with
  | nil => exact ⟨0, rfl, (Int64.add_zero _).symm⟩
  | append_singleton events event ih =>
    obtain ⟨n, all, next⟩ := ih
    let s := (w.performAll events).client.session
    let t := ((w.performAll events).perform event).client.session
    refine ⟨n + (s.counted t).length, ?_, ?_⟩
    · rw [gathered_concat, all, List.range_add, List.map_append, List.map_map]
      congr 1
      refine (Session.counted_range s t).trans (List.map_congr_left fun i _ => ?_)
      show s.nextId + _ = _
      rw [next, Function.comp_apply, Int64.ofNat_add, Int64.add_assoc]
    · rw [performAll_concat, Session.nextId_counted s t, next, Int64.ofNat_add, Int64.add_assoc]

/-- The numbers that the session has generated in a run, those that it skipped included. -/
def generated (settings : Settings) (medium : Medium) (events : List Event) : List Int64 :=
  gathered counts { client := Client.create settings medium } events

theorem generated_concat (settings : Settings) (medium : Medium) (events : List Event)
    (event : Event) : generated settings medium (events ++ [event]) =
      generated settings medium events ++ (run settings medium events).counts event :=
  gathered_concat ..

/-- They are one, two, three and so on. -/
theorem generated_eq (settings : Settings) (medium : Medium) (events : List Event) :
    generated settings medium events =
      (List.range (generated settings medium events).length).map fun i => Int64.ofNat (i + 1) := by
  obtain ⟨n, all, -⟩ := gathered_counts { client := Client.create settings medium } events
  have inOrder : generated settings medium events =
      (List.range n).map fun i => Int64.ofNat (i + 1) := by
    unfold generated
    rw [all]
    refine List.map_congr_left fun i _ => ?_
    rw [Nat.add_comm, Int64.ofNat_add]
    rfl
  have length : (generated settings medium events).length = n := by
    rw [inOrder, List.length_map, List.length_range]
  rw [length]
  exact inOrder

/-- Those that come later are greater, as long as there are fewer than 2^63. -/
theorem generated_pairwise (few : (generated settings medium events).length < 2 ^ 63) :
    (generated settings medium events).Pairwise (· < ·) := by
  have ordered : (List.range (generated settings medium events).length).Pairwise (· < ·) :=
    List.pairwise_lt_range
  rw [generated_eq, List.pairwise_map]
  refine ordered.imp_of_mem fun ha hb less => ?_
  rw [List.mem_range] at ha hb
  exact (Int64.ofNat_lt_iff_lt (by omega) (by omega)).mpr (Nat.succ_lt_succ less)

/-! ## Requests that are sent -/

/-- The request that is sent at an event. -/
theorem sends?_eq_request {request : Request} (h : w.sends? event = some (.request request)) :
    ∃ id? ticket, w.errand? event = some (.request id? request.method request.params) ∧
      (w.client.session.request id? request.method request.params w.client.clock).2 =
        .ok ticket ∧ ticket.id = request.id := by
  obtain ⟨errand, asks, message⟩ := Option.bind_eq_some_iff.mp h
  obtain ⟨id?, ticket, rfl, sent, own⟩ := Session.message?_eq_request message
  exact ⟨id?, ticket, asks, sent, own⟩

/-- The number that a request without an id gets has just been generated, and no outstanding
call has it. -/
theorem number_of_request (o : w.client.outline.Orderly) {method : String}
    {params : Option Json} {ticket : Ticket}
    (asks : w.errand? event = some (.request none method params))
    (sent : (w.client.session.request none method params w.client.clock).2 = .ok ticket) :
    ∃ number, ticket.id = .number number ∧
      w.client.session.correlator.contains ticket.id = false ∧
      (w.counts event).getLast? = some number := by
  obtain ⟨-, after⟩ := issues o asks sent
  obtain ⟨room, -⟩ := errand?_eq_some asks
  have bound : (w.perform event).client.session.correlator.size ≤ mostCalls := by
    rw [perform_of_room room]
    exact of_decide_eq_true room
  rw [after, Session.size_request sent] at bound
  unfold counts
  rw [after]
  exact Session.counted_request (Nat.lt_of_le_of_lt bound (by decide)) sent

/-- The request that is sent at an event, with the id that its caller has chosen for it. -/
def asks (w : World) (event : Event) : List (Option RequestId × Request) :=
  match w.errand? event, w.sends? event with
  | some (.request id? _ _), some (.request request) => [(id?, request)]
  | _, _ => []

/-- All requests that were sent in a run. -/
def asked (settings : Settings) (medium : Medium) (events : List Event) :
    List (Option RequestId × Request) :=
  gathered asks { client := Client.create settings medium } events

theorem asked_concat (settings : Settings) (medium : Medium) (events : List Event)
    (event : Event) : asked settings medium (events ++ [event]) =
      asked settings medium events ++ (run settings medium events).asks event :=
  gathered_concat ..

theorem mem_asks {id? : Option RequestId} {request : Request}
    (h : (id?, request) ∈ w.asks event) :
    ∃ ticket, w.errand? event = some (.request id? request.method request.params) ∧
      (w.client.session.request id? request.method request.params w.client.clock).2 =
        .ok ticket ∧ ticket.id = request.id := by
  unfold asks at h
  split at h
  · next own sent =>
    cases List.mem_singleton.mp h
    obtain ⟨id?, ticket, asks, sent, named⟩ := sends?_eq_request sent
    rw [asks] at own
    cases own
    exact ⟨ticket, asks, sent, named⟩
  · cases h

/-- Each request of a run has the id that its caller has chosen, or one of the numbers that the
session has generated. -/
theorem id_of_asked (settings : Settings) (medium : Medium) (events : List Event) :
    ∀ sent ∈ asked settings medium events, sent.1 = some sent.2.id ∨
      ∃ number ∈ generated settings medium events, sent.2.id = .number number := by
  induction events using List.reverseRecOn with
  | nil => exact fun sent member => absurd member List.not_mem_nil
  | append_singleton events event ih =>
    rintro ⟨id?, request⟩ member
    rw [asked_concat, List.mem_append] at member
    rw [generated_concat]
    rcases member with before | now
    · rcases ih _ before with chosen | ⟨number, old, own⟩
      · exact .inl chosen
      · exact .inr ⟨number, List.mem_append_left _ old, own⟩
    · obtain ⟨ticket, asks, sent, named⟩ := mem_asks now
      cases id? with
      | some id =>
        obtain ⟨index, registered, -, done, -⟩ := Session.request_eq_ok sent
        rw [(Session.register_some done).1] at named
        exact .inl (congrArg some named)
      | none =>
        obtain ⟨number, own, -, last⟩ :=
          number_of_request (Outline.reachable_run settings medium events).orderly asks sent
        refine .inr ⟨number, List.mem_append_right _ (List.mem_of_getLast? last), ?_⟩
        exact named.symm.trans own

/-- What holds of the ids that a session generates in a run. -/
structure GeneratesFresh (settings : Settings) (medium : Medium) (events : List Event) :
    Prop where
  /-- The counter goes through the numbers one by one. -/
  inOrder : generated settings medium events =
    (List.range (generated settings medium events).length).map fun i => Int64.ofNat (i + 1)
  /-- As long as fewer than 2^63 are generated, the number of a request that brings none is
  greater than all that were generated before and no outstanding call has it. So if a request
  with this id was sent before, its caller has chosen the id. -/
  fresh : ∀ event request, (none, request) ∈ (run settings medium events).asks event →
    (generated settings medium (events ++ [event])).length < 2 ^ 63 →
    (∃ number, request.id = .number number ∧
      number ∈ generated settings medium (events ++ [event]) ∧
      ∀ earlier ∈ generated settings medium events, earlier < number) ∧
    (run settings medium events).client.session.correlator.contains request.id = false ∧
    ∀ sent ∈ asked settings medium events, sent.2.id = request.id → sent.1 = some request.id
  /-- A response under another id leaves a call outstanding. -/
  unmoved : ∀ event frame id rpc, (run settings medium events).incoming? event = some frame →
    Envelope.decode frame = .ok (.response ⟨some id, rpc⟩) →
    ∀ call ∈ (run settings medium events).client.session.correlator.pending, call.id ≠ id →
      call ∈ ((run settings medium events).perform event).client.session.correlator.pending

/-- **A generated id differs from all that were generated before.** In every run, unless
2^63 numbers are generated, the id of a request that brings none is new among the generated
ids and among those of outstanding calls. So no response to an earlier call without an id
completes it, late as it may come. -/
theorem generates_fresh (settings : Settings) (medium : Medium) (events : List Event) :
    GeneratesFresh settings medium events where
  inOrder := generated_eq settings medium events
  fresh := by
    intro event request asks few
    obtain ⟨ticket, own, sent, named⟩ := mem_asks asks
    obtain ⟨number, same, free, last⟩ :=
      number_of_request (Outline.reachable_run settings medium events).orderly own sent
    rw [named] at same free
    have new : number ∈ (run settings medium events).counts event := List.mem_of_getLast? last
    have greater : ∀ earlier ∈ generated settings medium events, earlier < number := by
      have ordered := generated_pairwise few
      rw [generated_concat, List.pairwise_append] at ordered
      exact fun earlier old => ordered.2.2 earlier old number new
    refine ⟨⟨number, same, ?_, greater⟩, free, fun other old again => ?_⟩
    · rw [generated_concat]
      exact List.mem_append_right _ new
    · rcases id_of_asked settings medium events other old with chosen | ⟨earlier, made, own'⟩
      · rw [chosen, again]
      · rw [again, same] at own'
        cases own'
        exact absurd (greater _ made) Int64.lt_irrefl
  unmoved := by
    intro event frame id rpc taken decoded call member apart
    rcases answer_cases (wellFormed_run settings medium events)
      (size_le_mostCalls settings medium events) taken decoded with
      ⟨other, next, own, answers, outline⟩ | ⟨-, outline⟩
    · have table := congrArg (fun k => k.session.correlator.pending) outline
      dsimp only at table
      show call ∈
        ((run settings medium events).perform event).client.outline.session.correlator.pending
      rw [table]
      refine (answers.entries call).mpr ⟨member, fun same => apart ?_⟩
      rw [same, own]
    · have table := congrArg (fun k => k.session.correlator.pending) outline
      exact table.symm ▸ member

/-- A number that a caller has chosen is generated once more after that call was cancelled. -/
theorem number_used_again :
    let before := firstConnection ++ [.request (some (.number 1)) "early" none,
      .cancel (.number 1)]
    asked {} .messages before = [(some (.number 1), ⟨.number 1, "early", none⟩)] ∧
      (run {} .messages before).asks (.request none "late" none) =
        [(none, ⟨.number 1, "late", none⟩)] := by
  exact ⟨rfl, rfl⟩

end World

end LspClient
