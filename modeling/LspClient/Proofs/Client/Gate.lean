import LspClient.Proofs.Client.Reachable

/-!
# One search at a time

Searches pass the gate one by one. `Gated` is the invariant of the gate: a search past it
holds it, whoever holds it is a search that lives, and those that wait for it are the ones
in its queue. So no two attempts to connect are ever under way at once
(`Gated.one_past_gate`), and a search that waits at the gate waits for one that lives
(`Gated.held_of_waiting`).
-/

namespace LspClient

def Activity.isSearch : Activity → Bool
  | .search .. => true
  | _ => false

/-- Whether a search has passed the gate. -/
def SearchStage.isPastGate : SearchStage → Bool
  | .arriving | .atGate => false
  | _ => true

theorem SearchStage.IsBefore.isPastGate {stage : SearchStage} {attempt : Nat}
    (h : stage.IsBefore attempt) : stage.isPastGate = true := by
  cases stage with
  | backingOff | checking => rfl
  | arriving | atGate | starting | opening | installing | closing | draining | leaving => cases h

theorem Search.isPastGate_afterFailure (why : Search) (error : SessionError) :
    (why.afterFailure error).isPastGate = true := by
  cases why <;> cases error <;> rfl

namespace Outline

/-- The invariant of the gate. -/
structure Gated (k : Outline) : Prop where
  /-- Only the holder is past the gate. -/
  alone : ∀ id why stage, (id, .search why stage) ∈ k.jobs → stage.isPastGate = true →
    k.gateHolder? = some id
  holder : ∀ id, k.gateHolder? = some id →
    ∃ why stage, (id, .search why stage) ∈ k.jobs ∧ stage ≠ .arriving
  queued : ∀ id ∈ k.gateQueue, (∃ why, (id, .search why .atGate) ∈ k.jobs) ∧
    k.gateHolder? ≠ some id
  waiting : ∀ id why, (id, .search why .atGate) ∈ k.jobs →
    k.gateHolder? = some id ∨ id ∈ k.gateQueue
  distinct : k.gateQueue.Nodup
  /-- Nobody waits at a gate that is free. -/
  served : k.gateHolder? = none → k.gateQueue = []

variable {settings : Settings} {medium : Medium} {k k' : Outline} {id : JobId} {a b : Activity}
  {why : Search} {stage next : SearchStage}

/-- The gate depends only on the searches that have arrived at it. -/
theorem Gated.frame (g : k.Gated) (holder : k'.gateHolder? = k.gateHolder?)
    (queue : k'.gateQueue = k.gateQueue)
    (searches : ∀ id why stage, stage ≠ .arriving →
      ((id, .search why stage) ∈ k'.jobs ↔ (id, .search why stage) ∈ k.jobs)) : k'.Gated where
  alone i w s hi past := by
    have arrived : s ≠ .arriving := by
      rintro rfl
      cases past
    rw [holder]
    exact g.alone i w s ((searches i w s arrived).mp hi) past
  holder i hi := by
    rw [holder] at hi
    obtain ⟨w, s, hs, arrived⟩ := g.holder i hi
    exact ⟨w, s, (searches i w s arrived).mpr hs, arrived⟩
  queued i hi := by
    rw [queue] at hi
    rw [holder]
    obtain ⟨⟨w, hw⟩, other⟩ := g.queued i hi
    exact ⟨⟨w, (searches i w .atGate nofun).mpr hw⟩, other⟩
  waiting i w hi := by
    rw [holder, queue]
    exact g.waiting i w ((searches i w .atGate nofun).mp hi)
  distinct := by
    rw [queue]
    exact g.distinct
  served := by
    rw [holder, queue]
    exact g.served

/-- A search that holds the gate goes on behind it. -/
theorem Gated.advance (g : k.Gated) (live : (id, .search why stage) ∈ k.jobs)
    (holder : k.gateHolder? = some id) (past : next.isPastGate = true) :
    (k.put id (.search why next)).Gated where
  alone i w s hi past' := by
    rcases mem_put.mp hi with ⟨old, -⟩ | ⟨heq, -⟩
    · exact g.alone i w s old past'
    · cases heq
      exact holder
  holder i hi := by
    have same : i = id := Option.some.inj (Eq.trans hi.symm holder)
    subst same
    refine ⟨why, next, mem_put.mpr (.inr ⟨rfl, _, live⟩), ?_⟩
    rintro rfl
    cases past
  queued i hi := by
    obtain ⟨⟨w, hw⟩, other⟩ := g.queued i hi
    refine ⟨⟨w, mem_put.mpr (.inl ⟨hw, ?_⟩)⟩, other⟩
    rintro rfl
    exact other holder
  waiting i w hi := by
    rcases mem_put.mp hi with ⟨old, -⟩ | ⟨heq, -⟩
    · exact g.waiting i w old
    · cases heq
      cases past
  distinct := g.distinct
  served := g.served

/-- When the holder leaves, nobody is past the gate. -/
theorem Gated.not_past (g : k.Gated) (holder : k.gateHolder? = some id) {i : JobId}
    (hi : (i, .search why stage) ∈ (k.erase id).jobs) : stage.isPastGate ≠ true := by
  intro past
  obtain ⟨old, other⟩ := mem_erase.mp hi
  have same := g.alone i why stage old past
  rw [holder] at same
  exact other (Option.some.inj same).symm

/-- Who waits at the gate when the holder leaves is in the queue. -/
theorem Gated.mem_queue (g : k.Gated) (holder : k.gateHolder? = some id) {i : JobId}
    (hi : (i, .search why .atGate) ∈ (k.erase id).jobs) : i ∈ k.gateQueue := by
  obtain ⟨old, other⟩ := mem_erase.mp hi
  refine (g.waiting i why old).resolve_left fun same => ?_
  rw [holder] at same
  exact other (Option.some.inj same).symm

/-- Who is in the queue still waits at the gate when the holder leaves. -/
theorem Gated.still_waits (g : k.Gated) (holder : k.gateHolder? = some id) {i : JobId}
    (hi : i ∈ k.gateQueue) : ∃ why, (i, .search why .atGate) ∈ (k.erase id).jobs := by
  obtain ⟨⟨w, hw⟩, other⟩ := g.queued i hi
  refine ⟨w, mem_erase.mpr ⟨hw, ?_⟩⟩
  rintro rfl
  exact other holder

/-- The holder leaves, and nobody waits. -/
theorem Gated.passNobody (g : k.Gated) (holder : k.gateHolder? = some id)
    (queue : k.gateQueue = []) : ({ k with gateHolder? := none }.erase id).Gated where
  alone _ _ _ hi past := absurd past (g.not_past holder hi)
  holder _ hi := nomatch hi
  queued i hi := by
    have waiting : i ∈ k.gateQueue := hi
    rw [queue] at waiting
    cases waiting
  waiting i w hi := by
    have waiting := g.mem_queue holder hi
    rw [queue] at waiting
    cases waiting
  distinct := g.distinct
  served _ := queue

/-- The holder leaves, and the first one in the queue passes. -/
theorem Gated.passFirst (g : k.Gated) (holder : k.gateHolder? = some id) {first : JobId}
    {rest : List JobId} (queue : k.gateQueue = first :: rest) :
    ({ k with gateHolder? := some first, gateQueue := rest }.erase id).Gated where
  alone _ _ _ hi past := absurd past (g.not_past holder hi)
  holder i hi := by
    cases hi
    obtain ⟨w, hw⟩ := g.still_waits holder (i := first) (by rw [queue]; exact List.mem_cons_self)
    exact ⟨w, _, hw, nofun⟩
  queued i hi := by
    -- who passes is not in the queue a second time
    have distinct := g.distinct
    rw [queue, List.nodup_cons] at distinct
    refine ⟨g.still_waits holder (by rw [queue]; exact List.mem_cons_of_mem _ hi), ?_⟩
    rintro heq
    cases heq
    exact distinct.1 hi
  waiting i w hi := by
    have waiting := g.mem_queue holder hi
    rw [queue] at waiting
    rcases List.mem_cons.mp waiting with rfl | later
    · exact .inl rfl
    · exact .inr later
  distinct := by
    have distinct := g.distinct
    rw [queue, List.nodup_cons] at distinct
    exact distinct.2
  served free := nomatch free

/-- The holder leaves, and lets the next one pass. -/
theorem Gated.pass (g : k.Gated) (holder : k.gateHolder? = some id) :
    (k.openGate.erase id).Gated := by
  unfold openGate
  split
  · next queue => exact g.passNobody holder queue
  · next first rest queue => exact g.passFirst holder queue

/-- A search arrives at a free gate. -/
theorem Gated.enter (g : k.Gated) (live : (id, .search why .arriving) ∈ k.jobs)
    (free : k.gateHolder? = none) :
    ({ k with gateHolder? := some id }.put id (.search why .atGate)).Gated where
  alone i w s hi past := by
    rcases mem_put.mp hi with ⟨old, -⟩ | ⟨heq, -⟩
    · have holder := g.alone i w s old past
      rw [free] at holder
      cases holder
    · cases heq
      cases past
  holder i hi := by
    cases hi
    exact ⟨why, .atGate, mem_put.mpr (.inr ⟨rfl, _, live⟩), nofun⟩
  queued i hi := by
    have hi' : i ∈ k.gateQueue := hi
    rw [g.served free] at hi'
    cases hi'
  waiting i w hi := by
    rcases mem_put.mp hi with ⟨old, -⟩ | ⟨heq, -⟩
    · rcases g.waiting i w old with holder | queued
      · rw [free] at holder
        cases holder
      · exact .inr queued
    · cases heq
      exact .inl rfl
  distinct := g.distinct
  served h := nomatch h

/-- A search arrives at a gate that is held, and queues. -/
theorem Gated.queue (g : k.Gated) (o : k.Orderly) (live : (id, .search why .arriving) ∈ k.jobs)
    {holder : JobId} (taken : k.gateHolder? = some holder) :
    ({ k with gateQueue := k.gateQueue ++ [id] }.put id (.search why .atGate)).Gated := by
  -- who arrives neither holds the gate nor waits there already
  have arrives : ∀ {w s}, (id, .search w s) ∈ k.jobs → s = .arriving := by
    intro w s h
    cases o.unique h live
    rfl
  have notHolder : k.gateHolder? ≠ some id := by
    intro h
    obtain ⟨w, s, hs, arrived⟩ := g.holder id h
    exact arrived (arrives hs)
  have notQueued : id ∉ k.gateQueue := by
    intro h
    obtain ⟨⟨w, hw⟩, -⟩ := g.queued id h
    cases arrives hw
  constructor
  · intro i w s hi past
    rcases mem_put.mp hi with ⟨old, -⟩ | ⟨heq, -⟩
    · exact g.alone i w s old past
    · cases heq
      cases past
  · intro i hi
    obtain ⟨w, s, hs, arrived⟩ := g.holder i hi
    refine ⟨w, s, mem_put.mpr (.inl ⟨hs, ?_⟩), arrived⟩
    rintro rfl
    exact notHolder hi
  · intro i hi
    rcases List.mem_append.mp hi with old | new
    · obtain ⟨⟨w, hw⟩, other⟩ := g.queued i old
      refine ⟨⟨w, mem_put.mpr (.inl ⟨hw, ?_⟩)⟩, other⟩
      rintro rfl
      exact notQueued old
    · -- the new one waits at the gate from now on
      rw [List.mem_singleton.mp new]
      exact ⟨⟨why, mem_put.mpr (.inr ⟨rfl, _, live⟩)⟩, notHolder⟩
  · intro i w hi
    rcases mem_put.mp hi with ⟨old, -⟩ | ⟨heq, -⟩
    · rcases g.waiting i w old with holds | queued
      · exact .inl holds
      · exact .inr (List.mem_append_left _ queued)
    · cases heq
      exact .inr (List.mem_append_right _ (List.mem_singleton_self _))
  · show (k.gateQueue ++ [id]).Nodup
    rw [List.nodup_append]
    refine ⟨g.distinct, List.nodup_singleton _, ?_⟩
    rintro i hi _ hid rfl
    rw [List.mem_singleton.mp hid] at hi
    exact notQueued hi
  · intro free
    have free' : k.gateHolder? = none := free
    rw [taken] at free'
    cases free'

/-- A search that does not hold the gate ends, and leaves its place in the queue. -/
theorem Gated.leavePlace (g : k.Gated) (other : k.gateHolder? ≠ some id) :
    ({ k with gateQueue := k.gateQueue.filter (· != id) }.erase id).Gated where
  alone i w s hi past := g.alone i w s (mem_erase.mp hi).1 past
  holder i hi := by
    obtain ⟨w, s, hs, arrived⟩ := g.holder i hi
    refine ⟨w, s, mem_erase.mpr ⟨hs, ?_⟩, arrived⟩
    rintro rfl
    exact other hi
  queued i hi := by
    obtain ⟨old, ne⟩ := List.mem_filter.mp hi
    obtain ⟨⟨w, hw⟩, apart⟩ := g.queued i old
    exact ⟨⟨w, mem_erase.mpr ⟨hw, bne_iff_ne.mp ne⟩⟩, apart⟩
  waiting i w hi := by
    obtain ⟨old, ne⟩ := mem_erase.mp hi
    rcases g.waiting i w old with holds | queued
    · exact .inl holds
    · exact .inr (List.mem_filter.mpr ⟨queued, bne_iff_ne.mpr ne⟩)
  distinct := g.distinct.filter _
  served free := by
    show k.gateQueue.filter _ = []
    rw [g.served free, List.filter_nil]

/-! ## Every change keeps it -/

theorem ne_search (h : a.isSearch = false) (why : Search) (stage : SearchStage) :
    .search why stage ≠ a := by
  rintro rfl
  cases h

theorem Gated.put_other (g : k.Gated) (o : k.Orderly) (live : (id, a) ∈ k.jobs)
    (ha : a.isSearch = false) (hb : b.isSearch = false) : (k.put id b).Gated :=
  g.frame rfl rfl fun _ w s _ => mem_put_iff o live (ne_search ha w s) (ne_search hb w s)

theorem Gated.erase_other (g : k.Gated) (o : k.Orderly) (live : (id, a) ∈ k.jobs)
    (ha : a.isSearch = false) : (k.erase id).Gated :=
  g.frame rfl rfl fun _ w s _ => mem_erase_iff o live (ne_search ha w s)

theorem Gated.add_other (g : k.Gated) (ha : a.isSearch = false) : (k.add a).Gated :=
  g.frame rfl rfl fun _ w s _ => mem_add_iff (ne_search ha w s)

theorem Gated.add_arriving (g : k.Gated) (why : Search) :
    (k.add (.search why .arriving)).Gated := by
  refine g.frame rfl rfl fun _ w s arrived => mem_add_iff ?_
  rintro heq
  cases heq
  exact arrived rfl

/-- The gate is nothing to sessions, attempts, peers and results. -/
theorem Gated.congr (g : k.Gated) (jobs : k'.jobs = k.jobs)
    (holder : k'.gateHolder? = k.gateHolder?) (queue : k'.gateQueue = k.gateQueue) : k'.Gated :=
  g.frame holder queue fun _ _ _ _ => by rw [jobs]

/-- A search behind the gate goes on. -/
theorem Gated.behind (g : k.Gated) (live : (id, .search why stage) ∈ k.jobs)
    (past : stage.isPastGate = true) (past' : next.isPastGate = true) :
    (k.put id (.search why next)).Gated :=
  g.advance live (g.alone id why stage live past) past'

theorem isSearch_of_isAside (aside : a.isAside = true) : a.isSearch = false := by
  cases a with
  | search => cases aside
  | _ => rfl

theorem Gated.stir (g : k.Gated) (o : k.Orderly) (h : k.Stir k') : k'.Gated := by
  cases h with
  | session | note | serve | letGo | drop => exact g.congr rfl rfl rfl
  | start aside => exact g.add_other (isSearch_of_isAside aside)
  | connect => exact g.add_arriving .first
  | move live aside next =>
    exact g.put_other o live (isSearch_of_isAside aside) (isSearch_of_isAside next)
  | leave live aside => exact g.erase_other o live (isSearch_of_isAside aside)

theorem Gated.move (g : k.Gated) (o : k.Orderly) (live : (id, a) ∈ k.jobs) (h : k.Move id a b) :
    (k.put id b).Gated := by
  cases h with
  | unheard | unsent | written | exhausted | disabled => exact g.put_other o live rfl rfl
  | passed holder _ before => exact g.advance live holder before.isPastGate
  | untried holder | refused holder => exact g.advance live holder rfl
  | woken | checked | failed | late => exact g.behind live rfl rfl
  | outdated | declined => exact g.behind live rfl (Search.isPastGate_afterFailure _ _)
  | retried _ before => exact g.behind live rfl before.isPastGate

theorem Gated.shift (g : k.Gated) (o : k.Orderly) (live : (id, a) ∈ k.jobs)
    (h : k.Shift id a k') : k'.Gated := by
  cases h with
  | move step => exact g.move o live step
  | desert deserts =>
    refine (g.erase_other o live ?_).congr rfl rfl rfl
    cases deserts <;> rfl
  | take | degrade => exact (g.put_other o live rfl rfl).congr rfl rfl rfl
  | recover =>
    exact ((g.add_arriving .again).erase_other (o.add _) (mem_add.mpr (.inl live)) rfl).congr
      rfl rfl rfl
  | close closes =>
    cases closes with
    | loss | shutdown => exact (g.put_other o live rfl rfl).congr rfl rfl rfl
    | search => exact (g.behind live rfl rfl).congr rfl rfl rfl
  | drain drains =>
    cases drains with
    | search => exact (g.behind live rfl rfl).congr rfl rfl rfl
    | shutdown => exact (g.put_other o live rfl rfl).congr rfl rfl rfl
  | drainLoss => exact (g.erase_other o live rfl).congr rfl rfl rfl
  | enter free => exact g.enter live free
  | queue taken => exact g.queue o live taken
  | «open» | accept => exact (g.behind live rfl rfl).congr rfl rfl rfl
  | @install why attempt peer s =>
    have added : ((k.add (.read peer s.generation)).add
        (.write peer s.generation k.session.outboxes.length .idle)).Gated :=
      (g.add_other rfl).add_other rfl
    exact (added.behind (mem_add.mpr (.inl (mem_add.mpr (.inl live)))) rfl rfl).congr rfl rfl rfl
  | report =>
    have holder := g.alone _ _ _ live rfl
    exact (g.pass holder).congr rfl rfl rfl
  | leave => exact g.pass (g.alone _ _ _ live rfl)
  | giveUpGate _ holder => exact g.pass holder
  | giveUpPlace _ other => exact g.leavePlace other

theorem Reachable.gated (h : Reachable settings medium k) : k.Gated := by
  induction h with
  | start =>
    exact ⟨fun _ _ _ h => absurd h List.not_mem_nil, fun _ h => (nomatch h),
      fun _ h => absurd h List.not_mem_nil, fun _ _ h => absurd h List.not_mem_nil,
      List.nodup_nil, fun _ => rfl⟩
  | stir reached stir ih => exact ih.stir reached.orderly stir
  | shift reached live shift ih => exact ih.shift reached.orderly live shift

/-- Who waits at the gate waits for a search that is past it or may pass. -/
theorem Gated.held_of_waiting (g : k.Gated) (hi : (id, .search why .atGate) ∈ k.jobs) :
    ∃ holder why' stage, k.gateHolder? = some holder ∧ (holder, .search why' stage) ∈ k.jobs := by
  have held : k.gateHolder? ≠ none := by
    intro free
    rcases g.waiting id why hi with holds | queued
    · rw [free] at holds
      cases holds
    · rw [g.served free] at queued
      cases queued
  obtain ⟨holder, holds⟩ := Option.ne_none_iff_exists'.mp held
  obtain ⟨why', stage, live, -⟩ := g.holder holder holds
  exact ⟨holder, why', stage, holds, live⟩

/-- No two searches are past the gate at once. -/
theorem Gated.one_past_gate (g : k.Gated) {other : JobId} {why' : Search}
    {stage' : SearchStage} (h : (id, .search why stage) ∈ k.jobs)
    (h' : (other, .search why' stage') ∈ k.jobs) (past : stage.isPastGate = true)
    (past' : stage'.isPastGate = true) : id = other :=
  Option.some.inj ((g.alone _ _ _ h past).symm.trans (g.alone _ _ _ h' past'))

end Outline

end LspClient
