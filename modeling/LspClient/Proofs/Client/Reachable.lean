import LspClient.Proofs.Client.Steps

/-!
# Outlines that can be reached

`Reachable` closes the outline of a new client under small changes and shifts, and
`reachable_run` says that every run stays within it. An invariant is proved by induction
over it, with one case for a small change and one for a shift; the invariants proved
earlier are at hand in every case.

The first of them are here: every job has an id of its own, the settings never change, the
table of calls is well formed, lifecycle and generation go on by one step at most, and a
session that was dropped is out of everybody's reach.
-/

namespace LspClient

namespace Outline

/-- The outlines that a client with these settings can come to. -/
inductive Reachable (settings : Settings) (medium : Medium) : Outline → Prop
  | start : Reachable settings medium (Client.create settings medium).outline
  | stir {k k' : Outline} (reached : Reachable settings medium k) (stir : k.Stir k') :
      Reachable settings medium k'
  | shift {k k' : Outline} {id : JobId} {a : Activity} (reached : Reachable settings medium k)
      (live : (id, a) ∈ k.jobs) (shift : k.Shift id a k') : Reachable settings medium k'

variable {settings : Settings} {medium : Medium} {k k' : Outline} {id : JobId} {a b : Activity}

theorem Reachable.stirs (h : Reachable settings medium k) (stirs : k.Stirs k') :
    Reachable settings medium k' := by
  induction stirs with
  | refl => exact h
  | tail _ last ih => exact ih.stir last

theorem Reachable.follows {event : Event} (h : Reachable settings medium k)
    (follows : k.Follows event k') : Reachable settings medium k' := by
  rcases follows with stirs | ⟨id, heeds, a, m, -, live, shift, stirs⟩
  · exact h.stirs stirs
  · exact (h.shift live shift).stirs stirs

theorem reachable_perform {w : World} (h : Reachable settings medium w.client.outline)
    (event : Event) : Reachable settings medium (w.perform event).client.outline :=
  h.follows (World.follows_perform w event)

theorem reachable_performAll {w : World} (h : Reachable settings medium w.client.outline)
    (events : List Event) : Reachable settings medium (w.performAll events).client.outline := by
  induction events generalizing w with
  | nil => exact h
  | cons event rest ih => exact ih (reachable_perform h event)

theorem reachable_run (settings : Settings) (medium : Medium) (events : List Event) :
    Reachable settings medium (World.run settings medium events).client.outline :=
  reachable_performAll .start events

/-! ## Ids -/

/-- A property of the jobs and their ids that stays, whichever jobs start, go on or end. -/
structure OfJobs (P : Outline → Prop) : Prop where
  congr : ∀ {k k' : Outline}, P k → k'.jobs = k.jobs → k'.nextJob = k.nextJob → P k'
  put : ∀ {k : Outline}, P k → ∀ id b, P (k.put id b)
  add : ∀ {k : Outline}, P k → ∀ a, P (k.add a)
  erase : ∀ {k : Outline}, P k → ∀ id, P (k.erase id)

theorem OfJobs.stir {P : Outline → Prop} (c : OfJobs P) (p : P k) (h : k.Stir k') : P k' := by
  cases h with
  | session | note | serve | letGo | drop => exact c.congr p rfl rfl
  | start | connect => exact c.add p _
  | move => exact c.put p _ _
  | leave => exact c.erase p _

theorem OfJobs.shift {P : Outline → Prop} (c : OfJobs P) (p : P k) (h : k.Shift id a k') :
    P k' := by
  cases h with
  | move => exact c.put p _ _
  | desert | drainLoss | giveUpPlace => exact c.congr (c.erase p id) rfl rfl
  | take | degrade | close | drain | enter | queue | «open» | accept =>
    exact c.congr (c.put p id _) rfl rfl
  | recover => exact c.congr (c.erase (c.add p (.search .again .arriving)) id) rfl rfl
  | @install why attempt peer s =>
    have reads := c.add p (.read peer s.generation)
    have writes := c.add reads (.write peer s.generation k.session.outboxes.length .idle)
    exact c.congr (c.put writes id (.search why (.leaving none))) rfl rfl
  | report | leave | giveUpGate =>
    exact c.congr (c.erase p id) (jobs_erase_openGate k id) (nextJob_openGate k)

theorem ofJobs_orderly : OfJobs Orderly where
  congr o jobs next := ⟨by rw [jobs]; exact o.apart, by rw [jobs, next]; exact o.below⟩
  put o := o.put
  add o := o.add
  erase o := o.erase

theorem Orderly.stir (o : k.Orderly) (h : k.Stir k') : k'.Orderly := ofJobs_orderly.stir o h

theorem Orderly.shift (o : k.Orderly) (h : k.Shift id a k') : k'.Orderly :=
  ofJobs_orderly.shift o h

theorem Reachable.orderly (h : Reachable settings medium k) : k.Orderly := by
  induction h with
  | start => exact ⟨List.nodup_nil, fun _ hj => absurd hj List.not_mem_nil⟩
  | stir _ stir ih => exact ih.stir stir
  | shift _ _ shift ih => exact ih.shift shift

end Outline

namespace Client

variable {c : Client} {id : JobId} {a : Activity}

theorem eq_of_id (o : c.outline.Orderly) {job other : Job} (h : job ∈ c.jobs)
    (h' : other ∈ c.jobs) (same : job.id = other.id) : job = other := by
  have apart : (c.jobs.map Job.id).Nodup := by
    have ids := o.apart
    unfold outline at ids
    rwa [List.map_map] at ids
  exact List.inj_on_of_nodup_map apart h h' same

/-- A job is found under its id. -/
theorem job?_eq_some (o : c.outline.Orderly) {job : Job} (h : job ∈ c.jobs) :
    c.job? job.id = some job := by
  have found : (c.job? job.id).isSome = true :=
    List.find?_isSome.mpr ⟨job, h, decide_eq_true rfl⟩
  obtain ⟨other, hother⟩ := Option.isSome_iff_exists.mp found
  have own : other.id = job.id := by simpa using List.find?_some hother
  rw [hother, eq_of_id o (List.mem_of_find?_eq_some hother) h own]

theorem job?_of_mem (o : c.outline.Orderly) (live : (id, a) ∈ c.outline.jobs) :
    ∃ job, c.job? id = some job ∧ job.id = id ∧ job.activity = a := by
  obtain ⟨job, hjob, rfl, rfl⟩ := exists_job live
  exact ⟨job, job?_eq_some o hjob, rfl, rfl⟩

end Client

namespace Outline

variable {settings : Settings} {medium : Medium} {k k' : Outline} {id : JobId} {a b : Activity}

/-! ## Settings and calls -/

theorem Stir.settings_eq (h : k.Stir k') : k'.session.settings = k.session.settings := by
  rcases h.session_cases with same | quiet | ⟨-, dropped⟩
  · rw [same]
  · exact quiet.sameLink.settings
  · rw [dropped, Session.drop_eq]

theorem Reachable.settings_eq (h : Reachable settings medium k) :
    k.session.settings = settings := by
  induction h with
  | start => rfl
  | stir _ stir ih => exact stir.settings_eq.trans ih
  | shift _ _ shift ih => exact shift.relinks.keeps.1.trans ih

theorem Stir.wellFormed (h : k.Stir k') (wf : k.session.correlator.WellFormed) :
    k'.session.correlator.WellFormed := by
  rcases h.session_cases with same | quiet | ⟨-, dropped⟩
  · rw [same]
    exact wf
  · exact quiet.wellFormed wf
  · rw [dropped, Session.drop_eq]
    exact Correlator.wellFormed_drain _

theorem Reachable.wellFormed (h : Reachable settings medium k) :
    k.session.correlator.WellFormed := by
  induction h with
  | start => exact Correlator.wellFormed_empty
  | stir _ stir ih => exact stir.wellFormed ih
  | shift _ _ shift ih =>
    rcases shift.relinks.keeps.2.2 with same | drained
    · rw [same]
      exact ih
    · rw [drained]
      exact Correlator.wellFormed_drain _

/-! ## Lifecycle and generation -/

/-- Small changes leave lifecycle and generation alone. -/
theorem Stir.same_state (h : k.Stir k') : k'.session.lifecycle = k.session.lifecycle ∧
    k'.session.generation = k.session.generation := by
  rcases h.session_cases with same | quiet | ⟨-, dropped⟩
  · rw [same]
    exact ⟨rfl, rfl⟩
  · exact ⟨quiet.sameLink.lifecycle, quiet.sameLink.generation⟩
  · rw [dropped, Session.drop_eq]
    exact ⟨rfl, rfl⟩

theorem Stirs.same_state (h : k.Stirs k') : k'.session.lifecycle = k.session.lifecycle ∧
    k'.session.generation = k.session.generation := by
  induction h with
  | refl => exact ⟨rfl, rfl⟩
  | tail _ last ih => exact ⟨last.same_state.1.trans ih.1, last.same_state.2.trans ih.2⟩

/-- Every event takes lifecycle and generation one step on at most. -/
theorem Follows.advance {event : Event} (h : k.Follows event k') :
    k.session.Advance k'.session := by
  rcases h with stirs | ⟨id, heeds, a, m, -, -, shift, stirs⟩
  · exact .stays stirs.same_state.1 stirs.same_state.2
  · obtain ⟨lifecycle, same⟩ := stirs.same_state
    cases shift.relinks.advance with
    | stays l g => exact .stays (lifecycle.trans l) (same.trans g)
    | loses before after g => exact .loses before (lifecycle.trans after) (same.trans g)
    | closes before after g => exact .closes before (lifecycle.trans after) (same.trans g)
    | opens before after g => exact .opens before (lifecycle.trans after) (same.trans g)

/-! ## Dropped sessions -/

/-- Small changes give nobody a hold of the session who had none. -/
theorem Stir.isKept (h : k.Stir k') (kept : k'.IsKept) : k.IsKept := by
  cases h with
  | session | note | serve | drop => exact kept
  | start _ start =>
    rcases kept with held | ⟨j, hj, holds⟩
    · exact .inl held
    · rcases mem_add.mp hj with old | rfl
      · exact .inr ⟨j, old, holds⟩
      · exact .inl (start holds)
  | connect held => exact .inl held
  | move live _ _ move =>
    rcases kept with held | ⟨j, hj, holds⟩
    · exact .inl held
    · rcases mem_put.mp hj with ⟨old, -⟩ | ⟨rfl, -⟩
      · exact .inr ⟨j, old, holds⟩
      · exact .inr ⟨_, live, move holds⟩
  | leave =>
    rcases kept with held | ⟨j, hj, holds⟩
    · exact .inl held
    · exact .inr ⟨j, (mem_erase.mp hj).1, holds⟩
  | letGo =>
    rcases kept with held | other
    · cases held
    · exact .inr other

theorem isKept_of_put (free : b.holdsSession = false) (kept : (k.put id b).IsKept) :
    k.IsKept := by
  rcases kept with held | ⟨j, hj, holds⟩
  · exact .inl held
  · rcases mem_put.mp hj with ⟨old, -⟩ | ⟨rfl, -⟩
    · exact .inr ⟨j, old, holds⟩
    · rw [free] at holds
      cases holds

theorem isKept_of_erase (kept : (k.erase id).IsKept) : k.IsKept := by
  rcases kept with held | ⟨j, hj, holds⟩
  · exact .inl held
  · exact .inr ⟨j, (mem_erase.mp hj).1, holds⟩

/-- A job that keeps no session makes a shift that leads to a hold of it only if the session
is there. -/
theorem Shift.isKept (h : k.Shift id a k') (free : a.holdsSession = false)
    (dropped : k.session.isDropped = true) (kept : k'.IsKept) : k.IsKept := by
  cases h with
  | move step =>
    cases step with
    | unheard alive | unsent alive =>
      rw [dropped] at alive
      cases alive
    | written | exhausted => exact isKept_of_put rfl kept
    | disabled | passed | untried | refused | woken | checked | outdated | retried | failed
    | declined | late =>
      cases free
  | desert => exact isKept_of_erase kept
  | take => exact isKept_of_put rfl kept
  | close closes => cases closes <;> cases free
  | drain drains => cases drains <;> cases free
  | degrade | recover | drainLoss | enter | queue | «open» | accept | install | report | leave
  | giveUpGate | giveUpPlace => cases free

/-- Nobody holds a session that was dropped. -/
theorem Reachable.not_isKept (h : Reachable settings medium k)
    (dropped : k.session.isDropped = true) : ¬ k.IsKept := by
  induction h with
  | start => cases dropped
  | @stir k k' _ stir ih =>
    intro kept
    have before := stir.isKept kept
    cases stir with
    | session quiet =>
      rw [← quiet.sameLink.isDropped] at ih
      exact ih dropped before
    | drop alone => exact alone before
    | start | connect | move | leave | note | serve | letGo => exact ih dropped before
  | @shift k k' id a _ live shift ih =>
    intro kept
    rw [shift.relinks.keeps.2.1] at dropped
    have free : a.holdsSession = false := by
      by_contra holds
      exact ih dropped (.inr ⟨_, live, (Bool.not_eq_false _).mp holds⟩)
    exact ih dropped (shift.isKept free dropped kept)

end Outline

end LspClient
