import LspClient.Proofs.Client.Dealing
import LspClient.Proofs.Client.Reachable

/-!
# Until its turn and after its end

Nobody touches a job but itself: it is found at its next turn at the very point that it had
reached (`Happens.mem_of_ne`; for a job that the connection depends on that is so even if
nothing is known of who makes small changes, `Follows.mem_of_other`). If it neither waits
there nor can be cancelled, its next step is certain (`takeTurn_eq`). And a job that has
ended never comes back, since its id is not given to another (`Follows.hasEnded`), and the
result it has noted stays (`Follows.mem_results`).
-/

namespace LspClient

namespace Outline

variable {k k' : Outline} {id i : JobId} {a b : Activity} {j : JobId × Activity}
  {r : JobId × JobResult} {event : Event}

/-! ## Until its turn -/

/-- Small changes happen only to jobs on which no connection depends. -/
theorem Stir.mem_of_live (h : k.Stir k') (o : k.Orderly) (hj : j ∈ k.jobs)
    (other : j.2.isAside = false) : j ∈ k'.jobs := by
  -- so the job that changes is another one
  have apart {a : Activity} (aside : a.isAside = true) : j.2 ≠ a := by
    rintro rfl
    rw [other] at aside
    cases aside
  cases h with
  | session | note | serve | letGo | drop => exact hj
  | start aside => exact (mem_add_iff (apart aside)).mpr hj
  | connect => exact mem_add.mpr (.inl hj)
  | move live aside next => exact (mem_put_iff o live (apart aside) (apart next)).mpr hj
  | leave live aside => exact (mem_erase_iff o live (apart aside)).mpr hj

theorem Stirs.mem_of_live (h : k.Stirs k') (o : k.Orderly) (hj : j ∈ k.jobs)
    (other : j.2.isAside = false) : j ∈ k'.jobs := by
  -- the induction carries the ids along
  have both : k'.Orderly ∧ j ∈ k'.jobs := by
    induction h with
    | refl => exact ⟨o, hj⟩
    | tail _ last ih => exact ⟨ih.1.stir last, last.mem_of_live ih.1 ih.2 other⟩
  exact both.2

/-- A shift happens to no other job. -/
theorem Shift.mem_of_ne (h : k.Shift id a k') (hj : j ∈ k.jobs) (other : j.1 ≠ id) :
    j ∈ k'.jobs := by
  cases h with
  | move | take | degrade | close | drain | enter | queue | «open» | accept =>
    exact mem_put.mpr (.inl ⟨hj, other⟩)
  | desert | drainLoss | giveUpPlace => exact mem_erase.mpr ⟨hj, other⟩
  | recover => exact mem_erase.mpr ⟨mem_add.mpr (.inl hj), other⟩
  | install =>
    exact mem_put.mpr (.inl ⟨mem_add.mpr (.inl (mem_add.mpr (.inl hj))), other⟩)
  | report | leave | giveUpGate =>
    refine mem_erase.mpr ⟨?_, other⟩
    show j ∈ k.openGate.jobs
    rw [jobs_openGate]
    exact hj

/-- Until its turn, a job that the connection depends on stays where it is. -/
theorem Follows.mem_of_other (h : k.Follows event k') (o : k.Orderly) (live : (id, a) ∈ k.jobs)
    (other : a.isAside = false) (waits : ∀ heeds, event ≠ .turn id heeds) :
    (id, a) ∈ k'.jobs := by
  rcases h with stirs | ⟨id', heeds, a', m, rfl, -, shift, stirs⟩
  · exact stirs.mem_of_live o live other
  · have apart : id ≠ id' := by
      rintro rfl
      exact waits heeds rfl
    exact stirs.mem_of_live (o.shift shift) (shift.mem_of_ne live apart) other

/-- Only the job whose turn it is goes on or ends. -/
theorem Deed.mem_of_ne {who? : Option JobId} (h : k.Deed who? k') (hj : j ∈ k.jobs)
    (other : who? ≠ some j.1) : j ∈ k'.jobs := by
  have apart {id : JobId} (own : who? = some id) : j.1 ≠ id := by
    intro same
    rw [same] at other
    exact other own
  cases h with
  | session | note | serve | letGo | drop => exact hj
  | issue | start | connect => exact mem_add.mpr (.inl hj)
  | move own => exact mem_put.mpr (.inl ⟨hj, apart own⟩)
  | leave own => exact mem_erase.mpr ⟨hj, apart own⟩

theorem Deeds.mem_of_ne {who? : Option JobId} (h : k.Deeds who? k') (hj : j ∈ k.jobs)
    (other : who? ≠ some j.1) : j ∈ k'.jobs := by
  induction h with
  | refl => exact hj
  | tail _ last ih => exact last.mem_of_ne ih other

theorem mem_intake (hj : j ∈ k.jobs) (frame : Bytes) : j ∈ (k.intake frame).jobs := by
  unfold intake
  split
  · exact mem_add.mpr (.inl hj)
  · exact hj

theorem Does.mem_of_ne {frame? : Option Bytes} (h : k.Does id a frame? k') (hj : j ∈ k.jobs)
    (other : j.1 ≠ id) : j ∈ k'.jobs := by
  have apart : some id ≠ some j.1 := fun same => other (Option.some.inj same).symm
  cases h with
  | deeds deeds => exact deeds.mem_of_ne hj apart
  | shift shift deeds => exact deeds.mem_of_ne (shift.mem_of_ne hj other) apart
  | resolve _ deeds => exact deeds.mem_of_ne hj apart
  | intake frame => exact mem_intake hj frame

/-! ## After its end -/

/-- Whether there was a job with this id that has ended. -/
structure HasEnded (k : Outline) (id : JobId) : Prop where
  given : id < k.nextJob
  gone : ∀ j ∈ k.jobs, j.1 ≠ id

theorem ofJobs_hasEnded (id : JobId) : OfJobs (HasEnded · id) where
  congr e jobs next := ⟨by rw [next]; exact e.given, by rw [jobs]; exact e.gone⟩
  put e i b := by
    refine ⟨e.given, fun j hj => ?_⟩
    rcases mem_put.mp hj with ⟨old, -⟩ | ⟨rfl, a, old⟩
    · exact e.gone j old
    · exact e.gone (i, a) old
  add e a := by
    refine ⟨Nat.lt_succ_of_lt e.given, fun j hj => ?_⟩
    rcases mem_add.mp hj with old | rfl
    · exact e.gone j old
    · exact Nat.ne_of_gt e.given
  erase e i := ⟨e.given, fun j hj => e.gone j (mem_erase.mp hj).1⟩

theorem hasEnded_erase (o : k.Orderly) (live : (id, a) ∈ k.jobs) : (k.erase id).HasEnded id where
  given := o.below _ live
  gone _ hj := (mem_erase.mp hj).2

theorem HasEnded.stirs (e : k.HasEnded id) (h : k.Stirs k') : k'.HasEnded id := by
  induction h with
  | refl => exact e
  | tail _ last ih => exact (ofJobs_hasEnded id).stir ih last

theorem Follows.hasEnded (h : k.Follows event k') (e : k.HasEnded id) : k'.HasEnded id := by
  rcases h with stirs | ⟨i, heeds, a, m, -, -, shift, stirs⟩
  · exact e.stirs stirs
  · exact HasEnded.stirs ((ofJobs_hasEnded id).shift e shift) stirs

/-! ## What it has noted -/

theorem Stirs.mem_results (h : k.Stirs k') (hr : r ∈ k.results) : r ∈ k'.results := by
  induction h with
  | refl => exact hr
  | tail _ last ih =>
    cases last with
    | note => exact List.mem_append_left _ ih
    | session | start | connect | move | leave | serve | letGo | drop => exact ih

theorem Shift.mem_results (h : k.Shift id a k') (hr : r ∈ k.results) : r ∈ k'.results := by
  have opened : r ∈ k.openGate.results := by
    unfold openGate
    split <;> exact hr
  cases h with
  | report => exact List.mem_append_left _ opened
  | leave | giveUpGate => exact opened
  | move | desert | take | degrade | recover | close | drain | drainLoss | enter | queue
  | «open» | accept | install | giveUpPlace => exact hr

theorem Follows.mem_results (h : k.Follows event k') (hr : r ∈ k.results) : r ∈ k'.results := by
  rcases h with stirs | ⟨id, heeds, a, m, -, -, shift, stirs⟩
  · exact stirs.mem_results hr
  · exact stirs.mem_results (shift.mem_results hr)

end Outline

open Outline

namespace Client

variable {c : Client} {id : JobId} {a : Activity}

/-- A job that nobody can cancel comes to its turn as it is. -/
theorem turning?_eq (o : c.outline.Orderly) (live : (id, a) ∈ c.outline.jobs)
    (fixed : a.isCancellable = false) (heeds : Bool) :
    ∃ isQueued, c.turning? id heeds = some { id, activity := a, isQueued } := by
  obtain ⟨⟨own, activity, isCancelled, isQueued⟩, found, rfl, rfl⟩ := job?_of_mem o live
  refine ⟨isQueued, ?_⟩
  unfold turning?
  rw [found, Option.map_some]
  dsimp only at fixed ⊢
  rw [fixed, Bool.and_false]

/-- A search that is over has ended, and a first one has told its result. -/
theorem ends_endSearch {why : Search} (o : c.outline.Orderly) (live : (id, a) ∈ c.outline.jobs)
    (error? : Option SessionError) : (c.endSearch id why error?).outline.HasEnded id ∧
      (why = .first → (id, .connected (Search.result error?)) ∈
        (c.endSearch id why error?).outline.results) := by
  have ended : (c.outline.openGate.erase id).HasEnded id :=
    (ofJobs_hasEnded id).congr (hasEnded_erase o live) (jobs_erase_openGate c.outline id)
      (nextJob_openGate c.outline)
  unfold endSearch
  cases why with
  | first =>
    let told := c.openGate.noteResult id (.connected (Search.result error?))
    show (told.finish id).outline.HasEnded id ∧ (_ → _ ∈ (told.finish id).outline.results)
    have rest := stirs_finish told id
    rw [outline_noteResult, outline_openGate] at rest
    have reported : ((c.outline.openGate.note id (.connected (Search.result error?))).erase
        id).HasEnded id := (ofJobs_hasEnded id).congr ended rfl rfl
    refine ⟨reported.stirs rest, fun _ => rest.mem_results ?_⟩
    exact List.mem_append_right _ (List.mem_singleton.mpr rfl)
  | again =>
    have rest := stirs_finish c.openGate id
    rw [outline_openGate] at rest
    exact ⟨ended.stirs rest, nofun⟩

/-- The step of a job that can go on and that nobody can cancel. -/
theorem takeTurn_eq (o : c.outline.Orderly) (live : (id, a) ∈ c.outline.jobs)
    (fixed : a.isCancellable = false) (heeds : Bool)
    (ready : ∀ job : Job, job.activity = a → c.isReady job = true) :
    c.takeTurn id heeds = c.step { id, activity := a } := by
  obtain ⟨isQueued, found⟩ := turning?_eq o live fixed heeds
  unfold takeTurn
  rw [found]
  dsimp only
  rw [if_pos (ready _ rfl)]
  rfl

end Client

/-- Whether an event is a turn of this job. -/
def Event.isTurn (id : JobId) : Event → Bool
  | .turn other _ => other == id
  | _ => false

theorem Event.isTurn_turn (id : JobId) (heeds : Bool) : (turn id heeds).isTurn id = true :=
  beq_self_eq_true id

namespace World

variable {settings : Settings} {medium : Medium} {w : World} {id : JobId} {a : Activity}

/-- Until its turn, every job stays where it is. -/
theorem Happens.mem_of_ne {event : Event} {k : Outline} (h : w.Happens event k)
    {j : JobId × Activity} (hj : j ∈ w.client.outline.jobs) (other : event.isTurn j.1 = false) :
    j ∈ k.jobs := by
  cases h with
  | turn _ does =>
    refine does.mem_of_ne hj fun same => ?_
    rw [same, Event.isTurn_turn] at other
    cases other
  | await => exact mem_add.mpr (.inl hj)
  | other _ deeds => exact deeds.mem_of_ne hj nofun

/-- Until its turn, a job that the connection depends on stays where it is. -/
theorem mem_performAll (reached : Reachable settings medium w.client.outline)
    (live : (id, a) ∈ w.client.outline.jobs) (other : a.isAside = false) {between : List Event}
    (waits : ∀ event ∈ between, event.isTurn id = false) :
    (id, a) ∈ (w.performAll between).client.outline.jobs := by
  induction between generalizing w with
  | nil => exact live
  | cons event rest ih =>
    have still := (follows_perform w event).mem_of_other reached.orderly live other <| by
      rintro heeds rfl
      have turn := waits _ List.mem_cons_self
      rw [Event.isTurn_turn] at turn
      cases turn
    exact ih (reachable_perform reached event) still fun e he =>
      waits e (List.mem_cons_of_mem _ he)

/-- What does not register a call always comes about. -/
theorem perform_eq {event : Event} (room : w.client.session.correlator.size ≤ mostCalls)
    (less : (w.occur event).client.session.correlator.size ≤ w.client.session.correlator.size) :
    w.perform event = w.occur event := if_pos (Nat.le_trans less room)

/-- Until its turn, every job stays where it is, whatever it is at. -/
theorem mem_performAll_of_ne (room : w.client.session.correlator.size ≤ mostCalls)
    {j : JobId × Activity} (hj : j ∈ w.client.outline.jobs) {between : List Event}
    (waits : ∀ event ∈ between, event.isTurn j.1 = false) :
    j ∈ (w.performAll between).client.outline.jobs := by
  induction between generalizing w with
  | nil => exact hj
  | cons event rest ih =>
    have still := (happens_perform room event).mem_of_ne hj (waits event List.mem_cons_self)
    exact ih (room_perform room event) still fun e he => waits e (List.mem_cons_of_mem _ he)

/-! ## Turns that are due -/

variable {event : Event}

/-- Whether an event is a turn of this job, and the job can go on. -/
def isDue (id : JobId) (w : World) (event : Event) : Bool :=
  match event with
  | .turn other heeds => other == id && (w.client.turning? other heeds).any w.client.isReady
  | _ => false

/-- How many turns of a job there are at which it can go on. -/
def dueTurns (w : World) (id : JobId) (events : List Event) : Nat :=
  (gathered (fun w event => if isDue id w event then [event] else []) w events).length

theorem dueTurns_concat (w : World) (id : JobId) (events : List Event) (event : Event) :
    w.dueTurns id (events ++ [event]) =
      w.dueTurns id events + (isDue id (w.performAll events) event).toNat := by
  unfold dueTurns
  rw [gathered_concat, List.length_append]
  cases isDue id (w.performAll events) event <;> rfl

theorem isDue_of_other (other : event.isTurn id = false) : isDue id w event = false := by
  cases event with
  | turn => exact Bool.and_eq_false_imp.mpr fun own => absurd own (Bool.eq_false_iff.mp other)
  | _ => rfl

/-- There are no turns of a job that has ended. -/
theorem perform_of_hasEnded (gone : w.client.outline.HasEnded id) (heeds : Bool) :
    w.perform (.turn id heeds) = w := by
  have nobody : w.client.turning? id heeds = none := by
    cases found : w.client.turning? id heeds with
    | none => rfl
    | some job =>
      obtain ⟨live, own, -⟩ := Client.turning?_eq_some found
      exact absurd own (gone.gone _ live)
  have same : w.occur (.turn id heeds) = w := by
    unfold occur Client.takeTurn
    dsimp only
    rw [nobody]
  unfold perform
  rw [same]
  exact ite_self w

theorem isDue_of_aside (aside : ∀ job, w.acting? event = some job → job.id ≠ id) :
    isDue id w event = false := by
  by_contra due
  have due := (Bool.not_eq_false _).mp due
  cases event with
  | turn other heeds =>
    obtain ⟨own, ready⟩ := (Bool.and_eq_true _ _).mp due
    obtain ⟨job, found, ready⟩ := (Option.any_eq_true ..).mp ready
    obtain ⟨-, same, -⟩ := Client.turning?_eq_some found
    exact aside job (Option.filter_eq_some_iff.mpr ⟨found, ready⟩) (same.trans (beq_iff_eq.mp own))
  | _ => cases due

/-- A job that others depend on stays where it is unless it can go on and takes its turn. -/
theorem mem_perform_of_aside (o : w.client.outline.Orderly)
    (live : (id, a) ∈ w.client.outline.jobs) (other : a.isAside = false)
    (aside : ∀ job, w.acting? event = some job → job.id ≠ id) :
    (id, a) ∈ (w.perform event).client.outline.jobs := by
  by_cases turn : ∃ heeds, event = .turn id heeds
  · obtain ⟨heeds, rfl⟩ := turn
    cases acts : w.acting? (.turn id heeds) with
    | none =>
      rw [perform_of_idle acts]
      exact live
    | some job =>
      obtain ⟨⟨_, same⟩, -⟩ := acting?_eq_some acts
      cases same
      exact absurd rfl (aside job acts)
  · exact (follows_perform w event).mem_of_other o live other fun heeds own => turn ⟨heeds, own⟩

theorem exists_turn_of_isTurn (own : event.isTurn id = true) :
    ∃ heeds, event = .turn id heeds := by
  cases event with
  | turn other heeds => exact ⟨heeds, by rw [show other = id from beq_iff_eq.mp own]⟩
  | _ => cases own

end World

end LspClient
