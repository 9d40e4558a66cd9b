import LspClient.Proofs.Client.Trials

/-!
# The log of a search in a run

What the turn of a search comes to is said once (`World.SearchTurn`), and what it adds to the
log of the search (`World.trials`). From that follows by induction on the run what the logs of
all searches look like (`World.stands_run`). A search that has not begun has an empty log, since
its id is not given to anybody before (`Outline.Follows.search_cases`).
-/

namespace LspClient

namespace Outline

variable {k k' : Outline} {id j : JobId} {a : Activity} {why : Search} {stage : SearchStage}
  {event : Event}

/-! ## Where searches come from -/

theorem Stir.nextJob_le (h : k.Stir k') : k.nextJob ≤ k'.nextJob := by
  cases h with
  | start | connect => exact Nat.le_succ _
  | _ => exact Nat.le_refl _

theorem Shift.nextJob_le (h : k.Shift id a k') : k.nextJob ≤ k'.nextJob := by
  cases h with
  | recover => exact Nat.le_succ _
  | install => exact Nat.le_add_right _ 2
  | report | leave | giveUpGate => exact Nat.le_of_eq (nextJob_openGate k).symm
  | _ => exact Nat.le_refl _

theorem Stir.search_cases (h : k.Stir k') (hi : (id, .search why stage) ∈ k'.jobs) :
    (id, .search why stage) ∈ k.jobs ∨ k.nextJob ≤ id ∧ stage = .arriving := by
  cases h with
  | start aside =>
    rcases mem_add.mp hi with old | same
    · exact .inl old
    · rw [← (Prod.mk.inj same).2] at aside
      cases aside
  | connect =>
    rcases mem_add.mp hi with old | same
    · exact .inl old
    · cases same
      exact .inr ⟨Nat.le_refl _, rfl⟩
  | move _ _ next =>
    rcases mem_put.mp hi with ⟨old, -⟩ | ⟨same, -⟩
    · exact .inl old
    · rw [← (Prod.mk.inj same).2] at next
      cases next
  | leave => exact .inl (mem_erase.mp hi).1
  | session | note | serve | letGo | drop => exact .inl hi

theorem Stirs.search_cases (h : k.Stirs k') (hi : (id, .search why stage) ∈ k'.jobs) :
    (id, .search why stage) ∈ k.jobs ∨ k.nextJob ≤ id ∧ stage = .arriving := by
  induction h using Relation.ReflTransGen.head_induction_on with
  | refl => exact .inl hi
  | head first _ ih =>
    rcases ih with old | ⟨new, arrives⟩
    · exact first.search_cases old
    · exact .inr ⟨Nat.le_trans first.nextJob_le new, arrives⟩

theorem Yields.exists_search (h : Yields k k' id a (.search why stage)) :
    ∃ before, a = .search why before := by
  generalize target : Activity.search why stage = b at h
  cases h with
  | move step => cases step <;> cases target <;> exact ⟨_, rfl⟩
  | close closes =>
    cases closes with
    | search =>
      cases target
      exact ⟨_, rfl⟩
    | loss | shutdown => cases target
  | drain drains =>
    cases drains with
    | search =>
      cases target
      exact ⟨_, rfl⟩
    | shutdown => cases target
  | take | degrade => cases target
  | arrive | «open» | accept | install =>
    cases target
    exact ⟨_, rfl⟩

theorem Shift.search_cases (h : k.Shift j a k') (live : (j, a) ∈ k.jobs)
    (hi : (id, .search why stage) ∈ k'.jobs) :
    (∃ before, (id, .search why before) ∈ k.jobs) ∨ k.nextJob ≤ id ∧ stage = .arriving := by
  rcases h.mem_cases hi with ⟨old, -⟩ | ⟨rfl, yields⟩ | begins
  · exact .inl ⟨stage, old⟩
  · obtain ⟨before, rfl⟩ := yields.exists_search
    exact .inl ⟨before, live⟩
  · generalize started : Activity.search why stage = b at begins
    cases begins with
    | recover =>
      cases started
      cases h with
      | recover =>
        rcases mem_add.mp (mem_erase.mp hi).1 with old | same
        · exact .inl ⟨_, old⟩
        · cases same
          exact .inr ⟨Nat.le_refl _, rfl⟩
      | move step =>
        rcases mem_put.mp hi with ⟨old, -⟩ | ⟨same, -⟩
        · exact .inl ⟨_, old⟩
        · cases step
          cases same
      | desert deserts => cases deserts
      | close closes => cases closes
      | drain drains => cases drains
    | read | write => cases started

/-- A search was one before, or it has just begun. -/
theorem Follows.search_cases (h : k.Follows event k') (hi : (id, .search why stage) ∈ k'.jobs) :
    (∃ before, (id, .search why before) ∈ k.jobs) ∨ k.nextJob ≤ id ∧ stage = .arriving := by
  rcases h with stirs | ⟨j, heeds, a, m, -, live, shift, stirs⟩
  · exact (stirs.search_cases hi).imp_left fun old => ⟨stage, old⟩
  · rcases stirs.search_cases hi with middle | ⟨new, arrives⟩
    · exact shift.search_cases live middle
    · exact .inr ⟨Nat.le_trans shift.nextJob_le new, arrives⟩

end Outline

open Outline

namespace Client

variable {c : Client} {id : JobId}

/-- A search that is given up has ended. -/
theorem hasEnded_giveUpSearch (o : c.outline.Orderly) {a : Activity}
    (live : (id, a) ∈ c.outline.jobs) : (c.giveUpSearch id).outline.HasEnded id := by
  unfold giveUpSearch
  split
  · exact (@ends_endSearch c id a .again o live none).1
  · have rest := stirs_finish { c with gateQueue := c.gateQueue.filter (· != id) } id
    have ended : ({ c.outline with
        gateQueue := c.gateQueue.filter (· != id) }.erase id).HasEnded id :=
      (ofJobs_hasEnded id).congr (hasEnded_erase o live) rfl rfl
    exact ended.stirs rest

end Client

namespace World

variable {settings : Settings} {medium : Medium} {w : World} {event : Event} {id : JobId}
  {job : Job} {why : Search} {stage : SearchStage}

/-! ## The turn of a search -/

/-- What the turn of a search comes to. -/
inductive SearchTurn (w w' : World) (job : Job) (why : Search) (stage : SearchStage) : Prop
  | goesOn {next : SearchStage} (on : job.isCancelled = false)
      (proceeds : w.client.Proceeds why stage (w.client.trial? why stage) next)
      (there : (job.id, .search why next) ∈ w'.client.outline.jobs)
  | returns {error? : Option SessionError} (on : job.isCancelled = false)
      (leaves : stage = .leaving error?) (ended : w'.client.outline.HasEnded job.id)
      (tells : why = .first →
        (job.id, .connected (Search.result error?)) ∈ w'.client.report.finished)
  /-- Whoever has started it has dropped it. -/
  | dropped (cancelled : job.isCancelled = true)
      (may : why = .first ∧ stage.isWaiting = true)
      (ended : w'.client.outline.HasEnded job.id)

/-- There is always room for the step of a search. -/
theorem hasRoom_of_search (room : w.client.session.correlator.size ≤ mostCalls)
    (acts : w.acting? event = some job) (activity : job.activity = .search why stage) :
    w.hasRoom event = true := by
  have kind : (w.client.dealing job).isOfConnection = true ∨ w.client.dealing job = .drain := by
    unfold Client.dealing Client.dealingAt
    rw [activity]
    split
    · exact .inl rfl
    · cases stage with
      | draining => exact .inr rfl
      | installing =>
        left
        dsimp only
        split <;> rfl
      | _ => exact .inl rfl
  rcases kind with own | drains
  · exact hasRoom_of_connection room acts own
  · refine hasRoom_of_deals acts fun t deals => ?_
    rw [drains] at deals
    cases deals with
    | rest => exact room
    | drained =>
      rw [Session.unman_eq]
      show w.client.session.correlator.drain.pending.length ≤ mostCalls
      rw [Correlator.pending_drain]
      exact Nat.zero_le _

theorem searchTurn_perform (o : w.client.outline.Orderly)
    (room : w.client.session.correlator.size ≤ mostCalls) (acts : w.acting? event = some job)
    (activity : job.activity = .search why stage) :
    w.SearchTurn (w.perform event) job why stage := by
  obtain ⟨-, live, -, cancels⟩ := acting?_eq_some acts
  have step : (w.perform event).client = w.client.step job := by
    rw [perform_of_acting (hasRoom_of_search room acts activity) acts]
  unfold Client.step at step
  rw [activity] at live step
  cases cancelled : job.isCancelled with
  | true =>
    have given : (w.perform event).client = w.client.giveUpSearch job.id := by
      rw [step, cancelled, if_pos rfl]
      unfold Client.stepCancelled
      rw [activity]
    refine .dropped cancelled ?_ ?_
    · have may := cancels cancelled
      rw [activity] at may
      cases why with
      | first => exact ⟨rfl, may⟩
      | again => cases may
    · rw [given]
      exact Client.hasEnded_giveUpSearch o live
  | false =>
    rw [cancelled, if_neg Bool.false_ne_true] at step
    dsimp only at step
    by_cases leaves : ∃ error?, stage = .leaving error?
    · obtain ⟨error?, rfl⟩ := leaves
      obtain ⟨ended, tells⟩ := Client.leaves_stepSearch o live
      refine .returns cancelled rfl ?_ ?_
      · rw [step]
        exact ended
      · rw [step]
        exact tells
    · obtain ⟨next, proceeds, there⟩ :=
        Client.proceeds_stepSearch live fun error? same => leaves ⟨error?, same⟩
      refine .goesOn cancelled proceeds ?_
      rw [step]
      exact there

/-! ## What a search does in a run -/

/-- Which search does something for its attempts at an event, and what. -/
def trial? (w : World) (event : Event) : Option (JobId × Trial) :=
  (w.acting? event).bind fun job =>
    match job.activity with
    | .search why stage =>
      if job.isCancelled then none
      else (w.client.trial? why stage).map fun trial => (job.id, trial)
    | _ => none

/-- What an event adds to the log of a search. -/
def trials (id : JobId) (w : World) (event : Event) : List (Nat × Trial) :=
  ((w.trial? event).filter fun done => done.1 == id).toList.map fun done =>
    (w.client.clock, done.2)

/-- The log of a search: what it has done for its attempts in a run, and when. -/
def trialsOf (settings : Settings) (medium : Medium) (id : JobId) (events : List Event) :
    List (Nat × Trial) :=
  gathered (trials id) { client := Client.create settings medium } events

theorem trialsOf_concat (settings : Settings) (medium : Medium) (id : JobId)
    (events : List Event) (event : Event) : trialsOf settings medium id (events ++ [event]) =
      trialsOf settings medium id events ++ trials id (run settings medium events) event :=
  gathered_concat ..

theorem trial?_of_search (acts : w.acting? event = some job) (on : job.isCancelled = false)
    (activity : job.activity = .search why stage) :
    w.trial? event = (w.client.trial? why stage).map fun trial => (job.id, trial) := by
  unfold trial?
  rw [acts, Option.bind_some, activity]
  dsimp only
  rw [on, if_neg Bool.false_ne_true]

theorem exists_search_of_trial? {trial : Trial} (h : w.trial? event = some (id, trial)) :
    ∃ job why stage, w.acting? event = some job ∧ job.id = id ∧ job.isCancelled = false ∧
      job.activity = .search why stage ∧ w.client.trial? why stage = some trial := by
  obtain ⟨job, acts, done⟩ := Option.bind_eq_some_iff.mp h
  cases activity : job.activity with
  | search why stage =>
    rw [activity] at done
    dsimp only at done
    split at done
    · cases done
    · next on =>
      obtain ⟨other, made, same⟩ := Option.map_eq_some_iff.mp done
      obtain ⟨rfl, rfl⟩ := Prod.mk.inj same
      exact ⟨job, why, stage, acts, rfl, (Bool.not_eq_true _).mp on, activity, made⟩
  | _ =>
    rw [activity] at done
    cases done

theorem trials_of_none (h : ∀ trial, w.trial? event ≠ some (id, trial)) :
    w.trials id event = [] := by
  unfold trials
  cases done : w.trial? event with
  | none => rfl
  | some both =>
    have other : (both.1 == id) = false := by
      refine beq_false_of_ne ?_
      rintro rfl
      exact h both.2 done
    rw [Option.filter_some, other]
    rfl

theorem trials_of_aside (aside : ∀ job, w.acting? event = some job → job.id ≠ id) :
    w.trials id event = [] := by
  refine trials_of_none fun trial done => ?_
  obtain ⟨job, -, -, acts, own, -⟩ := exists_search_of_trial? done
  exact aside job acts own

theorem trials_of_search (acts : w.acting? event = some job) (on : job.isCancelled = false)
    (activity : job.activity = .search why stage) : w.trials job.id event =
      (w.client.trial? why stage).toList.map fun trial => (w.client.clock, trial) := by
  unfold trials
  rw [trial?_of_search acts on activity]
  cases w.client.trial? why stage with
  | none => rfl
  | some trial =>
    rw [Option.map_some, Option.filter_some]
    dsimp only
    rw [beq_self_eq_true]
    rfl

/-- Who has not begun has done nothing. -/
theorem trialsOf_of_nextJob_le (settings : Settings) (medium : Medium) (id : JobId)
    (events : List Event) (unborn : (run settings medium events).client.nextJob ≤ id) :
    trialsOf settings medium id events = [] := by
  induction events using List.reverseRecOn with
  | nil => rfl
  | append_singleton events event ih =>
    have o := (reachable_run settings medium events).orderly
    rw [run_concat] at unborn
    have before := Nat.le_trans (touches_perform o event).nextJob unborn
    rw [trialsOf_concat, ih before, List.nil_append]
    refine trials_of_aside fun job acts same => ?_
    subst same
    exact Nat.lt_irrefl _ (Nat.lt_of_lt_of_le (o.below _ (acting?_eq_some acts).2.1) before)

/-! ## Time -/

/-- No time passes while the search can go on, or beyond the time at which it can. -/
def IsPunctual (id : JobId) (w : World) : Event → Prop
  | .wait millis => ∀ job ∈ w.client.jobs, job.id = id → w.client.isReady job = false ∧
      ∀ due, job.activity.deadline? = some due → w.client.clock + millis ≤ due
  | _ => True

/-- A search gets its turns in time in a run. -/
def Punctual (settings : Settings) (medium : Medium) (id : JobId) (events : List Event) : Prop :=
  ∀ before event after, events = before ++ event :: after →
    (run settings medium before).IsPunctual id event

theorem punctual_concat {events : List Event}
    (h : Punctual settings medium id (events ++ [event])) :
    Punctual settings medium id events ∧ (run settings medium events).IsPunctual id event := by
  refine ⟨fun before event' after same => ?_, h events event [] rfl⟩
  refine h before event' (after ++ [event]) ?_
  rw [same, List.append_assoc, List.cons_append]

/-! ## Every search -/

section

variable {calm exact : Prop} {log : List (Nat × Trial)} {before : SearchStage}

/-- Where it is not its turn, a search stays where it is, whatever time passes. -/
theorem stands_of_aside (room : w.client.session.correlator.size ≤ mostCalls)
    (o : w.client.outline.Orderly) (live : (id, .search why stage) ∈ w.client.outline.jobs)
    (punctual : exact → w.IsPunctual id event)
    (stands : stage.Stands calm exact settings why w.client.clock log) :
    stage.Stands calm exact settings why (w.perform event).client.clock log := by
  rw [clock_perform room o event]
  cases event with
  | wait millis =>
    obtain ⟨job, member, same⟩ := List.mem_map.mp live
    obtain ⟨own, activity⟩ := Prod.mk.inj same
    exact stands.wait activity fun precise => punctual precise job member own
  | _ => exact stands

/-- A search that is still there after its turn has added to its log what it did. -/
theorem stands_of_turn (reached : Outline.Reachable settings medium w.client.outline)
    (room : w.client.session.correlator.size ≤ mostCalls) (acts : w.acting? event = some job)
    (old : (job.id, .search why before) ∈ w.client.outline.jobs)
    (live : (job.id, .search why stage) ∈ (w.perform event).client.outline.jobs)
    (undisturbed : calm → before.isUnderWay = true → w.client.session.lifecycle = why.state)
    (stands : before.Stands calm exact settings why w.client.clock log) :
    stage.Stands calm exact settings why (w.perform event).client.clock
      (log ++ w.trials job.id event) := by
  have o := reached.orderly
  obtain ⟨⟨heeds, turn⟩, here, ready, -⟩ := acting?_eq_some acts
  have activity : job.activity = .search why before := o.unique here old
  have clock : (w.perform event).client.clock = w.client.clock := by
    rw [clock_perform room o event, turn]
    rfl
  rw [clock]
  cases searchTurn_perform o room acts activity with
  | goesOn on proceeds there =>
    obtain rfl := (Activity.search.inj
      ((reachable_perform reached event).orderly.unique live there)).2
    rw [trials_of_search acts on activity]
    exact proceeds.stands reached.settings_eq on activity ready undisturbed stands
  | returns _ _ ended | dropped _ _ ended => exact absurd rfl (ended.gone _ live)

end

/-- **Every search keeps to its schedule.** What it has done so far for its attempts, and when,
is told by the point that it has reached. -/
theorem stands_run (settings : Settings) (medium : Medium) (events : List Event)
    (live : (id, .search why stage) ∈ (run settings medium events).client.outline.jobs) :
    stage.Stands (.shutDown ∉ events) (Punctual settings medium id events) settings why
      (run settings medium events).client.clock (trialsOf settings medium id events) := by
  induction events using List.reverseRecOn generalizing why stage with
  | nil => cases live
  | append_singleton events event ih =>
    have reached := reachable_run settings medium events
    have room := size_le_mostCalls settings medium events
    have o := reached.orderly
    have calmer (calm : .shutDown ∉ events ++ [event]) : .shutDown ∉ events := fun early =>
      calm (List.mem_append_left _ early)
    rw [trialsOf_concat]
    rw [run_concat] at live ⊢
    rcases (follows_perform _ event).search_cases live with ⟨before, old⟩ | ⟨new, rfl⟩
    · have stands : before.Stands (.shutDown ∉ events ++ [event])
          (Punctual settings medium id (events ++ [event])) settings why
          (run settings medium events).client.clock (trialsOf settings medium id events) :=
        (ih old).mono calmer fun punctual => (punctual_concat punctual).1
      by_cases own : ∃ job, (run settings medium events).acting? event = some job ∧ job.id = id
      · obtain ⟨job, acts, rfl⟩ := own
        exact stands_of_turn reached room acts old live
          (fun calm way => undisturbed (calmer calm) old way) stands
      · have aside (job : Job) (acts : (run settings medium events).acting? event = some job) :
            job.id ≠ id := fun same => own ⟨job, acts, same⟩
        have stays := mem_perform_of_aside o old rfl aside
        obtain rfl := (Activity.search.inj
          ((reachable_perform reached event).orderly.unique live stays)).2
        rw [trials_of_aside aside, List.append_nil]
        exact stands_of_aside room o old (fun punctual => (punctual_concat punctual).2) stands
    · -- it has just begun
      have none := trialsOf_of_nextJob_le settings medium id events new
      have aside (job : Job) (acts : (run settings medium events).acting? event = some job) :
          job.id ≠ id := by
        rintro rfl
        exact Nat.lt_irrefl _ (Nat.lt_of_lt_of_le (o.below _ (acting?_eq_some acts).2.1) new)
      rw [none, trials_of_aside aside]
      rfl

end World

end LspClient
