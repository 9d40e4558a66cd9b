import LspClient.Proofs.Client.Schedule

/-!
# Connecting and connecting again

In every run each search keeps to its schedule (`World.keeps_schedule`). It makes its attempts in
order, the first of them at once if it is the first search of the session, and each other after
its delay, until one comes to a connection or all have failed; then the session is ready, or
closed and the search reports the number of the attempts and what the last one has failed with.

A delay is kept to the millisecond up to the longest one that a timer can be set for; a longer
one is cut to that (`World.cuts_delay`).
-/

namespace LspClient

open Outline

/-- A connection that comes in time makes the session ready. -/
theorem Client.lifecycle_installs {c : Client} {id : JobId} {why : Search} {attempt peer : Nat}
    (expected : c.session.lifecycle = why.state) :
    (c.stepSearch id why (.installing attempt peer)).session.lifecycle = .ready := by
  unfold Client.stepSearch
  dsimp only
  rw [Session.install_eq_ok_iff.mpr ⟨expected, rfl⟩]
  rfl

/-- An attempt begins where a search is about to start it. -/
theorem Client.starting_of_begun {c : Client} {why : Search} {stage : SearchStage} {trial : Trial}
    {attempt : Nat} (made : c.trial? why stage = some trial)
    (began : trial.begun? = some attempt) : stage = .starting attempt := by
  unfold Client.trial? at made
  cases stage with
  | starting n =>
    cases made
    cases began
    rfl
  | atGate =>
    dsimp only at made
    split at made <;> cases made
    cases began
  | opening n number deadline resume? =>
    dsimp only at made
    split at made
    · split at made <;> cases made <;> cases began
    · cases made
      cases began
  | _ => cases made

namespace World

variable {settings : Settings} {medium : Medium} {w : World} {event : Event} {id : JobId}
  {job : Job} {why : Search} {stage : SearchStage} {events : List Event}

/-! ## Attempts -/

/-- The number of the attempt that begins at an event. -/
def begins? (w : World) (event : Event) : Option Nat :=
  (w.trial? event).bind fun done => done.2.begun?

/-- A connection is looked for exactly as an attempt begins. -/
theorem attempts_perform (o : w.client.outline.Orderly)
    (room : w.client.session.correlator.size ≤ mostCalls) (event : Event) :
    (w.perform event).client.loopback.attempts =
      w.client.loopback.attempts + (w.begins? event).toList.length := by
  have opens {job : Job} {why : Search} {attempt : Nat} (acts : w.acting? event = some job)
      (on : job.isCancelled = false) (activity : job.activity = .search why (.starting attempt)) :
      (w.perform event).client.loopback.attempts = w.client.loopback.attempts + 1 := by
    rw [perform_of_acting (hasRoom_of_search room acts activity) acts]
    unfold Client.step
    rw [on, if_neg Bool.false_ne_true, activity]
    rfl
  cases begun : w.begins? event with
  | some attempt =>
    obtain ⟨done, does, began⟩ := Option.bind_eq_some_iff.mp begun
    obtain ⟨job, why, stage, acts, -, on, activity, made⟩ := exists_search_of_trial? does
    obtain rfl := Client.starting_of_begun made began
    exact opens acts on activity
  | none =>
    rcases (follows_perform w event).attempts_cases with
      same | ⟨id, heeds, why, attempt, rfl, live⟩
    · exact same
    · cases acts : w.acting? (.turn id heeds) with
      | none =>
        rw [perform_of_idle acts]
        rfl
      | some job =>
        -- such a search cannot be dropped, so that it begins its attempt
        obtain ⟨⟨_, turn⟩, here, -, cancels⟩ := acting?_eq_some acts
        cases turn
        have activity := o.unique here live
        have on : job.isCancelled = false := by
          by_contra cancelled
          have may := cancels ((Bool.not_eq_false _).mp cancelled)
          rw [activity] at may
          cases why <;> cases may
        have made : w.client.trial? why (.starting attempt) = some (.began attempt) := rfl
        unfold begins? at begun
        rw [trial?_of_search acts on activity, made] at begun
        cases begun

/-! ## What becomes of a search -/

/-- An event that is a turn of a search takes it nearer to its end, and no other takes it away
from there. -/
theorem nearer_perform (reached : Outline.Reachable settings medium w.client.outline)
    (room : w.client.session.correlator.size ≤ mostCalls)
    (live : (id, .search why stage) ∈ w.client.outline.jobs) (event : Event) :
    (w.perform event).client.outline.HasEnded id ∨
      ∃ next, (id, .search why next) ∈ (w.perform event).client.outline.jobs ∧
        next.stepsLeft (why.attempts settings) + (isDue id w event).toNat ≤
          stage.stepsLeft (why.attempts settings) := by
  have o := reached.orderly
  by_cases own : ∃ job, w.acting? event = some job ∧ job.id = id
  · obtain ⟨job, acts, rfl⟩ := own
    have activity := o.unique (acting?_eq_some acts).2.1 live
    cases searchTurn_perform o room acts activity with
    | @goesOn next on proceeds there =>
      have settled : w.client.session.settings = settings := reached.settings_eq
      have less := proceeds.nearer
      rw [settled] at less
      have once := Bool.toNat_le (isDue job.id w event)
      exact .inr ⟨next, there, by omega⟩
    | returns _ _ ended | dropped _ _ ended => exact .inl ended
  · have aside (job : Job) (acts : w.acting? event = some job) : job.id ≠ id :=
      fun same => own ⟨job, acts, same⟩
    refine .inr ⟨stage, mem_perform_of_aside o live rfl aside, ?_⟩
    rw [isDue_of_aside aside]
    exact Nat.le_refl _

/-- A search has ended, or every turn that it could take has taken it nearer to its end. -/
theorem nearer_later (later : List Event)
    (live : (id, .search why stage) ∈ (run settings medium events).client.outline.jobs) :
    (run settings medium (events ++ later)).client.outline.HasEnded id ∨
      ∃ next, (id, .search why next) ∈
          (run settings medium (events ++ later)).client.outline.jobs ∧
        next.stepsLeft (why.attempts settings) +
            (run settings medium events).dueTurns id later ≤
          stage.stepsLeft (why.attempts settings) := by
  induction later using List.reverseRecOn with
  | nil =>
    rw [List.append_nil]
    exact .inr ⟨stage, live, Nat.le_refl _⟩
  | append_singleton later event ih =>
    rw [dueTurns_concat, ← run_append, ← List.append_assoc, run_concat]
    rcases ih with ended | ⟨next, there, less⟩
    · exact .inl ((follows_perform _ event).hasEnded ended)
    · rcases nearer_perform (reachable_run settings medium (events ++ later))
          (size_le_mostCalls settings medium (events ++ later)) there event with
        ended | ⟨last, there', less'⟩
      · exact .inl ended
      · exact .inr ⟨last, there', by omega⟩

/-- With its last step a search does nothing for its attempts. -/
theorem trials_of_ended (reached : Outline.Reachable settings medium w.client.outline)
    (room : w.client.session.correlator.size ≤ mostCalls)
    (live : (id, .search why stage) ∈ w.client.outline.jobs)
    (ended : (w.perform event).client.outline.HasEnded id) : w.trials id event = [] := by
  refine trials_of_none fun trial done => ?_
  obtain ⟨job, why', stage', acts, rfl, on, activity, made⟩ := exists_search_of_trial? done
  cases searchTurn_perform reached.orderly room acts activity with
  | goesOn _ _ there => exact ended.gone _ there rfl
  | returns _ leaves =>
    rw [leaves] at made
    cases made
  | dropped cancelled =>
    rw [cancelled] at on
    cases on

/-- What was said of the log of a search stays true when it has ended. -/
theorem stands_later (later : List Event)
    (live : (id, .search why stage) ∈ (run settings medium events).client.outline.jobs) :
    ∃ (last : SearchStage) (now : Nat), last.Stands (.shutDown ∉ events ++ later)
        (Punctual settings medium id (events ++ later)) settings why now
        (trialsOf settings medium id (events ++ later)) ∧
      ((run settings medium (events ++ later)).client.outline.HasEnded id ∨
        (id, .search why last) ∈ (run settings medium (events ++ later)).client.outline.jobs) := by
  induction later using List.reverseRecOn with
  | nil =>
    rw [List.append_nil]
    exact ⟨stage, _, stands_run settings medium events live, .inr live⟩
  | append_singleton later event ih =>
    obtain ⟨last, now, stands, still⟩ := ih
    have reached := reachable_run settings medium (events ++ later)
    have room := size_le_mostCalls settings medium (events ++ later)
    have mono := stands.mono
      (fun calm : .shutDown ∉ events ++ later ++ [event] => fun early =>
        calm (List.mem_append_left _ early))
      (fun punctual : Punctual settings medium id (events ++ later ++ [event]) =>
        (punctual_concat punctual).1)
    rw [← List.append_assoc]
    rcases still with ended | there
    · have aside (job : Job)
          (acts : (run settings medium (events ++ later)).acting? event = some job) :
          job.id ≠ id := ended.gone _ (acting?_eq_some acts).2.1
      rw [trialsOf_concat, trials_of_aside aside, List.append_nil, run_concat]
      exact ⟨last, now, mono, .inl ((follows_perform _ event).hasEnded ended)⟩
    · rcases nearer_perform reached room there event with ended | ⟨next, there', -⟩
      · rw [trialsOf_concat, trials_of_ended reached room there ended, List.append_nil,
          run_concat]
        exact ⟨last, now, mono, .inl ended⟩
      · rw [← run_concat] at there'
        exact ⟨next, _, stands_run settings medium (events ++ later ++ [event]) there',
          .inr there'⟩

/-- The search has its turn as soon as it is past the gate and waits for nothing more. -/
theorem isDue_of_wait (o : w.client.outline.Orderly)
    (room : w.client.session.correlator.size ≤ mostCalls)
    (live : (id, .search why stage) ∈ w.client.outline.jobs)
    (turn : stage = .atGate → w.client.gateHolder? = some id) {millis : Nat}
    (enough : ∀ due, (Activity.search why stage).deadline? = some due →
      due ≤ w.client.clock + millis) (heeds : Bool) :
    isDue id (w.perform (.wait millis)) (.turn id heeds) = true := by
  have waits : w.perform (.wait millis) =
      { w with client := { w.client with clock := w.client.clock + millis } } :=
    perform_eq room (Nat.le_refl _)
  obtain ⟨job, found, own, activity⟩ := Client.job?_of_mem o live
  rw [waits]
  unfold isDue
  dsimp only
  rw [beq_self_eq_true, Bool.true_and]
  have turning : ({ w.client with clock := w.client.clock + millis } : Client).turning? id heeds =
      some { job with
        isCancelled := job.isCancelled && heeds && job.activity.isCancellable } := by
    show (w.client.job? id).map _ = _
    rw [found]
    rfl
  rw [turning, Option.any_some]
  unfold Client.isReady
  rw [activity, Bool.or_eq_true_iff]
  refine .inr ?_
  cases stage with
  | atGate =>
    refine decide_eq_true ?_
    rw [own]
    exact turn rfl
  | backingOff n until_ => exact decide_eq_true (enough until_ rfl)
  | opening n number deadline resume? =>
    dsimp only
    rw [Bool.or_eq_true_iff]
    cases resume? with
    | none => exact .inl (decide_eq_true (enough deadline rfl))
    | some resume =>
      have due : min deadline resume ≤ w.client.clock + millis := enough _ rfl
      have first : deadline ≤ w.client.clock + millis ∨ resume ≤ w.client.clock + millis := by
        omega
      exact first.imp decide_eq_true decide_eq_true
  | _ => rfl

/-! ## The schedule -/

/-- What holds of every run, as far as searches for a connection are concerned. -/
structure KeepsSchedule (settings : Settings) (medium : Medium) (events : List Event) : Prop where
  /-- The point that a search has reached tells what it has done for its attempts, and when. -/
  stands : ∀ id why stage,
    (id, .search why stage) ∈ (run settings medium events).client.outline.jobs →
    stage.Stands (.shutDown ∉ events) (Punctual settings medium id events) settings why
      (run settings medium events).client.clock (trialsOf settings medium id events)
  /-- At its turn it does what comes next, or it is over and whoever has started it is told its
  result, unless he has dropped it. -/
  turns : ∀ event job why stage, (run settings medium events).acting? event = some job →
    job.activity = .search why stage →
    (run settings medium events).SearchTurn (run settings medium (events ++ [event])) job why stage
  /-- A connection is looked for exactly as an attempt begins. -/
  opens : ∀ event, (run settings medium (events ++ [event])).client.loopback.attempts =
    (run settings medium events).client.loopback.attempts +
      ((run settings medium events).begins? event).toList.length
  /-- The attempts of a search are numbered in order, and there are no more than allowed. -/
  inOrder : ∀ id why stage later,
    (id, .search why stage) ∈ (run settings medium events).client.outline.jobs →
    .shutDown ∉ events ++ later →
    ∃ made, attemptsIn (trialsOf settings medium id (events ++ later)) = List.range' 1 made ∧
      made ≤ why.attempts settings
  /-- The first connection is the end of the attempts. -/
  connects : ∀ id why stage later till attempt,
    (id, .search why stage) ∈ (run settings medium events).client.outline.jobs →
    .shutDown ∉ events ++ later →
    (till, .opened attempt) ∈ trialsOf settings medium id (events ++ later) →
    Connects (Punctual settings medium id (events ++ later)) settings why attempt
      (trialsOf settings medium id (events ++ later))
  /-- It makes the session ready. -/
  ready : ∀ event job why attempt peer, .shutDown ∉ events →
    (run settings medium events).acting? event = some job →
    job.activity = .search why (.installing attempt peer) →
    (job.id, .search why (.leaving none)) ∈
        (run settings medium (events ++ [event])).client.outline.jobs ∧
      (run settings medium (events ++ [event])).client.session.lifecycle = .ready
  /-- A search that has failed was not the time for it, and it has made no attempt; or all its
  attempts have failed, it reports their number and the error of the last one, and the session
  is closed. -/
  fails : ∀ id why error, .shutDown ∉ events →
    (id, .search why (.leaving (some error))) ∈
      (run settings medium events).client.outline.jobs →
    (∃ state, error = .invalidState state ∧ trialsOf settings medium id events = []) ∨
      ∃ since last, error = .connectFailed (why.attempts settings) last ∧
        Tries (Punctual settings medium id events) settings why (why.attempts settings) since last
          (trialsOf settings medium id events) ∧
        attemptsIn (trialsOf settings medium id events) =
          List.range' 1 (why.attempts settings) ∧
        (trialsOf settings medium id events).getLast?.bind
          (fun entry => entry.2.error? settings) = some last ∧
        last ≠ Client.noAttempt ∧ (run settings medium events).client.session.lifecycle = .closed
  /-- After so many turns at which it can go on, a search has ended. -/
  ends : ∀ id why stage later,
    (id, .search why stage) ∈ (run settings medium events).client.outline.jobs →
    stage.stepsLeft (why.attempts settings) ≤ (run settings medium events).dueTurns id later →
    (run settings medium (events ++ later)).client.outline.HasEnded id
  /-- It can go on as soon as its time has come, unless it waits at the gate; -/
  goesOn : ∀ id why stage millis heeds,
    (id, .search why stage) ∈ (run settings medium events).client.outline.jobs →
    (stage = .atGate → (run settings medium events).client.gateHolder? = some id) →
    (∀ due, (Activity.search why stage).deadline? = some due →
      due ≤ (run settings medium events).client.clock + millis) →
    isDue id (run settings medium (events ++ [.wait millis])) (.turn id heeds) = true
  /-- and there it waits for another search. -/
  gate : ∀ id why, (id, .search why .atGate) ∈ (run settings medium events).client.outline.jobs →
    ∃ holder why' stage, (run settings medium events).client.gateHolder? = some holder ∧
      (holder, .search why' stage) ∈ (run settings medium events).client.outline.jobs

/-- **Searches keep to their schedule.** Whatever the server and the medium do with the
attempts, a search makes the first one after its delay, or at once if it is the first search, and
each other after its own delay from the end of the one before, up to the first that comes to a
connection. An attempt that hangs is given up when its time has run out. No attempt is early, and
none is late as long as the search gets its turns in time. -/
theorem keeps_schedule (settings : Settings) (medium : Medium) (events : List Event) :
    KeepsSchedule settings medium events where
  stands _ _ _ live := stands_run settings medium events live
  turns event job why stage acts activity := by
    rw [run_concat]
    exact searchTurn_perform (reachable_run settings medium events).orderly
      (size_le_mostCalls settings medium events) acts activity
  opens event := by
    rw [run_concat]
    exact attempts_perform (reachable_run settings medium events).orderly
      (size_le_mostCalls settings medium events) event
  inOrder id why stage later live calm := by
    obtain ⟨last, now, stands, -⟩ := stands_later later live
    exact (stands.progress calm).attemptsIn_eq
  connects id why stage later till attempt live calm opened := by
    obtain ⟨last, now, stands, -⟩ := stands_later later live
    exact (stands.progress calm).connects opened
  ready event job why attempt peer calm acts activity := by
    have reached := reachable_run settings medium events
    have room := size_le_mostCalls settings medium events
    obtain ⟨-, live, -, cancels⟩ := acting?_eq_some acts
    rw [activity] at live
    have expected := undisturbed calm live rfl
    rw [run_concat]
    cases searchTurn_perform reached.orderly room acts activity with
    | goesOn on proceeds there =>
      cases proceeds with
      | installs =>
        refine ⟨there, ?_⟩
        rw [perform_of_acting (hasRoom_of_search room acts activity) acts]
        unfold Client.step
        rw [on, if_neg Bool.false_ne_true, activity]
        exact @Client.lifecycle_installs _ _ _ attempt _ expected
      | declined other => exact absurd expected other
    | returns _ leaves => cases leaves
    | dropped _ may => cases may.2
  fails id why error calm live := by
    have reached := reachable_run settings medium events
    have fails : Fails (.shutDown ∉ events) (Punctual settings medium id events) settings why
        (trialsOf settings medium id events) error := stands_run settings medium events live
    cases error with
    | invalidState state => exact .inl ⟨state, rfl, fails calm⟩
    | connectFailed attempts last =>
      obtain ⟨rfl, since, tries⟩ := fails
      have some := Search.one_le_attempts (reached.permitted _ live).1
      obtain ⟨told, real⟩ := tries.last_error some
      exact .inr ⟨since, last, rfl, tries, tries.attemptsIn_eq, told, real,
        reached.closed_of_failed live⟩
  ends id why stage later live enough := by
    rcases nearer_later later live with ended | ⟨next, -, less⟩
    · exact ended
    · have := next.stepsLeft_pos (why.attempts settings)
      omega
  goesOn id why stage millis heeds live turn enough := by
    rw [run_concat]
    exact isDue_of_wait (reachable_run settings medium events).orderly
      (size_le_mostCalls settings medium events) live turn enough heeds
  gate id why waits := (reachable_run settings medium events).gated.held_of_waiting waits

/-- A delay that is too long for a timer is cut. The first of two attempts fails, and the second
one follows after thirty years, although its delay is longer. -/
theorem cuts_delay :
    let settings : Settings :=
      { backoffBase := 1000000000000, backoffMax := 1000000000000, maxReconnectAttempts := 1 }
    let events : List Event :=
      [.serve { failures := 1 }, .connect, .turn 0 false, .turn 0 false, .turn 0 false,
        .turn 0 false, .turn 0 false, .wait 946080000000, .turn 0 false, .turn 0 false,
        .turn 0 false]
    settings.backoffDelay 1 = 1000000000000 ∧
      (trialsOf settings .messages 0 events).map (fun (time, trial) => (time, trial.begun?)) =
        [(0, none), (0, some 1), (0, none), (946080000000, some 2)] := by decide +kernel

end World

end LspClient
