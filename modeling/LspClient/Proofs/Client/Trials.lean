import LspClient.Proofs.Client.Attempts
import LspClient.Proofs.Client.Touch
import LspClient.Proofs.Client.Undisturbed

/-!
# What a search has done so far

Each search has a log of what it did for its attempts, and when. `Tries` says what such a log
looks like: the attempts are numbered in order, each began when it was due, counted from the end
of the one before, and each has failed. `SearchStage.Stands` ties the log of a search to the
point that the search has reached; every step keeps that (`Client.Proceeds.stands`), and time
that passes does so too (`SearchStage.Stands.wait`).

No attempt is made too early. That none is made too late is not in the hands of the search
alone: it depends on when it gets its turns. What a log says of that is said for an exact run, in
which no time passes for a search while it can go on, or beyond the time at which it can.
-/

namespace LspClient

open Client

/-- Not before it is due, and in an exact run just then. -/
structure OnTime (exact : Prop) (due time : Nat) : Prop where
  reached : due ≤ time
  punctual : exact → time ≤ due

theorem OnTime.mono {exact exact' : Prop} {due time : Nat} (h : OnTime exact due time)
    (less : exact' → exact) : OnTime exact' due time :=
  ⟨h.reached, fun more => h.punctual (less more)⟩

/-- The error that an attempt has failed with. -/
def Trial.error? (settings : Settings) : Trial → Option ConnectError
  | .failed _ error => some error
  | .hung _ => some (.timedOut settings.connectTimeout.toNat)
  | _ => none

def Trial.begun? : Trial → Option Nat
  | .began attempt => some attempt
  | _ => none

/-- The attempts that were begun. -/
def attemptsIn (log : List (Nat × Trial)) : List Nat := log.filterMap fun entry => entry.2.begun?

/-- A search has made so many attempts, the last of which was over at this time and has failed
with this error. -/
inductive Tries (exact : Prop) (settings : Settings) (why : Search) :
    Nat → Nat → ConnectError → List (Nat × Trial) → Prop
  | passed (time : Nat) : Tries exact settings why 0 time noAttempt [(time, .passed)]
  | failed {made since time till : Nat} {last error : ConnectError} {log : List (Nat × Trial)}
      (before : Tries exact settings why made since last log)
      (left : made < why.attempts settings)
      (begins : OnTime exact (settings.attemptDue why (made + 1) since) time)
      (lasts : time ≤ till)
      (inTime : exact → till ≤ Clock.due time settings.connectTimeout.toNat)
      (real : error ≠ noAttempt) :
      Tries exact settings why (made + 1) till error
        (log ++ [(time, .began (made + 1))] ++ [(till, .failed (made + 1) error)])
  | hung {made since time till : Nat} {last : ConnectError} {log : List (Nat × Trial)}
      (before : Tries exact settings why made since last log)
      (left : made < why.attempts settings)
      (begins : OnTime exact (settings.attemptDue why (made + 1) since) time)
      (ends : OnTime exact (Clock.due time settings.connectTimeout.toNat) till) :
      Tries exact settings why (made + 1) till (.timedOut settings.connectTimeout.toNat)
        (log ++ [(time, .began (made + 1))] ++ [(till, .hung (made + 1))])

/-- An attempt is under way that began at this time. -/
inductive Opens (exact : Prop) (settings : Settings) (why : Search) :
    Nat → Nat → List (Nat × Trial) → Prop
  | began {made since time : Nat} {last : ConnectError} {log : List (Nat × Trial)}
      (before : Tries exact settings why made since last log)
      (left : made < why.attempts settings)
      (begins : OnTime exact (settings.attemptDue why (made + 1) since) time) :
      Opens exact settings why (made + 1) time (log ++ [(time, .began (made + 1))])

/-- An attempt has come to a connection, and no other was made after it. -/
inductive Connects (exact : Prop) (settings : Settings) (why : Search) :
    Nat → List (Nat × Trial) → Prop
  | opened {attempt time till : Nat} {log : List (Nat × Trial)}
      (before : Opens exact settings why attempt time log) (lasts : time ≤ till)
      (inTime : exact → till ≤ Clock.due time settings.connectTimeout.toNat) :
      Connects exact settings why attempt (log ++ [(till, .opened attempt)])

/-- How far a search has come with its attempts. -/
inductive Progress (exact : Prop) (settings : Settings) (why : Search) :
    List (Nat × Trial) → Prop
  | none : Progress exact settings why []
  | tried {made since : Nat} {last : ConnectError} {log : List (Nat × Trial)}
      (tries : Tries exact settings why made since last log) : Progress exact settings why log
  | opening {attempt time : Nat} {log : List (Nat × Trial)}
      (opens : Opens exact settings why attempt time log) : Progress exact settings why log
  | connected {attempt : Nat} {log : List (Nat × Trial)}
      (connects : Connects exact settings why attempt log) : Progress exact settings why log

/-- What a search has failed with: with the error of its last attempt after all of them, or
with the state of the session. Unless somebody shuts the session down, the latter comes before
the first attempt. -/
def Fails (calm exact : Prop) (settings : Settings) (why : Search) (log : List (Nat × Trial)) :
    SessionError → Prop
  | .connectFailed attempts last => attempts = why.attempts settings ∧
      ∃ since, Tries exact settings why attempts since last log
  | .invalidState _ => calm → log = []

/-- What a search has done that has come to this point. -/
def SearchStage.Stands (calm exact : Prop) (settings : Settings) (why : Search) (now : Nat)
    (log : List (Nat × Trial)) : SearchStage → Prop
  | .arriving | .atGate => log = []
  | .backingOff attempt until_ => ∃ made since last, attempt = made + 1 ∧
      Tries exact settings why made since last log ∧ made < why.attempts settings ∧
      until_ = settings.attemptDue why (made + 1) since ∧ (exact → now ≤ until_)
  | .checking attempt | .starting attempt => ∃ made since last, attempt = made + 1 ∧
      Tries exact settings why made since last log ∧ made < why.attempts settings ∧
      OnTime exact (settings.attemptDue why (made + 1) since) now
  | .opening attempt _ deadline _ => ∃ time, Opens exact settings why attempt time log ∧
      deadline = Clock.due time settings.connectTimeout.toNat ∧ time ≤ now ∧
      (exact → now ≤ deadline)
  | .installing attempt _ => Connects exact settings why attempt log
  | .leaving none => ∃ attempt, Connects exact settings why attempt log
  | .closing error | .draining error | .leaving (some error) =>
    Fails calm exact settings why log error

section

variable {calm calm' exact exact' : Prop} {settings : Settings} {why : Search}
  {made since attempt time now : Nat} {last : ConnectError} {log : List (Nat × Trial)}
  {stage next : SearchStage}

/-! ## Logs -/

theorem Tries.made_le (h : Tries exact settings why made since last log) :
    made ≤ why.attempts settings := by
  cases h with
  | passed => exact Nat.zero_le _
  | failed _ left | hung _ left => exact left

theorem attemptsIn_concat (log : List (Nat × Trial)) (entry : Nat × Trial) :
    attemptsIn (log ++ [entry]) = attemptsIn log ++ entry.2.begun?.toList := by
  unfold attemptsIn
  rw [List.filterMap_append]
  cases began : entry.2.begun? with
  | none => simp [began]
  | some attempt => simp [began]

/-- The attempts are numbered in order. -/
theorem Tries.attemptsIn_eq (h : Tries exact settings why made since last log) :
    attemptsIn log = List.range' 1 made := by
  have next {made time till : Nat} {log : List (Nat × Trial)} {ending : Trial}
      (ih : attemptsIn log = List.range' 1 made) (ends : ending.begun? = none) :
      attemptsIn (log ++ [(time, .began (made + 1))] ++ [(till, ending)]) =
        List.range' 1 (made + 1) := by
    rw [attemptsIn_concat, attemptsIn_concat, ih, ends, List.range'_concat, Nat.one_mul,
      Nat.add_comm 1 made]
    exact List.append_nil _
  induction h with
  | passed => rfl
  | failed _ _ _ _ _ _ ih | hung _ _ _ _ ih => exact next ih rfl

theorem Opens.attemptsIn_eq (h : Opens exact settings why attempt time log) :
    attemptsIn log = List.range' 1 attempt ∧ attempt ≤ why.attempts settings := by
  cases h with
  | @began made _ _ _ _ before left =>
    refine ⟨?_, left⟩
    rw [attemptsIn_concat, before.attemptsIn_eq, List.range'_concat, Nat.one_mul,
      Nat.add_comm 1 made]
    rfl

theorem Connects.attemptsIn_eq (h : Connects exact settings why attempt log) :
    attemptsIn log = List.range' 1 attempt ∧ attempt ≤ why.attempts settings := by
  cases h with
  | opened before =>
    rw [attemptsIn_concat, before.attemptsIn_eq.1]
    exact ⟨List.append_nil _, before.attemptsIn_eq.2⟩

/-- The log of a search that nobody has disturbed is one of these. -/
theorem SearchStage.Stands.progress (h : stage.Stands calm exact settings why now log)
    (quiet : calm) : Progress exact settings why log := by
  have fails {error : SessionError} (fails : Fails calm exact settings why log error) :
      Progress exact settings why log := by
    cases error with
    | connectFailed attempts last =>
      obtain ⟨-, since, tries⟩ := fails
      exact .tried tries
    | invalidState state =>
      have nothing : log = [] := fails quiet
      rw [nothing]
      exact .none
  cases stage with
  | arriving | atGate =>
    have nothing : log = [] := h
    rw [nothing]
    exact .none
  | backingOff n until_ =>
    obtain ⟨made, since, last, -, tries, -⟩ := h
    exact .tried tries
  | checking n | starting n =>
    obtain ⟨made, since, last, -, tries, -⟩ := h
    exact .tried tries
  | opening n number deadline resume? =>
    obtain ⟨time, opens, -⟩ := h
    exact .opening opens
  | installing n peer => exact .connected h
  | closing error | draining error => exact fails h
  | leaving error? =>
    cases error? with
    | none =>
      obtain ⟨n, connects⟩ := h
      exact .connected connects
    | some error => exact fails h

/-- No search makes more attempts than it is allowed. -/
theorem Progress.attemptsIn_eq (h : Progress exact settings why log) :
    ∃ made, attemptsIn log = List.range' 1 made ∧ made ≤ why.attempts settings := by
  cases h with
  | none => exact ⟨0, rfl, Nat.zero_le _⟩
  | @tried made _ _ _ tries => exact ⟨made, tries.attemptsIn_eq, tries.made_le⟩
  | @opening attempt _ _ opens => exact ⟨attempt, opens.attemptsIn_eq⟩
  | @connected attempt _ connects => exact ⟨attempt, connects.attemptsIn_eq⟩

/-- A search that makes attempts has not come to a connection before. -/
theorem Tries.not_opened (h : Tries exact settings why made since last log) :
    ∀ entry ∈ log, ∀ n, entry.2 ≠ .opened n := by
  have next {time till made : Nat} {log : List (Nat × Trial)} {ending : Trial}
      (ih : ∀ entry ∈ log, ∀ n, entry.2 ≠ .opened n) (ends : ∀ n, ending ≠ .opened n) :
      ∀ entry ∈ log ++ [(time, .began made)] ++ [(till, ending)], ∀ n, entry.2 ≠ .opened n := by
    intro entry member
    rcases List.mem_append.mp member with old | last
    · rcases List.mem_append.mp old with old | began
      · exact ih entry old
      · rw [List.mem_singleton.mp began]
        exact nofun
    · rw [List.mem_singleton.mp last]
      exact ends
  induction h with
  | passed =>
    intro entry member
    rw [List.mem_singleton.mp member]
    exact nofun
  | failed _ _ _ _ _ _ ih | hung _ _ _ _ ih => exact next ih nofun

/-- Once an attempt has come to a connection, no other is made. -/
theorem Progress.connects (h : Progress exact settings why log) {till : Nat}
    (opened : (till, .opened attempt) ∈ log) : Connects exact settings why attempt log := by
  have began {made time : Nat} {log : List (Nat × Trial)}
      (opens : Opens exact settings why made time log) : (till, .opened attempt) ∉ log := by
    intro opened
    cases opens with
    | began before =>
      rcases List.mem_append.mp opened with old | began
      · exact absurd rfl (before.not_opened _ old attempt)
      · cases List.mem_singleton.mp began
  cases h with
  | none => cases opened
  | tried tries => exact absurd rfl (tries.not_opened _ opened attempt)
  | opening opens => exact absurd opened (began opens)
  | connected connects =>
    have own := connects
    cases connects with
    | opened before =>
      rcases List.mem_append.mp opened with old | last
      · exact absurd old (began before)
      · cases List.mem_singleton.mp last
        exact own

/-- After an attempt the last error is that of the last attempt. -/
theorem Tries.last_error (h : Tries exact settings why made since last log) (some : 0 < made) :
    log.getLast?.bind (fun entry => entry.2.error? settings) = .some last ∧
      last ≠ noAttempt := by
  cases h with
  | passed => exact absurd some (Nat.lt_irrefl 0)
  | failed _ _ _ _ _ real =>
    rw [List.getLast?_concat]
    exact ⟨rfl, real⟩
  | hung =>
    rw [List.getLast?_concat]
    exact ⟨rfl, nofun⟩

theorem Tries.mono (h : Tries exact settings why made since last log) (less : exact' → exact) :
    Tries exact' settings why made since last log := by
  induction h with
  | passed time => exact .passed time
  | failed _ left begins lasts inTime real ih =>
    exact .failed ih left (begins.mono less) lasts (fun more => inTime (less more)) real
  | hung _ left begins ends ih => exact .hung ih left (begins.mono less) (ends.mono less)

theorem Opens.mono (h : Opens exact settings why attempt time log) (less : exact' → exact) :
    Opens exact' settings why attempt time log := by
  cases h with
  | began before left begins => exact .began (before.mono less) left (begins.mono less)

theorem Connects.mono (h : Connects exact settings why attempt log) (less : exact' → exact) :
    Connects exact' settings why attempt log := by
  cases h with
  | opened before lasts inTime =>
    exact .opened (before.mono less) lasts fun more => inTime (less more)

theorem Fails.mono {error : SessionError} (h : Fails calm exact settings why log error)
    (calmer : calm' → calm) (less : exact' → exact) :
    Fails calm' exact' settings why log error := by
  cases error with
  | connectFailed attempts last =>
    obtain ⟨all, since, tries⟩ := h
    exact ⟨all, since, tries.mono less⟩
  | invalidState state => exact fun more => h (calmer more)

theorem SearchStage.Stands.mono (h : stage.Stands calm exact settings why now log)
    (calmer : calm' → calm) (less : exact' → exact) :
    stage.Stands calm' exact' settings why now log := by
  cases stage with
  | arriving | atGate => exact h
  | backingOff n until_ =>
    obtain ⟨made, since, last, same, tries, left, due, early⟩ := h
    exact ⟨made, since, last, same, tries.mono less, left, due, fun more => early (less more)⟩
  | checking n | starting n =>
    obtain ⟨made, since, last, same, tries, left, due⟩ := h
    exact ⟨made, since, last, same, tries.mono less, left, due.mono less⟩
  | opening n number deadline resume? =>
    obtain ⟨time, opens, due, since, early⟩ := h
    exact ⟨time, opens.mono less, due, since, fun more => early (less more)⟩
  | installing n peer => exact Connects.mono h less
  | closing error | draining error => exact Fails.mono h calmer less
  | leaving error? =>
    cases error? with
    | none =>
      obtain ⟨attempt, connects⟩ := h
      exact ⟨attempt, connects.mono less⟩
    | some error => exact Fails.mono h calmer less

/-! ## One step -/

variable {c : Client} {job : Job}

/-- What an attempt fails with is not what is said of no attempt. -/
theorem Loopback.finishOpen_ne_noAttempt {l : Loopback} {number : Nat} {error : ConnectError}
    (h : (l.finishOpen number).2 = .error error) : error ≠ noAttempt := by
  have refusal (m : Medium) : ConnectError.failed (m.refusal number) ≠ noAttempt := by
    intro same
    have texts := congrArg String.toList (ConnectError.failed.inj same)
    unfold Medium.refusal at texts
    cases m with
    | messages =>
      dsimp only at texts
      rw [String.toList_append, String.toList_append] at texts
      cases texts
    | stream capacity =>
      dsimp only at texts
      rw [String.toList_append] at texts
      cases texts
  have absence (m : Medium) : ConnectError.failed m.absence ≠ noAttempt := by
    intro same
    have texts : m.absence = "no connection attempt made" := ConnectError.failed.inj same
    unfold Medium.absence at texts
    cases m with
    | messages | stream capacity =>
      dsimp only at texts
      exact absurd texts (by decide)
  unfold finishOpen at h
  split at h
  · cases h
    exact refusal _
  · split at h
    · cases h
      exact absence _
    · cases h

theorem Client.Next.stands (h : c.Next why made last next) (own : c.session.settings = settings)
    (tries : Tries exact settings why made c.clock last log) :
    next.Stands calm exact settings why c.clock log := by
  subst own
  cases h with
  | delayed left =>
    exact ⟨made, c.clock, last, rfl, tries, left, rfl,
      fun _ => Settings.le_attemptDue _ why (made + 1) c.clock⟩
  | atOnce left now =>
    exact ⟨made, c.clock, last, rfl, tries, left, ⟨Nat.le_of_eq now, fun _ => Nat.le_of_eq now.symm⟩⟩
  | enough all =>
    obtain rfl := Nat.le_antisymm tries.made_le all
    exact ⟨rfl, c.clock, tries⟩

/-- Who was disturbed has failed with the state of the session. -/
theorem Search.stands_afterFailure {state : Lifecycle} (nothing : calm → log = []) :
    (why.afterFailure (.invalidState state)).Stands calm exact settings why now log := by
  cases why <;> exact nothing

/-- **A step adds to the log what it has done.** -/
theorem Client.Proceeds.stands {trial? : Option Trial} (h : c.Proceeds why stage trial? next)
    (own : c.session.settings = settings) (goesOn : job.isCancelled = false)
    (activity : job.activity = .search why stage) (ready : c.isReady job = true)
    (undisturbed : calm → stage.isUnderWay = true → c.session.lifecycle = why.state)
    (stands : stage.Stands calm exact settings why c.clock log) :
    next.Stands calm exact settings why c.clock
      (log ++ trial?.toList.map fun trial => (c.clock, trial)) := by
  unfold isReady at ready
  rw [goesOn, activity] at ready
  have disturbed (way : stage.isUnderWay = true) (other : c.session.lifecycle ≠ why.state) :
      calm → log ++ [] = [] := fun quiet => absurd (undisturbed quiet way) other
  have nothing : log ++ (none : Option Trial).toList.map (fun trial => (c.clock, trial)) = log :=
    List.append_nil log
  cases h with
  | arrives =>
    rw [nothing]
    exact stands
  | passes _ follows =>
    have start : log = [] := stands
    rw [start]
    exact follows.stands own (.passed c.clock)
  | refused =>
    have start : log = [] := stands
    rw [start]
    exact fun _ => rfl
  | wakes =>
    obtain ⟨made, since, last, same, tries, left, rfl, early⟩ := stands
    dsimp only at ready
    simp only [Bool.false_or, decide_eq_true_eq] at ready
    rw [nothing]
    exact ⟨made, since, last, same, tries, left, ⟨ready, early⟩⟩
  | checks =>
    rw [nothing]
    exact stands
  | begins =>
    obtain ⟨made, since, last, rfl, tries, left, due⟩ := stands
    exact ⟨c.clock, .began tries left due, by rw [own], Nat.le_refl _, fun _ => Clock.le_due ..⟩
  | outdated other => exact Search.stands_afterFailure (disturbed rfl other)
  | accepted =>
    obtain ⟨time, opens, rfl, since, early⟩ := stands
    exact .opened opens since early
  | fails failed follows =>
    obtain ⟨time, opens, rfl, since, early⟩ := stands
    cases opens with
    | began before left begins =>
      exact follows.stands own
        (.failed before left begins since early (Loopback.finishOpen_ne_noAttempt failed))
  | hangs still follows =>
    obtain ⟨time, opens, rfl, since, early⟩ := stands
    dsimp only at ready
    simp only [still, Bool.false_or, Bool.or_false, decide_eq_true_eq] at ready
    cases opens with
    | began before left begins =>
      refine follows.stands own ?_
      rw [own]
      exact .hung before left begins ⟨ready, early⟩
  | installs =>
    rw [nothing]
    exact ⟨_, stands⟩
  | declined other => exact Search.stands_afterFailure (disturbed rfl other)
  | closes | late | drains =>
    rw [nothing]
    exact stands

/-- Time passes for a search that waits; in an exact run no more than it has to wait. -/
theorem SearchStage.Stands.wait {millis : Nat} (h : stage.Stands calm exact settings why now log)
    (activity : job.activity = .search why stage)
    (punctual : exact → c.isReady job = false ∧
      ∀ due, job.activity.deadline? = some due → now + millis ≤ due) :
    stage.Stands calm exact settings why (now + millis) log := by
  cases stage with
  | arriving | atGate | installing | closing | draining => exact h
  | leaving error? => cases error? <;> exact h
  | backingOff n until_ =>
    obtain ⟨made, since, last, next, tries, left, due, -⟩ := h
    refine ⟨made, since, last, next, tries, left, due, fun precise => ?_⟩
    refine (punctual precise).2 until_ ?_
    rw [activity]
    rfl
  | checking n | starting n =>
    obtain ⟨made, since, last, next, tries, left, due⟩ := h
    refine ⟨made, since, last, next, tries, left, ?_, fun precise => ?_⟩
    · exact Nat.le_trans due.reached (Nat.le_add_right ..)
    · -- such a search can go on
      have waits := (punctual precise).1
      unfold Client.isReady at waits
      rw [activity] at waits
      simp at waits
  | opening n number deadline resume? =>
    obtain ⟨time, opens, due, since, -⟩ := h
    refine ⟨time, opens, due, Nat.le_trans since (Nat.le_add_right ..), fun precise => ?_⟩
    have bound := (punctual precise).2
    rw [activity] at bound
    cases resume? with
    | none => exact bound deadline rfl
    | some resume => exact Nat.le_trans (bound _ rfl) (Nat.min_le_left ..)

end

end LspClient
