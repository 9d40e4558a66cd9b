import LspClient.Proofs.Client.Touch

/-!
# The jobs of the command line are left alone

The command line's jobs are its loops and those that wait for the answers to input lines.
Nobody else starts, ends or cancels one of them (`Touches.consoleJobs`): what others can
cancel is the reader, a timer or a future that a user awaits, and none of these is a job of
the command line (`Client.Guarded`, kept by every event).
-/

namespace LspClient

namespace Client

variable {known : PendingRequest → Prop} {who? : Option (JobId × Activity)} {c c' : Client}
  {id : JobId} {job : Job}

/-- The jobs of the command line, in the order in which they were started. -/
def consoleJobs (c : Client) : List Job := c.jobs.filter (·.activity.isOfConsole)

/-- What others can cancel has nothing to do with the command line, and whoever acts stays
with it or stays away from it. -/
structure Guarded (known : PendingRequest → Prop) (who? : Option (JobId × Activity))
    (c : Client) : Prop where
  orderly : c.outline.Orderly
  given : ∀ id a, who? = some (id, a) → id < c.nextJob
  kind : ∀ id a, who? = some (id, a) → ∀ job ∈ c.jobs, job.id = id →
    job.activity.isOfConsole = a.isOfConsole
  reader : ∀ id, c.session.reader? = some id → c.IsPlain id
  timer : ∀ request, known request → c.IsPlain request.timer
  awaited : ∀ job ∈ c.jobs, ∀ request, job.activity.awaited? = some request →
    c.IsPlain request.timer

/-! ## What stays plain -/

theorem Guarded.below (g : Guarded known who? c) (member : job ∈ c.jobs) : job.id < c.nextJob :=
  g.orderly.below _ (mem_outline member)

/-- An id that was given to a job outside the command line is not given to one of its jobs. -/
theorem Touch.isPlain (h : Touch known who? c c') (g : Guarded known who? c)
    (plain : c.IsPlain id) : c'.IsPlain id := by
  have given := Nat.lt_of_lt_of_le plain.given h.nextJob
  have added {a : Activity} {d : Client} (jobs : d.jobs = c.jobs) (next : d.nextJob = c.nextJob) :
      ∀ job ∈ (d.spawn a).jobs, job.id = id → job.activity.isOfConsole = false := by
    intro job member same
    rcases mem_spawn member with old | rfl
    · rw [jobs] at old
      exact plain.other job old same
    · exact absurd (next.symm.trans same) (Nat.ne_of_gt plain.given)
  refine ⟨given, ?_⟩
  cases h with
  | install => exact added rfl rfl
  | spawn => exact added rfl rfl
  | @become own a b actor console =>
    intro job member same
    rcases mem_become member with ⟨old, -⟩ | ⟨rfl, rfl, old, hold, own⟩
    · exact plain.other job old same
    · rw [console, ← g.kind _ _ actor old hold own]
      exact plain.other old hold (own.trans same)
  | leave => exact fun job member => plain.other job (List.mem_filter.mp member).1
  | cancel =>
    intro job member same
    obtain ⟨old, hold, id, activity⟩ := mem_cancelJob member
    rw [activity]
    exact plain.other old hold (id.symm.trans same)
  | _ => exact plain.other

/-- A new job has an id of its own. -/
theorem plain_spawn {a : Activity} (below : ∀ job ∈ c.jobs, job.id < c.nextJob)
    (outside : a.isOfConsole = false) : (c.spawn a).IsPlain c.nextJob where
  given := Nat.lt_succ_self _
  other job member same := by
    rcases mem_spawn member with old | rfl
    · exact absurd same (Nat.ne_of_lt (below job old))
    · exact outside

theorem outline_leave (c : Client) (id : JobId) :
    ({ c with jobs := c.jobs.filter (·.id != id) } : Client).outline = c.outline.erase id := by
  unfold outline Outline.erase
  simp only [List.filter_map]
  rfl

theorem Touch.orderly (h : Touch known who? c c') (o : c.outline.Orderly) :
    c'.outline.Orderly := by
  cases h with
  | @install s peer generation =>
    have same : ({ c with session := s } : Client).outline.Orderly :=
      Outline.ofJobs_orderly.congr o rfl rfl
    rw [outline_spawn]
    exact same.add _
  | spawn =>
    rw [outline_spawn]
    exact o.add _
  | become =>
    rw [outline_become]
    exact o.put _ _
  | leave =>
    rw [outline_leave]
    exact o.erase _
  | cancel =>
    rw [outline_cancelJob]
    exact o
  | _ => exact Outline.ofJobs_orderly.congr o rfl rfl

theorem Touch.kind (h : Touch known who? c c') (g : Guarded known who? c) :
    ∀ id a, who? = some (id, a) → ∀ job ∈ c'.jobs, job.id = id →
      job.activity.isOfConsole = a.isOfConsole := by
  intro id a own
  have added {b : Activity} {d : Client} (jobs : d.jobs = c.jobs) (next : d.nextJob = c.nextJob) :
      ∀ job ∈ (d.spawn b).jobs, job.id = id → job.activity.isOfConsole = a.isOfConsole := by
    intro job member same
    rcases mem_spawn member with old | rfl
    · rw [jobs] at old
      exact g.kind id a own job old same
    · exact absurd (next.symm.trans same) (Nat.ne_of_gt (g.given id a own))
  cases h with
  | install => exact added rfl rfl
  | spawn => exact added rfl rfl
  | @become other a' b actor console =>
    intro job member same
    rcases mem_become member with ⟨old, -⟩ | ⟨-, rfl, -⟩
    · exact g.kind id a own job old same
    · rw [actor] at own
      cases own
      exact console
  | leave => exact fun job member => g.kind id a own job (List.mem_filter.mp member).1
  | cancel =>
    intro job member same
    obtain ⟨old, hold, id', activity⟩ := mem_cancelJob member
    rw [activity]
    exact g.kind id a own old hold (id'.symm.trans same)
  | _ => exact g.kind id a own

theorem Touch.guarded (h : Touch known who? c c') (g : Guarded known who? c) :
    Guarded known who? c' where
  orderly := h.orderly g.orderly
  given id a own := Nat.lt_of_lt_of_le (g.given id a own) h.nextJob
  kind := h.kind g
  timer request holds := h.isPlain g (g.timer request holds)
  reader := by
    have kept : ∀ id, c.session.reader? = some id → c'.IsPlain id :=
      fun id current => h.isPlain g (g.reader id current)
    cases h with
    | session reader =>
      intro id current
      rcases reader with same | gone
      · exact kept id (same.symm.trans current)
      · rw [gone] at current
        cases current
    | @install s peer generation reader =>
      intro id current
      obtain rfl : c.nextJob = id := Option.some.inj (reader.symm.trans current)
      exact plain_spawn (fun job member => g.below member) rfl
    | _ => exact kept
  awaited := by
    have kept : ∀ job ∈ c.jobs, ∀ request, job.activity.awaited? = some request →
        c'.IsPlain request.timer :=
      fun job member request waits => h.isPlain g (g.awaited job member request waits)
    have fresh {a : Activity} (timer : ∀ request, a.awaited? = some request →
        known request ∨ c.IsPlain request.timer) :
        ∀ request, a.awaited? = some request → c'.IsPlain request.timer := by
      intro request waits
      rcases timer request waits with holds | plain
      · exact h.isPlain g (g.timer request holds)
      · exact h.isPlain g plain
    intro job member
    cases h with
    | install =>
      rcases mem_spawn member with old | rfl
      · exact kept job old
      · exact nofun
    | spawn console timer =>
      rcases mem_spawn member with old | rfl
      · exact kept job old
      · exact fresh timer
    | become own console timer =>
      rcases mem_become member with ⟨old, -⟩ | ⟨-, rfl, -⟩
      · exact kept job old
      · exact fresh timer
    | leave => exact kept job (List.mem_filter.mp member).1
    | cancel =>
      obtain ⟨old, hold, -, activity⟩ := mem_cancelJob member
      rw [activity]
      exact kept old hold
    | _ => exact kept job member

theorem Touches.guarded (h : Touches known who? c c') (g : Guarded known who? c) :
    Guarded known who? c' := by
  induction h with
  | refl => exact g
  | tail _ last ih => exact last.guarded ih

/-! ## Nobody else touches the jobs of the command line -/

private theorem filter_map_console {change : Job → Job} {jobs : List Job}
    (same : ∀ job ∈ jobs, job.activity.isOfConsole = true → change job = job)
    (outside : ∀ job ∈ jobs, job.activity.isOfConsole = false →
      (change job).activity.isOfConsole = false) :
    (jobs.map change).filter (·.activity.isOfConsole) = jobs.filter (·.activity.isOfConsole) := by
  induction jobs with
  | nil => rfl
  | cons job rest ih =>
    obtain ⟨same, rest_same⟩ := List.forall_mem_cons.mp same
    obtain ⟨outside, rest_outside⟩ := List.forall_mem_cons.mp outside
    rw [List.map_cons, List.filter_cons, List.filter_cons, ih rest_same rest_outside]
    cases kind : job.activity.isOfConsole with
    | true => rw [same kind, kind]
    | false =>
      rw [outside kind]
      rfl

theorem mem_consoleJobs :
    job ∈ c.consoleJobs ↔ job ∈ c.jobs ∧ job.activity.isOfConsole = true := List.mem_filter

theorem IsPlain.ne (plain : c.IsPlain id) : ∀ job ∈ c.consoleJobs, job.id ≠ id := by
  intro job member same
  obtain ⟨member, console⟩ := mem_consoleJobs.mp member
  rw [plain.other job member same] at console
  cases console

/-- The jobs of the command line have ids of their own. -/
theorem Guarded.apart (g : Guarded known who? c) : (c.consoleJobs.map Job.id).Nodup := by
  have ids := g.orderly.apart
  unfold outline at ids
  rw [List.map_map] at ids
  exact ids.sublist (List.filter_sublist.map _)

/-- What is no job of the command line can be cancelled without one being touched. -/
theorem consoleJobs_cancelJob (other : ∀ job ∈ c.consoleJobs, job.id ≠ id) :
    (c.cancelJob id).consoleJobs = c.consoleJobs := by
  refine filter_map_console (fun job member console => if_neg fun own => ?_)
    fun job member outside => ?_
  · exact other job (mem_consoleJobs.mpr ⟨member, console⟩) own.1
  · split <;> exact outside

/-- When a job ends, it alone goes. -/
theorem consoleJobs_leave (c : Client) (id : JobId) :
    ({ c with jobs := c.jobs.filter (·.id != id) } : Client).consoleJobs =
      c.consoleJobs.filter (·.id != id) := by
  unfold consoleJobs
  rw [List.filter_filter, List.filter_filter]
  exact List.filter_congr fun job _ => Bool.and_comm ..

theorem consoleJobs_reap (other : ∀ reader, c.session.reader? = some reader →
    ∀ job ∈ c.consoleJobs, job.id ≠ reader) : c.reap.consoleJobs = c.consoleJobs := by
  unfold reap
  split
  · rfl
  · show c.cancelReader.consoleJobs = c.consoleJobs
    unfold cancelReader
    split
    · next reader current => exact consoleJobs_cancelJob (other reader current)
    · rfl

theorem consoleJobs_finish (other : ∀ reader, c.session.reader? = some reader →
    ∀ job ∈ c.consoleJobs, job.id ≠ reader) :
    (c.finish id).consoleJobs = c.consoleJobs.filter (·.id != id) := by
  unfold finish
  rw [← consoleJobs_leave]
  refine consoleJobs_reap fun reader current job member => ?_
  rw [consoleJobs_leave] at member
  exact other reader current job (List.mem_filter.mp member).1

theorem Guarded.consoleJobs_cancelJob (g : Guarded known who? c) (may : c.MayCancel known who? id)
    (outside : ∀ id a, who? = some (id, a) → a.isOfConsole = false) :
    (c.cancelJob id).consoleJobs = c.consoleJobs := by
  refine Client.consoleJobs_cancelJob ?_
  cases may with
  | reader current => exact (g.reader id current).ne
  | timer holds => exact (g.timer _ holds).ne
  | @abort own user member users =>
    intro job hjob same
    obtain ⟨hjob, console⟩ := mem_consoleJobs.mp hjob
    rw [eq_of_id g.orderly hjob member same] at console
    cases activity : own.activity with
    | forward =>
      rw [activity] at users
      cases users
    | await request receiver stage =>
      rw [activity] at users console
      cases receiver with
      | printer echo => cases users
      | _ => cases console
    | _ =>
      rw [activity] at console
      cases console
  | waiting loop => cases outside _ _ loop

theorem consoleJobs_spawn_of_outside (c : Client) {a : Activity} (outside : a.isOfConsole = false) :
    (c.spawn a).consoleJobs = c.consoleJobs := by
  unfold consoleJobs spawn
  rw [List.filter_append, List.filter_singleton]
  dsimp only
  rw [outside]
  exact List.append_nil _

theorem consoleJobs_spawn_of_console (c : Client) {a : Activity} (console : a.isOfConsole = true) :
    (c.spawn a).consoleJobs = c.consoleJobs ++ [{ id := c.nextJob, activity := a }] := by
  unfold consoleJobs spawn
  rw [List.filter_append, List.filter_singleton]
  dsimp only
  rw [console]
  rfl

/-- New loops that have not done anything. -/
def AreNewLoops (jobs : List Job) : Prop :=
  ∀ job ∈ jobs, job.activity = .forward .reading [] ∧ job.isCancelled = false

theorem Touch.consoleJobs (h : Touch known who? c c') (g : Guarded known who? c)
    (outside : ∀ id a, who? = some (id, a) → a.isOfConsole = false) :
    ∃ loops, AreNewLoops loops ∧ (loops ≠ [] → who? = none) ∧
      c'.consoleJobs = c.consoleJobs ++ loops := by
  have same (keeps : c'.consoleJobs = c.consoleJobs) : ∃ loops, AreNewLoops loops ∧
      (loops ≠ [] → who? = none) ∧ c'.consoleJobs = c.consoleJobs ++ loops :=
    ⟨[], List.forall_mem_nil _, absurd rfl, by rw [keeps, List.append_nil]⟩
  cases h with
  | @install s => exact same (consoleJobs_spawn_of_outside { c with session := s } rfl)
  | @spawn a console timer =>
    cases new : a.isOfConsole with
    | false => exact same (consoleJobs_spawn_of_outside c new)
    | true =>
      rcases console new with ⟨user, rfl⟩ | ⟨id, b, own, of⟩
      · exact ⟨_, by simp [AreNewLoops], fun _ => user, consoleJobs_spawn_of_console c new⟩
      · rw [outside id b own] at of
        cases of
  | @become id a b own console =>
    refine same (filter_map_console (fun job member of => if_neg fun same => ?_)
      fun job member plain => ?_)
    · rw [g.kind id a own job member same, outside id a own] at of
      cases of
    · split
      · exact console.trans (outside id a own)
      · exact plain
  | @leave id a own =>
    refine same ((consoleJobs_leave c id).trans (List.filter_eq_self.mpr fun job member => ?_))
    obtain ⟨member, console⟩ := mem_consoleJobs.mp member
    refine bne_iff_ne.mpr fun own' => ?_
    rw [g.kind id a own job member own', outside id a own] at console
    cases console
  | cancel may => exact same (g.consoleJobs_cancelJob may outside)
  | _ => exact same rfl

theorem Touches.consoleJobs (h : Touches known who? c c') (g : Guarded known who? c)
    (outside : ∀ id a, who? = some (id, a) → a.isOfConsole = false) :
    ∃ loops, AreNewLoops loops ∧ (loops ≠ [] → who? = none) ∧
      c'.consoleJobs = c.consoleJobs ++ loops := by
  have both : Guarded known who? c' ∧ ∃ loops, AreNewLoops loops ∧ (loops ≠ [] → who? = none) ∧
      c'.consoleJobs = c.consoleJobs ++ loops := by
    induction h with
    | refl => exact ⟨g, [], List.forall_mem_nil _, absurd rfl, (List.append_nil _).symm⟩
    | tail _ last ih =>
      obtain ⟨g', loops, new, user, same⟩ := ih
      obtain ⟨more, new', user', same'⟩ := last.consoleJobs g' outside
      refine ⟨last.guarded g', loops ++ more, List.forall_mem_append.mpr ⟨new, new'⟩, ?_, ?_⟩
      · intro some
        by_cases none : loops = []
        · refine user' fun also => some ?_
          rw [none, also]
          rfl
        · exact user none
      · rw [same', same, List.append_assoc]
  exact both.2

end Client

/-! ## Every event -/

namespace World

open Client

variable {w : World} {event : Event}

/-- What others can cancel has nothing to do with the command line. -/
abbrev IsGuarded (w : World) : Prop := w.client.Guarded (· ∈ w.requests) none

theorem IsGuarded.actor (g : w.IsGuarded) (event : Event) :
    w.client.Guarded (· ∈ w.requests) (w.actor? event) where
  orderly := g.orderly
  reader := g.reader
  timer := g.timer
  awaited := g.awaited
  given id a own := by
    obtain ⟨job, acts, same⟩ := Option.map_eq_some_iff.mp own
    cases same
    obtain ⟨-, live, -⟩ := acting?_eq_some acts
    exact g.orderly.below _ live
  kind id a own job member same := by
    obtain ⟨actor, acts, actor_eq⟩ := Option.map_eq_some_iff.mp own
    cases actor_eq
    obtain ⟨-, live, -⟩ := acting?_eq_some acts
    have member := mem_outline member
    rw [same] at member
    rw [g.orderly.unique member live]

theorem IsGuarded.perform (g : w.IsGuarded) (event : Event) : (w.perform event).IsGuarded := by
  have after := (touches_perform g.orderly event).guarded (g.actor event)
  refine ⟨after.orderly, (fun _ _ nobody => by cases nobody), (fun _ _ nobody => by cases nobody),
    after.reader, fun request alive => ?_, after.awaited⟩
  rcases mem_requests.mp alive with held | ⟨id, receiver, stage, live⟩
  · cases room : w.hasRoom event with
    | false =>
      rw [perform_of_no_room room] at held
      exact after.timer request (mem_requests.mpr (.inl held))
    | true =>
      rw [perform_of_room room] at held ⊢
      rcases held_cases w event request held with old | ⟨id?, method, params, sent⟩
      · rw [perform_of_room room] at after
        exact after.timer request (mem_requests.mpr (.inl old))
      · obtain ⟨-, timer⟩ : Touches (· ∈ w.requests) none w.client
            (w.client.request id? method params).1 ∧ _ :=
          touches_request g.orderly id? method params
        rw [sent] at timer
        exact timer request rfl
  · obtain ⟨job, member, -, activity⟩ := exists_job live
    refine after.awaited job member request ?_
    rw [activity]
    rfl

theorem isGuarded_run (settings : Settings) (medium : Medium) (events : List Event) :
    (run settings medium events).IsGuarded := by
  refine run_induction ?_ (fun w event g => g.perform event) events
  exact ⟨(Outline.reachable_run settings medium []).orderly, (fun _ _ nobody => by cases nobody),
    (fun _ _ nobody => by cases nobody), (fun _ absent => by cases absent), List.forall_mem_nil _,
    List.forall_mem_nil _⟩

/-- Nobody else touches the jobs of the command line. -/
theorem consoleJobs_perform (g : w.IsGuarded)
    (outside : ∀ job, w.acting? event = some job → job.activity.isOfConsole = false) :
    ∃ loops, AreNewLoops loops ∧ (loops ≠ [] → w.acting? event = none) ∧
      (w.perform event).client.consoleJobs = w.client.consoleJobs ++ loops := by
  obtain ⟨loops, new, user, same⟩ :=
    (touches_perform g.orderly event).consoleJobs (g.actor event) fun id a own => by
      obtain ⟨job, acts, same⟩ := Option.map_eq_some_iff.mp own
      cases same
      exact outside job acts
  exact ⟨loops, new, fun some => Option.map_eq_none_iff.mp (user some), same⟩

end World

end LspClient
