import LspClient.Proofs.Client.Console
import LspClient.Proofs.CommandLine.Lines

/-!
# Every request line has one answer

A loop of the command line takes the lines of its input in order (`World.gathered_takesLine`).
A line that asks for a request is answered once: at once if the request is refused, and else by
a job that prints what the request comes to. As long as no loop is broken off, such a job is
not cancelled and some loop waits for it, so that the loop does not end before
(`Client.IsTended`). `World.Tallies` keeps the account of the lines that are answered and of
those that wait; when all loops have come to an end, nothing waits any more
(`World.answers_lines`).
-/

namespace LspClient

/-! ## The jobs that answer -/

/-- What a job waits for in order to print it. -/
def Activity.printer? : Activity → Option (Json × PendingRequest)
  | .await request (.printer echo) _ => some (echo, request)
  | _ => none

namespace Client

open CommandLine

variable {c d : Client} {id : JobId} {job : Job} {echo : Json} {request : PendingRequest}
  {waiting : List JobId}

/-- What the jobs of the command line wait for in order to print it. -/
def printers (c : Client) : List (Json × PendingRequest) := c.jobs.filterMap (·.activity.printer?)

theorem printers_eq (c : Client) : c.printers = c.consoleJobs.filterMap (·.activity.printer?) := by
  unfold printers consoleJobs
  induction c.jobs with
  | nil => rfl
  | cons job rest ih =>
    rw [List.filterMap_cons, List.filter_cons, ih]
    cases kind : job.activity.isOfConsole with
    | true => rw [if_pos rfl, List.filterMap_cons]
    | false =>
      have other : job.activity.printer? = none := by
        cases activity : job.activity with
        | await request receiver stage =>
          rw [activity] at kind
          cases receiver with
          | printer => cases kind
          | _ => rfl
        | _ => rfl
      rw [other]
      rfl

/-- Every job that waits for an answer to an input line goes on waiting, for nothing cancels it,
and a loop waits for it. -/
def IsTended (jobs : List Job) : Prop :=
  ∀ job ∈ jobs, ∀ answer, job.activity.printer? = some answer →
    job.isCancelled = false ∧
      ∃ loop ∈ jobs, ∃ stage waiting, loop.activity = .forward stage waiting ∧ job.id ∈ waiting

/-- The outcome with which whoever waits for a request is done at this point: what he sees when
he looks, or the timeout when he gives up. -/
def found? (c : Client) (request : PendingRequest) : AwaitStage → Option Outcome
  | .looking => c.session.outcome? request.ticket
  | .late => some (.error (c.timeoutOf request.ticket))

/-! ## How the jobs of the command line end -/

theorem jobs_leave_perm {jobs : List Job} (apart : (jobs.map Job.id).Nodup)
    (member : job ∈ jobs) : jobs.Perm (job :: jobs.filter (·.id != job.id)) := by
  induction jobs with
  | nil => cases member
  | cons first rest ih =>
    obtain ⟨new, apart⟩ := List.nodup_cons.mp apart
    rcases List.mem_cons.mp member with rfl | member
    · -- no other job has its id
      have others : rest.filter (·.id != job.id) = rest :=
        List.filter_eq_self.mpr fun other hother => bne_iff_ne.mpr fun same =>
          new (same ▸ List.mem_map_of_mem hother)
      rw [List.filter_cons, bne_self_eq_false, if_neg Bool.false_ne_true, others]
    · have other : first.id ≠ job.id := fun same => new (same ▸ List.mem_map_of_mem member)
      rw [List.filter_cons, bne_iff_ne.mpr other, if_pos rfl]
      exact ((ih apart member).cons first).trans (.swap ..)

/-! ## Printing -/

/-- Who sees nothing goes on looking until the deadline. -/
theorem stepAwait_of_nothing {stage : AwaitStage} (nothing : c.found? request stage = none)
    (id : JobId) (receiver : Receiver) : stage = .looking ∧ c.stepAwait id request receiver stage =
      if c.clock < request.deadline then c else c.become id (.await request receiver .late) := by
  cases stage with
  | looking =>
    refine ⟨rfl, ?_⟩
    unfold found? at nothing
    unfold stepAwait
    dsimp only at nothing ⊢
    rw [nothing]
  | late => cases nothing

/-- What a job finds it prints under the id of its line, and ends. -/
theorem stepAwait_of_found {stage : AwaitStage} {outcome : Outcome}
    (found : c.found? request stage = some outcome)
    (reader : ∀ reader, c.session.reader? = some reader → c.IsPlain reader)
    (timer : c.IsPlain request.timer) :
    (c.stepAwait id request (.printer echo) stage).report.printed =
        c.report.printed ++ [replyJson echo outcome] ∧
      (c.stepAwait id request (.printer echo) stage).consoleJobs =
        c.consoleJobs.filter (·.id != id) := by
  -- whatever becomes of the table, its timer is cancelled, the line printed, and the job ends
  have concludes {d : Client} (printed : d.report.printed = c.report.printed)
      (jobs : d.consoleJobs = c.consoleJobs)
      (same : d.session.reader? = c.session.reader?) :
      (d.conclude id request (.printer echo) outcome).report.printed =
          c.report.printed ++ [replyJson echo outcome] ∧
        (d.conclude id request (.printer echo) outcome).consoleJobs =
          c.consoleJobs.filter (·.id != id) := by
    have cancelled : (d.cancelJob request.timer).consoleJobs = c.consoleJobs := by
      rw [← jobs]
      refine consoleJobs_cancelJob ?_
      rw [jobs]
      exact timer.ne
    unfold conclude
    dsimp only
    rw [report_finish, ← cancelled]
    refine ⟨congrArg (· ++ _) printed, consoleJobs_finish ?_⟩
    show ∀ i, d.session.reader? = some i →
      ∀ job ∈ (d.cancelJob request.timer).consoleJobs, job.id ≠ i
    rw [same, cancelled]
    exact fun i current => (reader i current).ne
  unfold found? at found
  unfold stepAwait
  cases stage with
  | looking =>
    dsimp only at found ⊢
    rw [found]
    exact concludes rfl rfl rfl
  | late =>
    cases found
    dsimp only
    split
    · next session abandoned =>
      obtain ⟨_, _, rfl⟩ := Option.map_eq_some_iff.mp abandoned
      exact concludes rfl rfl rfl
    · exact concludes rfl rfl rfl

/-! ## What a loop does -/

theorem job?_finish (c : Client) (id : JobId) : (c.finish id).job? id = none := by
  have gone : ∀ job ∈ (c.finish id).jobs, job.id ≠ id := by
    have left : ∀ job ∈ c.jobs.filter (·.id != id), job.id ≠ id := fun job member =>
      bne_iff_ne.mp (List.mem_filter.mp member).2
    unfold finish reap
    split
    · exact left
    · unfold cancelReader
      split
      · intro job member
        obtain ⟨old, hold, same, -⟩ := mem_cancelJob member
        rw [same]
        exact left old hold
      · exact left
  exact List.find?_eq_none.mpr fun job member => by simpa using gone job member

/-- The console without the line that is taken. -/
def afterLine (c : Client) (rest : Bytes) : Client :=
  { c with console := { c.console with input := rest } }

/-- What a loop does that reads. -/
inductive Reads (c : Client) (id : JobId) (waiting : List JobId) : Client → Prop
  /-- It ends before its input does. -/
  | breaksOff {d : Client} (gone : d.job? id = none) : Reads c id waiting d
  | idles (nothing : c.console.next = .none) : Reads c id waiting c
  /-- The input has ended. -/
  | ends (ended : c.console.next = .ended) :
      Reads c id waiting (c.become id (.forward .finishing waiting))
  | takes {content rest : Bytes} {line : List Char} (offered : c.console.next = .line content rest)
      (decoded : Utf8.decode content = .ok line) :
      Reads c id waiting (((c.afterLine rest).takeLine line).1.become id
        (.forward .reading (waiting ++ ((c.afterLine rest).takeLine line).2.toList)))

theorem reads_stepForward (c : Client) (id : JobId) (waiting : List JobId) :
    c.Reads id waiting (c.stepForward id waiting .reading) := by
  have breaks (d : Client) (result : Except ForwardError Unit) :
      c.Reads id waiting (d.endForward id waiting result) := .breaksOff (job?_finish ..)
  unfold stepForward
  cases offered : c.console.next with
  | none =>
    dsimp only
    unfold stepIdleForward
    split
    · exact breaks ..
    · split
      · exact breaks ..
      · exact .idles offered
  | ended => exact .ends offered
  | line content rest =>
    dsimp only
    cases decoded : Utf8.decode content with
    | error fault => exact breaks ..
    | ok line => exact .takes offered decoded

/-- What becomes of a line that is taken. -/
inductive Takes (c : Client) (content : Bytes) : Client × Option JobId → Prop
  | other {d : Client} (asks : requestLine? content = none)
      (printed : d.report.printed = c.report.printed) (jobs : d.consoleJobs = c.consoleJobs) :
      Takes c content (d, none)
  | refused {d : Client} {line : RequestLine} {e : CallError}
      (asks : requestLine? content = some line)
      (sent : (c.request none line.method line.params).2 = .error e)
      (printed : d.report.printed = c.report.printed ++ [replyJson line.echo (.error e)])
      (jobs : d.consoleJobs = c.consoleJobs) : Takes c content (d, none)
  | started {d : Client} {line : RequestLine} {request : PendingRequest} {id : JobId}
      (asks : requestLine? content = some line)
      (sent : (c.request none line.method line.params).2 = .ok request)
      (printed : d.report.printed = c.report.printed)
      (jobs : d.consoleJobs =
        c.consoleJobs ++ [{ id, activity := .await request (.printer line.echo) .looking }]) :
      Takes c content (d, some id)

theorem takes_takeLine {content : Bytes} {line : List Char}
    (decoded : Utf8.decode content = .ok line) (rest : Bytes) :
    c.Takes content ((c.afterLine rest).takeLine line) := by
  unfold takeLine
  cases read : readLine line with
  | error e =>
    have asks := requestLine?_of_other decoded (by rw [read]; exact nofun)
    exact .other asks rfl rfl
  | ok outgoing? =>
    cases outgoing? with
    | none =>
      have asks := requestLine?_of_other decoded (by rw [read]; exact nofun)
      exact .other asks rfl rfl
    | some outgoing =>
      cases outgoing with
      | notification method params =>
        have asks := requestLine?_of_other decoded (by rw [read]; exact nofun)
        dsimp only
        unfold sendLine notify
        dsimp only
        split
        · next done =>
          split at done
          · cases done
            exact .other asks rfl rfl
          · cases done
        · next done =>
          split at done
          · cases done
          · cases done
            exact .other asks rfl rfl
      | request echo method params =>
        have asks := requestLine?_of_request decoded read
        have sent : (c.request none method params).2 =
            ((c.afterLine rest).request none method params).2 := by
          unfold request afterLine
          dsimp only
          split <;> rfl
        dsimp only
        unfold sendLine
        dsimp only
        split
        · next d e done =>
          rw [done] at sent
          unfold request at done
          split at done
          · cases done
            exact .refused asks sent rfl rfl
          · cases done
        · next d request done =>
          rw [done] at sent
          unfold Client.request at done
          split at done
          · cases done
          · cases done
            refine .started asks sent rfl ?_
            rw [consoleJobs_spawn_of_console _ rfl, consoleJobs_spawn_of_outside _ rfl]
            rfl

/-- A job of the command line goes on as one, and the other jobs stay as they are. -/
theorem consoleJobs_become {b : Activity} (console : b.isOfConsole = true)
    (kind : ∀ job ∈ c.jobs, job.id = id → job.activity.isOfConsole = true) :
    (c.become id b).consoleJobs =
      c.consoleJobs.map fun job => if job.id = id then { job with activity := b } else job := by
  unfold consoleJobs become
  rw [List.filter_map]
  refine congrArg _ (List.filter_congr fun job member => ?_)
  show (if job.id = id then _ else job : Job).activity.isOfConsole = _
  split
  · next own => exact console.trans (kind job member own).symm
  · rfl

/-- Jobs that have ended are cancelled in vain. -/
theorem cancelJobs_of_gone {ids : List JobId} (gone : ∀ job ∈ c.jobs, job.id ∉ ids) :
    c.cancelJobs ids = c := by
  have one {id : JobId} (gone : ∀ job ∈ c.jobs, job.id ≠ id) : c.cancelJob id = c := by
    unfold cancelJob
    rw [List.map_congr_left fun job member => if_neg fun own => gone job member own.1, List.map_id']
  unfold cancelJobs
  induction ids with
  | nil => rfl
  | cons id rest ih =>
    rw [List.foldl_cons, one fun job member same => gone job member (same ▸ List.mem_cons_self)]
    exact ih fun job member among => gone job member (List.mem_cons_of_mem _ among)

/-- A loop ends that waits for nobody. -/
theorem endForward_of_gone {result : Except ForwardError Unit}
    (gone : ∀ job ∈ c.jobs, job.id ∉ waiting)
    (reader : ∀ reader, c.session.reader? = some reader → c.IsPlain reader) :
    (c.endForward id waiting result).report.printed = c.report.printed ∧
      (c.endForward id waiting result).consoleJobs = c.consoleJobs.filter (·.id != id) := by
  unfold endForward
  rw [cancelJobs_of_gone gone, report_finish]
  refine ⟨rfl, consoleJobs_finish ?_⟩
  exact fun i current => (reader i current).ne

/-! ## What becomes of the input -/

theorem console_endForward (c : Client) (id : JobId) (waiting : List JobId)
    (result : Except ForwardError Unit) : (c.endForward id waiting result).console = c.console := by
  have cancelled : (c.cancelJobs waiting).console = c.console := by
    unfold cancelJobs
    induction waiting generalizing c with
    | nil => rfl
    | cons id rest ih => exact ih (c.cancelJob id)
  have finished (d : Client) : (d.finish id).console = d.console := by
    unfold finish reap
    split
    · rfl
    · unfold cancelReader
      split <;> rfl
  exact (finished _).trans cancelled

theorem console_takeLine (c : Client) (line : List Char) :
    (c.takeLine line).1.console = c.console := by
  have sends (method : String) (params : Option Json) :
      (c.notify method params).1.console = c.console ∧
        (c.request none method params).1.console = c.console := by
    unfold notify request
    constructor <;> split <;> rfl
  unfold takeLine
  split
  · rfl
  · next outgoing _ =>
    unfold sendLine
    cases outgoing with
    | notification method params =>
      have same := (sends method params).1
      dsimp only
      split <;> next done =>
        rw [done] at same
        exact same
    | request echo method params =>
      have same := (sends method params).2
      dsimp only
      split <;> next done =>
        rw [done] at same
        exact same
  · rfl

/-- A loop takes at most the line that is offered. -/
theorem lines_stepForward (c : Client) (id : JobId) (waiting : List JobId) :
    c.console.next.content?.toList ++
        Console.lines (c.stepForward id waiting .reading).console.input =
      Console.lines c.console.input := by
  unfold stepForward
  cases offered : c.console.next with
  | none =>
    dsimp only
    unfold stepIdleForward
    split
    · rw [console_endForward]
      rfl
    · split
      · rw [console_endForward]
        rfl
      · rfl
  | ended => rfl
  | line content rest =>
    dsimp only
    rw [Console.lines_of_next offered]
    split
    · rw [console_endForward]
      rfl
    · show [content] ++ Console.lines ((takeLine _ _).1).console.input = _
      rw [console_takeLine]
      rfl

/-! ## Every job that waits is waited for -/

section

variable {jobs : List Job}

theorem IsTended.append (h : IsTended jobs) {loops : List Job} (new : AreNewLoops loops) :
    IsTended (jobs ++ loops) := by
  intro job member answer prints
  rcases List.mem_append.mp member with old | loop
  · obtain ⟨goesOn, loop, hloop, rest⟩ := h job old answer prints
    exact ⟨goesOn, loop, List.mem_append_left _ hloop, rest⟩
  · rw [(new job loop).1] at prints
    cases prints

/-- A job that goes on waits for what it has waited for. -/
theorem printers_goesOn {b : Activity}
    (same : ∀ job ∈ jobs, job.id = id → job.activity.printer? = b.printer?) :
    (jobs.map fun job => if job.id = id then { job with activity := b } else job).filterMap
      (·.activity.printer?) = jobs.filterMap (·.activity.printer?) := by
  rw [List.filterMap_map]
  refine List.filterMap_congr fun job member => ?_
  show (if job.id = id then _ else job : Job).activity.printer? = _
  split
  · next own => exact (same job member own).symm
  · rfl

/-- A job has printed its answer and ends. -/
theorem IsTended.printed (h : IsTended jobs) (apart : (jobs.map Job.id).Nodup)
    (member : job ∈ jobs) (prints : job.activity.printer? = some (echo, request)) :
    IsTended (jobs.filter (·.id != job.id)) := by
  intro other hother answer waits
  obtain ⟨hother, -⟩ := List.mem_filter.mp hother
  obtain ⟨goesOn, loop, hloop, stage, waiting, activity, among⟩ := h other hother answer waits
  refine ⟨goesOn, loop, List.mem_filter.mpr ⟨hloop, bne_iff_ne.mpr fun same => ?_⟩, stage, waiting,
    activity, among⟩
  rw [List.inj_on_of_nodup_map apart hloop member same] at activity
  rw [activity] at prints
  cases prints

/-- A job that waits for an answer goes on waiting. -/
theorem IsTended.waits (h : IsTended jobs) {b : Activity} {answer : Json × PendingRequest}
    (prints : b.printer? = some answer)
    (same : ∀ job ∈ jobs, job.id = id → job.activity.printer? = b.printer?) :
    IsTended (jobs.map fun job => if job.id = id then { job with activity := b } else job) := by
  intro other hother answer' waits
  obtain ⟨old, hold, rfl⟩ := List.mem_map.mp hother
  have waited : old.activity.printer? = some answer' := by
    split at waits
    · next own => exact (same old hold own).trans waits
    · exact waits
  obtain ⟨goesOn, loop, hloop, stage, waiting, activity, among⟩ := h old hold answer' waited
  have outside : loop.id ≠ id := fun own => by
    have silent := same loop hloop own
    rw [activity, prints] at silent
    cases silent
  refine ⟨?_, loop, List.mem_map.mpr ⟨loop, hloop, if_neg outside⟩, stage, waiting, activity, ?_⟩
  · split <;> exact goesOn
  · split <;> exact among

/-- A loop ends that waits for nobody any more. -/
theorem IsTended.ended (h : IsTended jobs) (apart : (jobs.map Job.id).Nodup) {stage : ForwardStage}
    (member : job ∈ jobs) (loop : job.activity = .forward stage waiting)
    (done : ∀ other ∈ jobs, other.id ∉ waiting) : IsTended (jobs.filter (·.id != job.id)) := by
  intro other hother answer waits
  obtain ⟨hother, -⟩ := List.mem_filter.mp hother
  obtain ⟨goesOn, tends, htends, stage', waiting', activity, among⟩ := h other hother answer waits
  refine ⟨goesOn, tends, List.mem_filter.mpr ⟨htends, bne_iff_ne.mpr fun same => ?_⟩, stage',
    waiting', activity, among⟩
  rw [List.inj_on_of_nodup_map apart htends member same, loop] at activity
  cases activity
  exact done other hother among

/-- A loop goes on, and waits at least for those that it has waited for. New jobs are among
them. -/
theorem IsTended.goesOn (h : IsTended jobs) (apart : (jobs.map Job.id).Nodup)
    {stage stage' : ForwardStage} {waiting' : List JobId} (member : job ∈ jobs)
    (loop : job.activity = .forward stage waiting) (more : waiting ⊆ waiting')
    {started : List Job} (uncancelled : ∀ new ∈ started, new.isCancelled = false)
    (among : ∀ new ∈ started, new.id ∈ waiting') :
    IsTended ((jobs ++ started).map fun other =>
      if other.id = job.id then { other with activity := .forward stage' waiting' }
      else other) := by
  have present : { job with activity := .forward stage' waiting' } ∈
      (jobs ++ started).map fun other =>
        if other.id = job.id then { other with activity := .forward stage' waiting' } else other :=
    List.mem_map.mpr ⟨job, List.mem_append_left _ member, if_pos rfl⟩
  intro other hother answer waits
  obtain ⟨old, hold, rfl⟩ := List.mem_map.mp hother
  by_cases own : old.id = job.id
  · rw [if_pos own] at waits
    cases waits
  · rw [if_neg own] at waits ⊢
    rcases List.mem_append.mp hold with old' | new
    · obtain ⟨goesOn, tends, htends, stage₀, waiting₀, activity, among₀⟩ := h old old' answer waits
      refine ⟨goesOn, ?_⟩
      by_cases same : tends.id = job.id
      · rw [List.inj_on_of_nodup_map apart htends member same, loop] at activity
        cases activity
        exact ⟨_, present, stage', waiting', rfl, more among₀⟩
      · exact ⟨tends, List.mem_map.mpr ⟨tends, List.mem_append_left _ htends, if_neg same⟩, stage₀,
          waiting₀, activity, among₀⟩
    · exact ⟨uncancelled old new, _, present, stage', waiting', rfl, among old new⟩

end

end Client

/-! ## The account of lines and answers -/

open CommandLine

/-- A line that has asked for a request, with what became of sending it. -/
structure Asked where
  line : RequestLine
  sent : Except CallError PendingRequest

/-- An account of the lines so far: those that are answered, with the outcomes that have been
printed, in that order, and those that jobs wait for. -/
structure Tallies (owns : Asked → Outcome → Prop) (asked : List Asked)
    (answered : List (Asked × Outcome)) (c : Client) : Prop where
  printed : c.report.printed = answered.map fun a => replyJson a.1.line.echo a.2
  own : ∀ a ∈ answered, owns a.1 a.2
  rest : ∃ waiting : List (RequestLine × PendingRequest),
    asked.Perm (answered.map Prod.fst ++ waiting.map fun x => ⟨x.1, .ok x.2⟩) ∧
      (waiting.map fun x => (x.1.echo, x.2)).Perm c.printers

namespace Tallies

variable {owns : Asked → Outcome → Prop} {asked : List Asked}
  {answered : List (Asked × Outcome)} {c c' : Client} {line : RequestLine}
  {request : PendingRequest}

theorem mono {owns' : Asked → Outcome → Prop} (h : Tallies owns asked answered c)
    (more : ∀ a outcome, owns a outcome → owns' a outcome) : Tallies owns' asked answered c :=
  ⟨h.printed, fun a member => more a.1 a.2 (h.own a member), h.rest⟩

/-- Nothing is asked, and nothing is printed. -/
theorem same (h : Tallies owns asked answered c) (printed : c'.report.printed = c.report.printed)
    (printers : c'.printers.Perm c.printers) : Tallies owns asked answered c' := by
  obtain ⟨waiting, all, waits⟩ := h.rest
  exact ⟨printed.trans h.printed, h.own, waiting, all, waits.trans printers.symm⟩

/-- A line is refused at once. -/
theorem refused {e : CallError} (h : Tallies owns asked answered c)
    (printed : c'.report.printed = c.report.printed ++ [replyJson line.echo (.error e)])
    (printers : c'.printers.Perm c.printers) (own : owns ⟨line, .error e⟩ (.error e)) :
    Tallies owns (asked ++ [⟨line, .error e⟩]) (answered ++ [(⟨line, .error e⟩, .error e)]) c' := by
  obtain ⟨waiting, all, waits⟩ := h.rest
  refine ⟨?_, ?_, waiting, ?_, waits.trans printers.symm⟩
  · rw [printed, h.printed, List.map_append]
    rfl
  · exact List.forall_mem_append.mpr ⟨h.own, List.forall_mem_singleton.mpr own⟩
  · rw [List.map_append, List.append_assoc]
    refine (all.append_right _).trans ?_
    rw [List.append_assoc]
    exact List.perm_append_comm.append_left _

/-- A job is started that waits for the outcome of a line. -/
theorem started (h : Tallies owns asked answered c) (printed : c'.report.printed = c.report.printed)
    (printers : c'.printers.Perm (c.printers ++ [(line.echo, request)])) :
    Tallies owns (asked ++ [⟨line, .ok request⟩]) answered c' := by
  obtain ⟨waiting, all, waits⟩ := h.rest
  refine ⟨printed.trans h.printed, h.own, waiting ++ [(line, request)], ?_, ?_⟩
  · rw [List.map_append, ← List.append_assoc]
    exact all.append_right _
  · rw [List.map_append]
    exact (waits.append_right _).trans printers.symm

/-- A job prints the outcome that it has waited for. -/
theorem finished {echo : Json} {outcome : Outcome} (h : Tallies owns asked answered c)
    (printed : c'.report.printed = c.report.printed ++ [replyJson echo outcome])
    (printers : c.printers.Perm ((echo, request) :: c'.printers))
    (own : ∀ line : RequestLine, line.echo = echo → owns ⟨line, .ok request⟩ outcome) :
    ∃ line, Tallies owns asked (answered ++ [(⟨line, .ok request⟩, outcome)]) c' := by
  obtain ⟨waiting, all, waits⟩ := h.rest
  have waited := waits.trans printers
  obtain ⟨⟨line, other⟩, member, same⟩ :=
    List.mem_map.mp (waited.mem_iff.mpr List.mem_cons_self)
  cases same
  obtain ⟨first, last, rfl⟩ := List.append_of_mem member
  refine ⟨line, ?_, ?_, first ++ last, ?_, ?_⟩
  · rw [printed, h.printed, List.map_append]
    rfl
  · exact List.forall_mem_append.mpr ⟨h.own, List.forall_mem_singleton.mpr (own line rfl)⟩
  · refine all.trans ?_
    simp only [List.map_append, List.append_assoc]
    exact List.perm_middle.append_left _
  · refine List.Perm.cons_inv (List.Perm.trans ?_ waited)
    rw [List.map_append, List.map_append]
    exact List.perm_middle.symm

end Tallies

/-! ## Events -/

namespace World

open Client

variable {settings : Settings} {medium : Medium} {w : World} {event : Event} {job : Job}
  {owns : Asked → Outcome → Prop} {asked : List Asked} {answered : List (Asked × Outcome)}

/-- The input line that a loop takes at an event. -/
def takesLine (w : World) (event : Event) : List Bytes :=
  match w.acting? event with
  | some job =>
    match job.activity with
    | .forward .reading _ => if w.hasRoom event then w.client.console.next.content?.toList else []
    | _ => []
  | none => []

/-- The line that asks for a request at an event, with what becomes of sending it. -/
def lineAsked (w : World) (event : Event) : List Asked :=
  (w.takesLine event).filterMap fun content =>
    (requestLine? content).map fun line =>
      ⟨line, (w.client.request none line.method line.params).2⟩

/-- The loop that ends at an event before its input does: it is interrupted, has lost the
session, or cannot read on. -/
def breaksOff (w : World) (event : Event) : List JobId :=
  match w.acting? event with
  | some job =>
    match job.activity with
    | .forward .reading _ =>
      if ((w.perform event).client.job? job.id).isNone then [job.id] else []
    | _ => []
  | none => []

theorem takesLine_of_other
    (other : ∀ job, w.acting? event = some job →
      ∀ waiting, job.activity ≠ .forward .reading waiting) :
    w.takesLine event = [] := by
  unfold takesLine
  split
  · next job acts =>
    split
    · next waiting activity => exact absurd activity (other job acts waiting)
    · rfl
  · rfl

theorem lineAsked_of_nothing (nothing : w.takesLine event = []) : w.lineAsked event = [] := by
  unfold lineAsked
  rw [nothing]
  rfl

/-- The job that acts as it is found, whether it heeds that it was cancelled or not. -/
theorem exists_of_acting (acts : w.acting? event = some job) :
    ∃ found ∈ w.client.jobs, found.id = job.id ∧ found.activity = job.activity ∧
      (job.isCancelled = true → found.isCancelled = true) := by
  cases event with
  | turn id heeds =>
    obtain ⟨turning, -⟩ := Option.filter_eq_some_iff.mp acts
    obtain ⟨found, finds, rfl⟩ := Option.map_eq_some_iff.mp turning
    exact ⟨found, List.mem_of_find?_eq_some finds, rfl, rfl, fun heeded =>
      (Bool.and_eq_true_iff.mp (Bool.and_eq_true_iff.mp heeded).1).1⟩
  | _ => cases acts

/-- Others ask for nothing, print nothing and leave those alone who wait. -/
theorem tallies_of_other (g : w.IsGuarded) (h : Tallies owns asked answered w.client)
    (tended : IsTended w.client.consoleJobs)
    (outside : ∀ job, w.acting? event = some job → job.activity.isOfConsole = false) :
    Tallies owns (asked ++ w.lineAsked event) answered (w.perform event).client ∧
      IsTended (w.perform event).client.consoleJobs := by
  have nothing : w.lineAsked event = [] :=
    lineAsked_of_nothing <| takesLine_of_other fun job acts waiting same => by
      have plain := outside job acts
      rw [same] at plain
      cases plain
  obtain ⟨loops, new, -, jobs⟩ := consoleJobs_perform g outside
  have printed : (w.perform event).client.report.printed = w.client.report.printed :=
    (touches_perform g.orderly event).printed fun id a own => by
      obtain ⟨job, acts, same⟩ := Option.map_eq_some_iff.mp own
      cases same
      exact outside job acts
  have printers : (w.perform event).client.printers = w.client.printers := by
    rw [printers_eq, printers_eq, jobs, List.filterMap_append]
    have silent : loops.filterMap (·.activity.printer?) = [] :=
      List.filterMap_eq_nil_iff.mpr fun job member => by rw [(new job member).1]; rfl
    rw [silent, List.append_nil]
  rw [nothing, List.append_nil, jobs]
  exact ⟨h.same printed (.of_eq printers), tended.append new⟩

theorem printers_leave (g : w.IsGuarded) {found : Job} (member : found ∈ w.client.consoleJobs) :
    w.client.printers.Perm ((found :: w.client.consoleJobs.filter (·.id != found.id)).filterMap
      (·.activity.printer?)) := by
  rw [printers_eq]
  exact (jobs_leave_perm g.apart member).filterMap _

theorem exists_console (acts : w.acting? event = some job)
    (console : job.activity.isOfConsole = true) :
    ∃ found ∈ w.client.consoleJobs, found.id = job.id ∧ found.activity = job.activity ∧
      (job.isCancelled = true → found.isCancelled = true) := by
  obtain ⟨found, member, id, activity, heeds⟩ := exists_of_acting acts
  refine ⟨found, mem_consoleJobs.mpr ⟨member, ?_⟩, id, activity, heeds⟩
  rw [activity]
  exact console

theorem lineAsked_of_acting (acts : w.acting? event = some job)
    (other : ∀ waiting, job.activity ≠ .forward .reading waiting) : w.lineAsked event = [] :=
  lineAsked_of_nothing <| takesLine_of_other fun found acts' => by
    rw [acts] at acts'
    cases acts'
    exact other

/-- Nobody cancels a loop. -/
theorem goesOn_of_forward (acts : w.acting? event = some job) {stage : ForwardStage}
    {waiting : List JobId} (activity : job.activity = .forward stage waiting) :
    job.isCancelled = false := by
  by_contra cancelled
  obtain ⟨-, -, -, may⟩ := acting?_eq_some acts
  have stopped := may (Bool.not_eq_false _ ▸ cancelled)
  rw [activity] at stopped
  cases stopped

theorem client_perform_of_forward (acts : w.acting? event = some job)
    (room : w.hasRoom event = true) {stage : ForwardStage} {waiting : List JobId}
    (activity : job.activity = .forward stage waiting) :
    (w.perform event).client = w.client.stepForward job.id waiting stage := by
  rw [perform_of_acting room acts]
  show w.client.step job = _
  unfold Client.step
  rw [goesOn_of_forward acts activity, activity]
  rfl

/-- A job goes on waiting for its outcome. -/
theorem tallies_of_waiting (g : w.IsGuarded) (h : Tallies owns asked answered w.client)
    (tended : IsTended w.client.consoleJobs) (acts : w.acting? event = some job)
    {request : PendingRequest} {echo : Json} {stage : AwaitStage}
    (activity : job.activity = .await request (.printer echo) stage) (later : AwaitStage) :
    let next := w.client.become job.id (.await request (.printer echo) later)
    Tallies owns asked answered next ∧ IsTended next.consoleJobs := by
  obtain ⟨own, member, sameId, sameActivity, -⟩ :=
    exists_console acts (by rw [activity]; rfl)
  -- the job is the only one of its id
  have same : ∀ other ∈ w.client.consoleJobs, other.id = job.id →
      other.activity = .await request (.printer echo) stage := fun other hother ids => by
    rw [List.inj_on_of_nodup_map g.apart hother member (ids.trans sameId.symm), sameActivity,
      activity]
  have kind : ∀ other ∈ w.client.jobs, other.id = job.id →
      other.activity.isOfConsole = true := fun other hother ids => by
    have guarded := g.actor event
    unfold actor? at guarded
    rw [acts] at guarded
    rw [guarded.kind _ _ rfl other hother ids, activity]
    rfl
  have prints : ∀ other ∈ w.client.consoleJobs, other.id = job.id →
      other.activity.printer? = (Activity.await request (.printer echo) later).printer? :=
    fun other hother ids => by rw [same other hother ids]; rfl
  have jobs := consoleJobs_become (b := .await request (.printer echo) later) rfl kind
  dsimp only
  rw [jobs]
  refine ⟨h.same rfl (.of_eq ?_), tended.waits rfl prints⟩
  rw [printers_eq, printers_eq, jobs, printers_goesOn prints]

/-- A job looks for its outcome, and prints it and ends if it finds one. -/
theorem tallies_of_printer (g : w.IsGuarded) (h : Tallies owns asked answered w.client)
    (tended : IsTended w.client.consoleJobs) (acts : w.acting? event = some job)
    (room : w.hasRoom event = true) {request : PendingRequest} {echo : Json}
    {stage : AwaitStage} (activity : job.activity = .await request (.printer echo) stage)
    (found : ∀ line : RequestLine, ∀ outcome, line.echo = echo →
      w.client.found? request stage = some outcome →
      (w.perform event).client.report.printed =
        w.client.report.printed ++ [replyJson echo outcome] →
      owns ⟨line, .ok request⟩ outcome) :
    ∃ answered', Tallies owns (asked ++ w.lineAsked event) answered' (w.perform event).client ∧
      IsTended (w.perform event).client.consoleJobs := by
  obtain ⟨own, member, sameId, sameActivity, heeds⟩ :=
    exists_console acts (by rw [activity]; rfl)
  have prints : own.activity.printer? = some (echo, request) := by
    rw [sameActivity, activity]
    rfl
  have goesOn : job.isCancelled = false := by
    by_contra cancelled
    have stopped := heeds (Bool.not_eq_false _ ▸ cancelled)
    rw [(tended own member _ prints).1] at stopped
    cases stopped
  have step : (w.perform event).client =
      w.client.stepAwait job.id request (.printer echo) stage := by
    rw [perform_of_acting room acts]
    show w.client.step job = _
    unfold Client.step
    rw [goesOn, activity]
    rfl
  rw [lineAsked_of_acting acts (by rw [activity]; exact nofun), List.append_nil]
  cases finds : w.client.found? request stage with
  | none =>
    rw [step, (stepAwait_of_nothing finds _ _).2]
    split
    · exact ⟨answered, h, tended⟩
    · exact ⟨answered, tallies_of_waiting g h tended acts activity .late⟩
  | some outcome =>
    have timer : w.client.IsPlain request.timer :=
      g.awaited own (mem_consoleJobs.mp member).1 request (by rw [sameActivity, activity]; rfl)
    obtain ⟨printed, jobs⟩ := stepAwait_of_found finds g.reader timer
    rw [← step] at printed jobs
    rw [jobs, ← sameId]
    have left := printers_leave g member
    rw [List.filterMap_cons, prints, sameId, ← jobs, ← printers_eq] at left
    obtain ⟨line, tallies⟩ := h.finished printed left fun line same =>
      found line outcome same finds printed
    exact ⟨_, tallies, tended.printed g.apart member prints⟩

/-- A loop that has found the end of its input ends when it waits for nobody any more. -/
theorem tallies_of_finishing (g : w.IsGuarded) (h : Tallies owns asked answered w.client)
    (tended : IsTended w.client.consoleJobs) (acts : w.acting? event = some job)
    (room : w.hasRoom event = true) {waiting : List JobId}
    (activity : job.activity = .forward .finishing waiting) :
    Tallies owns (asked ++ w.lineAsked event) answered (w.perform event).client ∧
      IsTended (w.perform event).client.consoleJobs := by
  obtain ⟨own, member, sameId, sameActivity, -⟩ := exists_console acts (by rw [activity]; rfl)
  have done : ∀ other ∈ w.client.jobs, other.id ∉ waiting := by
    obtain ⟨-, -, ready, -⟩ := acting?_eq_some acts
    unfold Client.isReady at ready
    rw [goesOn_of_forward acts activity, activity] at ready
    intro other hother among
    have gone := List.all_eq_true.mp ready other.id among
    rw [job?_eq_some g.orderly hother] at gone
    cases gone
  have step : (w.perform event).client = w.client.endForward job.id waiting (.ok ()) :=
    client_perform_of_forward acts room activity
  obtain ⟨printed, jobs⟩ := endForward_of_gone done g.reader
  rw [← step] at printed jobs
  have left := printers_leave g member
  have silent : own.activity.printer? = none := by
    rw [sameActivity, activity]
    rfl
  rw [List.filterMap_cons, silent, sameId, ← jobs, ← printers_eq] at left
  rw [lineAsked_of_acting acts (by rw [activity]; exact nofun), List.append_nil, jobs, ← sameId]
  exact ⟨h.same printed left.symm, tended.ended g.apart member (sameActivity.trans activity)
    fun other hother => done other (mem_consoleJobs.mp hother).1⟩

/-- What a loop does to itself and by those that it starts. -/
theorem goesOn_of_touches (g : w.IsGuarded) (tended : IsTended w.client.consoleJobs)
    (acts : w.acting? event = some job) {waiting : List JobId}
    (activity : job.activity = .forward .reading waiting) (stage : ForwardStage)
    (started : List Job) {waiting' : List JobId} (more : waiting ⊆ waiting') {c : Client}
    (touches : Touches (· ∈ w.requests) (some (job.id, job.activity)) w.client c)
    (jobs : c.consoleJobs = w.client.consoleJobs ++ started)
    (uncancelled : ∀ new ∈ started, new.isCancelled = false)
    (among : ∀ new ∈ started, new.id ∈ waiting') :
    (c.become job.id (.forward stage waiting')).printers =
        w.client.printers ++ started.filterMap (·.activity.printer?) ∧
      IsTended (c.become job.id (.forward stage waiting')).consoleJobs := by
  obtain ⟨own, member, sameId, sameActivity, -⟩ := exists_console acts (by rw [activity]; rfl)
  have loop := sameActivity.trans activity
  have guarded : w.client.Guarded (· ∈ w.requests) (some (job.id, job.activity)) := by
    have actor := g.actor event
    unfold actor? at actor
    rwa [acts] at actor
  have kept := touches.guarded guarded
  have kind : ∀ other ∈ c.jobs, other.id = job.id → other.activity.isOfConsole = true := by
    intro other hother same
    rw [kept.kind _ _ rfl other hother same, activity]
    rfl
  have apart := kept.apart
  rw [jobs] at apart
  rw [printers_eq, consoleJobs_become rfl kind, jobs, printers_eq, ← List.filterMap_append]
  refine ⟨printers_goesOn fun other hother same => ?_, ?_⟩
  · have ours := List.inj_on_of_nodup_map apart hother (List.mem_append_left _ member)
      (same.trans sameId.symm)
    rw [ours, loop]
    rfl
  · rw [← sameId]
    exact tended.goesOn g.apart member loop more uncancelled among

/-- A loop reads on, unless it is broken off. -/
theorem tallies_of_reading (g : w.IsGuarded) (h : Tallies owns asked answered w.client)
    (tended : IsTended w.client.consoleJobs) (acts : w.acting? event = some job)
    (room : w.hasRoom event = true) {waiting : List JobId}
    (activity : job.activity = .forward .reading waiting) (unbroken : w.breaksOff event = [])
    (refused : ∀ line e, owns ⟨line, .error e⟩ (.error e)) :
    ∃ answered', Tallies owns (asked ++ w.lineAsked event) answered' (w.perform event).client ∧
      IsTended (w.perform event).client.consoleJobs := by
  have taken : w.takesLine event = w.client.console.next.content?.toList := by
    unfold takesLine
    rw [acts]
    dsimp only
    rw [activity]
    exact if_pos room
  have goesOn (stage : ForwardStage) := goesOn_of_touches g tended acts activity stage
  -- a loop that starts nothing goes on with those that it waits for
  have alone (stage : ForwardStage) {c : Client}
      (touches : Touches (· ∈ w.requests) (some (job.id, job.activity)) w.client c)
      (jobs : c.consoleJobs = w.client.consoleJobs) {waiting' : List JobId}
      (same : waiting' = waiting) :
      (c.become job.id (.forward stage waiting')).printers = w.client.printers ∧
        IsTended (c.become job.id (.forward stage waiting')).consoleJobs := by
    rw [same]
    obtain ⟨printers, tends⟩ := goesOn stage [] (List.Subset.refl waiting) touches
      (jobs.trans (List.append_nil _).symm) (List.forall_mem_nil _) (List.forall_mem_nil _)
    exact ⟨printers.trans (List.append_nil _), tends⟩
  have reads := reads_stepForward w.client job.id waiting
  rw [← client_perform_of_forward acts room activity] at reads
  generalize after : (w.perform event).client = c' at reads ⊢
  unfold lineAsked
  rw [taken]
  cases reads with
  | breaksOff gone =>
    unfold breaksOff at unbroken
    rw [acts] at unbroken
    dsimp only at unbroken
    rw [activity] at unbroken
    dsimp only at unbroken
    rw [after, gone] at unbroken
    cases unbroken
  | idles nothing =>
    rw [nothing]
    exact ⟨answered, by rwa [Console.Line.content?, Option.toList_none, List.filterMap_nil,
      List.append_nil], tended⟩
  | ends ended =>
    obtain ⟨printers, tends⟩ := alone .finishing .refl rfl rfl
    rw [ended]
    refine ⟨answered, ?_, tends⟩
    rw [Console.Line.content?, Option.toList_none, List.filterMap_nil, List.append_nil]
    exact h.same rfl (.of_eq printers)
  | @takes content rest line offered decoded =>
    have touches : Touches (· ∈ w.requests) (some (job.id, job.activity)) w.client
        ((w.client.afterLine rest).takeLine line).1 := by
      have first : Touches (· ∈ w.requests) (some (job.id, job.activity)) w.client
          (w.client.afterLine rest) :=
        .single (.console _ (.inr ⟨job.id, .reading, waiting, by rw [activity]⟩))
      exact first.trans (touches_takeLine (c := w.client.afterLine rest) g.orderly rfl
        (by rw [activity]; rfl) line)
    have takes := takes_takeLine (c := w.client) decoded rest
    have one (f : Bytes → Option Asked) : [content].filterMap f = (f content).toList := by
      rw [List.filterMap_cons]
      cases f content <;> rfl
    rw [offered, Console.Line.content?, Option.toList_some, one]
    generalize (w.client.afterLine rest).takeLine line = result at takes touches ⊢
    cases takes with
    | other asks printed jobs =>
      obtain ⟨printers, tends⟩ := alone .reading touches jobs (List.append_nil waiting)
      rw [asks]
      refine ⟨answered, ?_, tends⟩
      rw [Option.map_none, Option.toList_none, List.append_nil]
      exact h.same printed (.of_eq printers)
    | refused asks sent printed jobs =>
      obtain ⟨printers, tends⟩ := alone .reading touches jobs (List.append_nil waiting)
      rw [asks, Option.map_some, Option.toList_some, sent]
      exact ⟨_, h.refused printed (.of_eq printers) (refused _ _), tends⟩
    | started asks sent printed jobs =>
      obtain ⟨printers, tends⟩ := goesOn .reading _ (List.subset_append_left waiting _) touches
        jobs (List.forall_mem_singleton.mpr rfl)
        (List.forall_mem_singleton.mpr (List.mem_append_right _ List.mem_cons_self))
      rw [asks, Option.map_some, Option.toList_some, sent]
      exact ⟨_, h.started printed (.of_eq printers), tends⟩

theorem takesLine_of_no_room (full : w.hasRoom event = false) : w.takesLine event = [] := by
  unfold takesLine
  split
  · split
    · rw [full]
      rfl
    · rfl
  · rfl

/-- Whatever happens, the account goes on, unless a loop is broken off. -/
theorem tallies_perform (g : w.IsGuarded) (h : Tallies owns asked answered w.client)
    (tended : IsTended w.client.consoleJobs) (unbroken : w.breaksOff event = [])
    (refused : ∀ line e, owns ⟨line, .error e⟩ (.error e))
    (found : ∀ (line : RequestLine) job request stage outcome, w.acting? event = some job →
      job.activity = .await request (.printer line.echo) stage →
      w.client.found? request stage = some outcome →
      (w.perform event).client.report.printed =
        w.client.report.printed ++ [replyJson line.echo outcome] →
      owns ⟨line, .ok request⟩ outcome) :
    ∃ answered', Tallies owns (asked ++ w.lineAsked event) answered' (w.perform event).client ∧
      IsTended (w.perform event).client.consoleJobs := by
  cases acts : w.acting? event with
  | none =>
    refine ⟨answered, tallies_of_other g h tended fun job acts' => ?_⟩
    rw [acts] at acts'
    cases acts'
  | some job =>
    cases room : w.hasRoom event with
    | false =>
      rw [lineAsked_of_nothing (takesLine_of_no_room room), List.append_nil,
        perform_of_no_room room]
      exact ⟨answered, h, tended⟩
    | true =>
      have other (outside : job.activity.isOfConsole = false) :=
        tallies_of_other g h tended fun job' acts' => by
          rw [acts] at acts'
          cases acts'
          exact outside
      cases activity : job.activity with
      | forward stage waiting =>
        cases stage with
        | reading => exact tallies_of_reading g h tended acts room activity unbroken refused
        | finishing => exact ⟨answered, tallies_of_finishing g h tended acts room activity⟩
      | await request receiver stage =>
        cases receiver with
        | printer echo =>
          refine tallies_of_printer g h tended acts room activity fun line outcome same finds
            printed => found line job request stage outcome acts ?_ finds ?_
          · rw [same]
            exact activity
          · rw [same]
            exact printed
        | _ => exact ⟨answered, other (by rw [activity]; rfl)⟩
      | _ => exact ⟨answered, other (by rw [activity]; rfl)⟩

/-! ## The order of the lines -/

/-- Whether nobody types. -/
def isUntyped : Event → Bool
  | .type _ => false
  | _ => true

/-- As long as nobody types, what a loop takes is the first of the lines that are there. -/
theorem takesLine_perform (o : w.client.outline.Orderly) (untyped : isUntyped event = true) :
    w.takesLine event ++ Console.lines (w.perform event).client.console.input =
      Console.lines w.client.console.input := by
  have nothing (none : w.takesLine event = [])
      (same : (w.perform event).client.console = w.client.console) :
      w.takesLine event ++ Console.lines (w.perform event).client.console.input =
        Console.lines w.client.console.input := by
    rw [none, same]
    rfl
  cases acts : w.acting? event with
  | none =>
    refine nothing (takesLine_of_other fun job acts' => ?_) ?_
    · rw [acts] at acts'
      cases acts'
    · cases room : w.hasRoom event with
      | false => rw [perform_of_no_room room]
      | true =>
        rw [perform_of_room room]
        cases event with
        | turn id heeds => rw [occur_of_acting, acts]
        | type => cases untyped
        | _ =>
          exact (occur_of_user fun _ _ turn => by cases turn).console fun _ type => by cases type
  | some job =>
    by_cases reads : ∃ waiting, job.activity = .forward .reading waiting
    · obtain ⟨waiting, activity⟩ := reads
      have taken : w.takesLine event =
          if w.hasRoom event then w.client.console.next.content?.toList else [] := by
        unfold takesLine
        rw [acts]
        dsimp only
        rw [activity]
      cases room : w.hasRoom event with
      | false =>
        rw [room] at taken
        refine nothing taken ?_
        rw [perform_of_no_room room]
      | true =>
        rw [taken, room, client_perform_of_forward acts room activity]
        exact w.client.lines_stepForward job.id waiting
    · refine nothing (takesLine_of_other fun other acts' waiting same => reads ?_) ?_
      · rw [acts] at acts'
        cases acts'
        exact ⟨waiting, same⟩
      · cases room : w.hasRoom event with
        | false => rw [perform_of_no_room room]
        | true =>
          by_cases finishes : ∃ waiting, job.activity = .forward .finishing waiting
          · obtain ⟨waiting, activity⟩ := finishes
            rw [client_perform_of_forward acts room activity]
            exact console_endForward ..
          · have touches := touches_perform o event
            unfold actor? at touches
            rw [acts] at touches
            refine touches.console fun stage waiting same => ?_
            cases stage with
            | reading => exact reads ⟨waiting, same⟩
            | finishing => exact finishes ⟨waiting, same⟩

theorem gathered_takesLine (reached : Outline.Reachable settings medium w.client.outline)
    {segment : List Event} (untyped : ∀ event ∈ segment, isUntyped event = true) :
    gathered takesLine w segment ++
        Console.lines (w.performAll segment).client.console.input =
      Console.lines w.client.console.input := by
  induction segment generalizing w with
  | nil => rfl
  | cons event rest ih =>
    obtain ⟨now, later⟩ := List.forall_mem_cons.mp untyped
    show (_ ++ gathered _ _ _) ++
      Console.lines ((w.perform event).performAll rest).client.console.input = _
    rw [List.append_assoc, ih (Outline.reachable_perform reached event) later]
    exact takesLine_perform reached.orderly now

/-- A loop has taken all lines before it goes over to waiting. -/
theorem lines_of_finishing (o : w.client.outline.Orderly) (acts : w.acting? event = some job)
    {waiting waiting' : List JobId} (activity : job.activity = .forward .reading waiting)
    (after : (job.id, .forward .finishing waiting') ∈ (w.perform event).client.outline.jobs) :
    Console.lines w.client.console.input = [] := by
  obtain ⟨-, live, -, -⟩ := acting?_eq_some acts
  rw [activity] at live
  cases room : w.hasRoom event with
  | false =>
    rw [perform_of_no_room room] at after
    cases o.unique live after
  | true =>
    rw [client_perform_of_forward acts room activity] at after
    have reads := reads_stepForward w.client job.id waiting
    generalize w.client.stepForward job.id waiting .reading = c' at reads after
    cases reads with
    | breaksOff gone =>
      obtain ⟨other, member, same, -⟩ := exists_job after
      exact absurd (decide_eq_true same) (List.find?_eq_none.mp gone other member)
    | idles => cases o.unique live after
    | ends ended => exact Console.lines_of_ended ended
    | takes =>
      rw [outline_become] at after
      rcases Outline.mem_put.mp after with ⟨-, other⟩ | ⟨same, -⟩
      · exact absurd rfl other
      · cases same

/-! ## Runs -/

/-- The lines that loops have taken. -/
def linesTaken (settings : Settings) (medium : Medium) (events : List Event) : List Bytes :=
  gathered takesLine { client := Client.create settings medium } events

/-- Those among them that have asked for requests. -/
def linesAsked (settings : Settings) (medium : Medium) (events : List Event) : List Asked :=
  gathered lineAsked { client := Client.create settings medium } events

theorem map_line_linesAsked (settings : Settings) (medium : Medium) (events : List Event) :
    (linesAsked settings medium events).map Asked.line =
      (linesTaken settings medium events).filterMap requestLine? := by
  have now (w : World) (event : Event) :
      (w.lineAsked event).map Asked.line = (w.takesLine event).filterMap requestLine? := by
    unfold lineAsked
    rw [List.map_filterMap]
    refine List.filterMap_congr fun content _ => ?_
    rw [Option.map_map]
    exact Option.map_id'
  unfold linesAsked linesTaken
  generalize ({ client := Client.create settings medium } : World) = w
  induction events generalizing w with
  | nil => rfl
  | cons event rest ih =>
    show (_ ++ gathered _ _ rest).map _ = (_ ++ gathered _ _ rest).filterMap _
    rw [List.map_append, List.filterMap_append, now, ih]

/-- The loops that have ended before their input did. -/
def brokenOff (settings : Settings) (medium : Medium) (events : List Event) : List JobId :=
  gathered breaksOff { client := Client.create settings medium } events

end World

/-- Whether this is what has been printed for a line: the error of a request that was refused,
or else the outcome that the job which waits for the request has found when it printed it. It
gives up only after the deadline. -/
def Asked.ComesTo (settings : Settings) (medium : Medium) (events : List Event) (a : Asked)
    (outcome : Outcome) : Prop :=
  match a.sent with
  | .error e => outcome = .error e
  | .ok request => ∃ before event after job stage, events = before ++ event :: after ∧
      (World.run settings medium before).acting? event = some job ∧
      job.activity = .await request (.printer a.line.echo) stage ∧
      (World.run settings medium before).client.found? request stage = some outcome ∧
      (stage = .late → request.deadline ≤ (World.run settings medium before).client.clock) ∧
      (World.run settings medium (before ++ [event])).client.report.printed =
        (World.run settings medium before).client.report.printed ++
          [replyJson a.line.echo outcome]

namespace World

open Client

variable {settings : Settings} {medium : Medium} {events : List Event}

theorem comesTo_append {a : Asked} {outcome : Outcome}
    (h : a.ComesTo settings medium events outcome) (more : List Event) :
    a.ComesTo settings medium (events ++ more) outcome := by
  unfold Asked.ComesTo at h ⊢
  split at h
  · exact h
  · obtain ⟨before, event, after, job, stage, split, rest⟩ := h
    refine ⟨before, event, after ++ more, job, stage, ?_, rest⟩
    rw [split, List.append_assoc, List.cons_append]

/-- As long as no loop is broken off, every line is accounted for. -/
theorem tallies_run (unbroken : brokenOff settings medium events = []) :
    ∃ answered, Tallies (Asked.ComesTo settings medium events) (linesAsked settings medium events)
        answered (run settings medium events).client ∧
      IsTended (run settings medium events).client.consoleJobs := by
  induction events using List.reverseRecOn with
  | nil => exact ⟨[], ⟨rfl, List.forall_mem_nil _, [], .refl _, .refl _⟩, List.forall_mem_nil _⟩
  | append_singleton events event ih =>
    have broken : brokenOff settings medium (events ++ [event]) =
        brokenOff settings medium events ++ (run settings medium events).breaksOff event :=
      gathered_concat ..
    rw [broken, List.append_eq_nil_iff] at unbroken
    obtain ⟨answered, tallies, tended⟩ := ih unbroken.1
    have g := isGuarded_run settings medium events
    have tallies := tallies.mono fun a outcome comes => comesTo_append comes [event]
    have asked : linesAsked settings medium (events ++ [event]) =
        linesAsked settings medium events ++ (run settings medium events).lineAsked event :=
      gathered_concat ..
    rw [asked, run_concat]
    refine tallies_perform g tallies tended unbroken.2 (fun line e => rfl)
      fun line job request stage outcome acts activity finds printed =>
        ⟨events, event, [], job, stage, rfl, acts, activity, finds, ?_, ?_⟩
    · rintro rfl
      exact deadline_of_late (isPatient_run settings medium events) acts activity
    · rw [run_concat]
      exact printed

/-- What holds after any events, if the loops that were started have all come to the ends of
their input. -/
structure AnswersLines (settings : Settings) (medium : Medium) (events : List Event)
    (answered : List (Asked × Outcome)) : Prop where
  /-- The requests that are asked for are those of the lines taken, in that order. -/
  asked : (linesAsked settings medium events).map Asked.line =
    (linesTaken settings medium events).filterMap requestLine?
  /-- Every line that asks for a request is answered, and just once. -/
  each : (answered.map Prod.fst).Perm (linesAsked settings medium events)
  /-- Nothing else is printed. -/
  printed : (run settings medium events).client.report.printed =
    answered.map fun a => replyJson a.1.line.echo a.2
  isReply : ∀ a ∈ answered, IsReply (replyJson a.1.line.echo a.2) a.1.line.echo a.2
  /-- The outcome is that of the line's own request. -/
  own : ∀ a ∈ answered, a.1.ComesTo settings medium events a.2
  /-- As long as nobody types, the lines taken are the first that are there, each once. -/
  inOrder : ∀ before segment, events = before ++ segment →
    (∀ event ∈ segment, isUntyped event = true) →
    gathered takesLine (run settings medium before) segment ++
        Console.lines (run settings medium events).client.console.input =
      Console.lines (run settings medium before).client.console.input
  /-- When a loop has found the end of its input, no line is left. -/
  toTheEnd : ∀ before event after job waiting waiting', events = before ++ event :: after →
    (run settings medium before).acting? event = some job →
    job.activity = .forward .reading waiting →
    (job.id, .forward .finishing waiting') ∈
      (run settings medium (before ++ [event])).client.outline.jobs →
    Console.lines (run settings medium before).client.console.input = []

/-- **Every request line has one answer.** In every run in which no loop is broken off and every
loop has come to its end, whatever the server and the connections do, what has been printed
are the answers to the lines that ask for requests, each with its own id and its own outcome;
no other line prints anything. -/
theorem answers_lines (unbroken : brokenOff settings medium events = [])
    (ended : (run settings medium events).client.consoleIsRead = false) :
    ∃ answered, AnswersLines settings medium events answered := by
  obtain ⟨answered, tallies, tended⟩ := tallies_run unbroken
  have nobody : (run settings medium events).client.printers = [] := by
    rw [printers_eq]
    refine List.filterMap_eq_nil_iff.mpr fun job member => ?_
    cases prints : job.activity.printer? with
    | none => rfl
    | some answer =>
      -- who waits has a loop that waits for it, and there is none
      obtain ⟨-, loop, hloop, stage, waiting, activity, -⟩ := tended job member answer prints
      have reads : (run settings medium events).client.consoleIsRead = true :=
        List.any_eq_true.mpr ⟨loop, (mem_consoleJobs.mp hloop).1, by rw [activity]⟩
      rw [ended] at reads
      cases reads
  obtain ⟨waiting, all, waits⟩ := tallies.rest
  rw [nobody, List.perm_nil, List.map_eq_nil_iff] at waits
  rw [waits, List.map_nil, List.append_nil] at all
  refine ⟨answered, map_line_linesAsked .., all.symm, tallies.printed,
    fun a _ => isReply_replyJson .., tallies.own, ?_, ?_⟩
  · rintro before segment rfl untyped
    rw [run_append]
    exact gathered_takesLine (Outline.reachable_run settings medium before) untyped
  · rintro before event after job waiting waiting' - acts activity live
    rw [run_concat] at live
    exact lines_of_finishing (Outline.reachable_run settings medium before).orderly acts activity
      live

/-- A user connects and starts the command line, and types one line; the server answers. -/
def exchange : List Event :=
  firstConnection ++
    [.forward,
      .type { input := Utf8.ofString "\x7b\"id\":7,\"method\":\"m\"\x7d\n", hasEnded := true },
      .turn 3 false, .turn 3 false,
      .serve ((run {} .messages firstConnection).client.loopback.modifyPeer 0
        (·.send (Utf8.ofString "\x7b\"jsonrpc\":\"2.0\",\"id\":1,\"result\":null\x7d"))),
      .turn 1 false, .turn 5 false, .turn 3 false]

theorem line_answered_in_exchange :
    (run {} .messages exchange).client.report.printed.map Json.text =
        ["\x7b\"id\":7,\"result\":null\x7d".toList] ∧
      ∃ answered, AnswersLines {} .messages exchange answered :=
  ⟨by decide +kernel, answers_lines (by decide +kernel) (by decide +kernel)⟩

end World

end LspClient
