import Mathlib.Data.List.Perm.Subperm
import LspClient.Proofs.Client.Printed

/-!
# What jobs carry

A timer carries the ticket of its call, whoever waits for a call carries the request, and a
shutdown carries that there is one. `Activity.IsBurden` is any such thing: it stays with a job
from one point to the next. Jobs that do the client's own work carry none of it, and all that
they start or become carries none of it either, but for those that send requests. So nothing
is carried twice, and what is carried anew has a cause in the event that brings it
(`World.carried_perform`).
-/

namespace LspClient

/-- Whether a job does work for others or for the connection. -/
def Activity.isWork : Activity → Bool
  | .expire .. | .await .. | .shutDown _ => false
  | _ => true

/-- Something that stays with a job from one point to the next, and that no job carries which
does work. -/
structure Activity.IsBurden {β : Type} (f : Activity → Option β) : Prop where
  work : ∀ a, a.isWork = true → f a = none
  shutDown : ∀ stage later, f (.shutDown stage) = f (.shutDown later)
  await : ∀ request receiver stage other later,
    f (.await request receiver stage) = f (.await request other later)

namespace Client

variable {β : Type} {f : Activity → Option β} {c d : Client} {id : JobId} {a b : Activity}

/-- What the jobs carry. -/
def carried (c : Client) (f : Activity → Option β) : List β :=
  c.jobs.filterMap fun job => f job.activity

/-- What the jobs carry but for this one. -/
def carriedByOthers (c : Client) (f : Activity → Option β) (id : JobId) : List β :=
  (c.jobs.filter (·.id != id)).filterMap fun job => f job.activity

/-! ## Jobs -/

theorem mem_carried {x : β} (live : (id, a) ∈ c.outline.jobs) (carries : f a = some x) :
    x ∈ c.carried f := by
  obtain ⟨job, member, -, rfl⟩ := exists_job live
  exact List.mem_filterMap.mpr ⟨job, member, carries⟩

theorem sublist_carried (c : Client) (f : Activity → Option β) (id : JobId) :
    (c.carriedByOthers f id).Sublist (c.carried f) := List.filter_sublist.filterMap _

theorem carried_spawn (c : Client) (a : Activity) :
    (c.spawn a).carried f = c.carried f ++ (f a).toList := by
  unfold carried spawn
  rw [List.filterMap_append]
  cases carries : f a <;> simp [carries]

/-- A job that comes to carry nothing leaves what the others carry. -/
theorem carried_become (free : f b = none) (c : Client) (id : JobId) :
    (c.become id b).carried f = c.carriedByOthers f id := by
  unfold carried carriedByOthers become
  rw [List.filterMap_map, List.filterMap_filter]
  refine List.filterMap_congr fun job _ => ?_
  by_cases same : job.id = id <;> simp [same, free]

theorem carried_become_of_same (same : ∀ job ∈ c.jobs, job.id = id → f job.activity = f b) :
    (c.become id b).carried f = c.carried f := by
  unfold carried become
  rw [List.filterMap_map]
  refine List.filterMap_congr fun job member => ?_
  by_cases own : job.id = id
  · simp [own, same job member own]
  · simp [own]

@[simp] theorem carried_cancelJob (c : Client) (id : JobId) :
    (c.cancelJob id).carried f = c.carried f := by
  unfold carried cancelJob
  rw [List.filterMap_map]
  refine List.filterMap_congr fun job _ => ?_
  dsimp only [Function.comp_apply]
  split <;> rfl

@[simp] theorem carried_cancelReader (c : Client) :
    c.cancelReader.carried f = c.carried f := by
  unfold cancelReader
  split
  · exact carried_cancelJob ..
  · rfl

@[simp] theorem carried_cancelJobs (c : Client) (ids : List JobId) :
    (c.cancelJobs ids).carried f = c.carried f := by
  unfold cancelJobs
  induction ids generalizing c with
  | nil => rfl
  | cons id rest ih => exact (ih _).trans (carried_cancelJob ..)

@[simp] theorem carried_reap (c : Client) : c.reap.carried f = c.carried f := by
  unfold reap
  split
  · rfl
  · exact carried_cancelReader c

@[simp] theorem carried_finish (c : Client) (id : JobId) :
    (c.finish id).carried f = c.carriedByOthers f id := carried_reap _

@[simp] theorem carried_openGate (c : Client) : c.openGate.carried f = c.carried f := by
  unfold openGate
  split <;> rfl

theorem carriedByOthers_cancelJob (c : Client) (id cancelled : JobId) :
    (c.cancelJob cancelled).carriedByOthers f id = c.carriedByOthers f id := by
  unfold carriedByOthers cancelJob
  rw [List.filterMap_filter, List.filterMap_map, List.filterMap_filter]
  refine List.filterMap_congr fun job _ => ?_
  dsimp only [Function.comp_apply]
  split <;> rfl

/-- What a job carries and what the others carry is all that is carried. -/
theorem carried_perm (o : c.outline.Orderly) (live : (id, a) ∈ c.outline.jobs) :
    (c.carried f).Perm ((f a).toList ++ c.carriedByOthers f id) := by
  obtain ⟨job, member, rfl, rfl⟩ := exists_job live
  have apart : (c.jobs.map Job.id).Nodup := by
    have := o.apart
    rwa [show c.outline.jobs = c.jobs.map fun j => (j.id, j.activity) from rfl,
      List.map_map] at this
  have parts := (jobs_leave_perm apart member).filterMap fun job => f job.activity
  refine parts.trans (.of_eq ?_)
  unfold carriedByOthers
  cases carries : f job.activity <;> simp [carries]

/-- A job that goes on carries what its new point is about. -/
theorem carried_become_perm (o : c.outline.Orderly) (live : (id, a) ∈ c.outline.jobs)
    (b : Activity) :
    ((c.become id b).carried f).Perm ((f b).toList ++ c.carriedByOthers f id) := by
  have orderly : (c.become id b).outline.Orderly := by
    rw [outline_become]
    exact o.put id b
  have goesOn : (id, b) ∈ (c.become id b).outline.jobs := by
    rw [outline_become]
    exact Outline.mem_put.mpr (.inr ⟨rfl, a, live⟩)
  have others : (c.become id b).carriedByOthers f id = c.carriedByOthers f id := by
    unfold carriedByOthers become
    rw [List.filterMap_filter, List.filterMap_map, List.filterMap_filter]
    refine List.filterMap_congr fun job _ => ?_
    by_cases same : job.id = id <;> simp [same]
  rw [← others]
  exact carried_perm orderly goesOn

/-! ## Work takes nothing up -/

/-- Nothing is carried that was not carried before. -/
def Sheds (f : Activity → Option β) (c d : Client) : Prop :=
  (d.carried f).Sublist (c.carried f)

theorem sheds_of_same (same : d.carried f = c.carried f) : c.Sheds f d := by
  unfold Sheds
  rw [same]

theorem sheds_finish (h : c.Sheds f d) : c.Sheds f (d.finish id) := by
  unfold Sheds
  rw [carried_finish]
  exact (sublist_carried d f id).trans h

theorem sheds_endLoss {outbox? : Option Nat} (h : c.Sheds f d) :
    c.Sheds f (d.endLoss id outbox?) :=
  sheds_finish (d := { d with session := d.session.unman outbox? }) h

theorem carried_close? {closed : Client} {writer? : Option JobId}
    (h : c.close? = some (closed, writer?)) : closed.carried f = c.carried f := by
  obtain ⟨session, -, same⟩ := Option.map_eq_some_iff.mp h
  cases same
  exact carried_cancelReader c

theorem carried_stepExpire (c : Client) (id : JobId) (ticket : Ticket) :
    (c.stepExpire id ticket).carried f = c.carriedByOthers f id := by
  unfold stepExpire
  split
  · exact carried_finish ..
  · exact carried_finish ..

theorem sheds_endSearch {why : Search} {error? : Option SessionError} :
    c.Sheds f (c.endSearch id why error?) := by
  have opened := sheds_of_same (f := f) (carried_openGate c)
  unfold endSearch
  cases why with
  | first => exact sheds_finish (d := c.openGate.noteResult id _) opened
  | again => exact sheds_finish opened

theorem sheds_giveUpSearch : c.Sheds f (c.giveUpSearch id) := by
  unfold giveUpSearch
  split
  · exact sheds_finish (sheds_of_same (carried_openGate c))
  · exact sheds_finish (d := { c with gateQueue := c.gateQueue.filter (· != id) }) (.refl _)

theorem sheds_endForward {ended : List JobId} {result : Except ForwardError Unit} :
    c.Sheds f (c.endForward id ended result) := by
  have cancelled := sheds_of_same (f := f) (carried_cancelJobs c ended)
  exact sheds_finish (d := (c.cancelJobs ended).noteResult id _) cancelled

section

variable (burden : Activity.IsBurden f)

include burden

theorem sheds_become (h : c.Sheds f d) (work : b.isWork = true) : c.Sheds f (d.become id b) := by
  unfold Sheds
  rw [carried_become (burden.work b work)]
  exact (sublist_carried d f id).trans h

theorem sheds_spawn (h : c.Sheds f d) (work : a.isWork = true) : c.Sheds f (d.spawn a) := by
  unfold Sheds
  rw [carried_spawn, burden.work a work]
  exact (List.append_nil _).symm ▸ h

theorem sheds_stepLoss {generation : Nat} {outbox? : Option Nat} {stage : LossStage} :
    c.Sheds f (c.stepLoss id generation outbox? stage) := by
  unfold stepLoss
  cases stage with
  | reporting =>
    dsimp only
    split
    · exact sheds_endLoss (.refl _)
    · exact sheds_become burden (sheds_of_same (carried_cancelReader c)) rfl
  | deciding =>
    dsimp only
    split
    · exact sheds_become burden (d := c.log _) (.refl _) rfl
    · exact sheds_endLoss (sheds_spawn burden (d := c.log _) (.refl _) rfl)
  | closing =>
    dsimp only
    split
    · next closed _ done => exact sheds_become burden (sheds_of_same (carried_close? done)) rfl
    · exact sheds_endLoss (.refl _)
  | draining => exact sheds_endLoss (d := { c with session := c.session.drain }) (.refl _)

theorem sheds_stepRead {peer generation : Nat} :
    c.Sheds f (c.stepRead id peer generation) := by
  unfold stepRead
  split
  · exact sheds_finish (.refl _)
  · next p _ =>
    cases p.read c.loopback.medium with
    | mk p incoming =>
      dsimp only
      split
      · exact sheds_finish (d := (c.modifyPeer peer fun _ => p).modifyPeer peer Peer.unhear)
          (.refl _)
      · cases incoming with
        | nothing => exact .refl _
        | message body =>
          dsimp only
          split
          · exact sheds_spawn burden (.refl _) rfl
          · exact .refl _
        | broken e => exact sheds_become burden (.refl _) rfl
        | ended => exact sheds_become burden (.refl _) rfl

theorem sheds_stepWrite {peer generation outbox : Nat} {stage : WriteStage} :
    c.Sheds f (c.stepWrite id peer generation outbox stage) := by
  unfold stepWrite
  cases stage with
  | idle =>
    dsimp only
    split
    · exact sheds_finish (.refl _)
    · split
      · exact sheds_become burden (.refl _) rfl
      · exact sheds_become burden (.refl _) rfl
      · split
        · exact sheds_become burden (.refl _) rfl
        · exact .refl _
  | writing left =>
    dsimp only
    split
    · exact sheds_endLoss (.refl _)
    · split
      · exact sheds_become burden (.refl _) rfl
      · split
        · exact sheds_endLoss (d := c.log _) (.refl _)
        · exact sheds_become burden (d := c.log _) (.refl _) rfl
  | closing => exact sheds_endLoss (d := c.modifyPeer peer Peer.close) (.refl _)

theorem sheds_stepReply {request : Request} {stage : ReplyStage} :
    c.Sheds f (c.stepReply id request stage) := by
  unfold stepReply
  cases stage with
  | arriving =>
    dsimp only
    split
    · exact sheds_become burden (.refl _) rfl
    · exact sheds_finish (d := c.noteInvocation _) (.refl _)
    · exact sheds_become burden (.refl _) rfl
  | working until_ ending => exact sheds_become burden (d := c.log _) (.refl _) rfl
  | replying response =>
    dsimp only
    split
    · exact sheds_finish (.refl _)
    · split
      · next session _ => exact sheds_finish (d := { c with session }) (.refl _)
      · exact sheds_finish (.refl _)

theorem sheds_toAttempt {why : Search} {attempt : Nat} (h : c.Sheds f d) :
    c.Sheds f (d.toAttempt id why attempt) := by
  unfold toAttempt
  split
  · exact sheds_become burden h rfl
  · exact sheds_become burden h rfl

theorem sheds_failSearch {why : Search} {error : SessionError} (h : c.Sheds f d) :
    c.Sheds f (d.failSearch id why error) := by
  unfold failSearch
  split
  · exact sheds_become burden h rfl
  · exact sheds_become burden h rfl
  · exact sheds_become burden (d := d.log _) h rfl

theorem sheds_nextAttempt {why : Search} {made : Nat} {last : ConnectError}
    (h : c.Sheds f d) : c.Sheds f (d.nextAttempt id why made last) := by
  unfold nextAttempt
  dsimp only
  split
  · exact sheds_toAttempt burden h
  · exact sheds_failSearch burden h

theorem sheds_failAttempt {why : Search} {attempt : Nat} {error : ConnectError}
    (h : c.Sheds f d) : c.Sheds f (d.failAttempt id why attempt error) :=
  sheds_nextAttempt burden (d := d.log _) h

theorem sheds_stepSearch {why : Search} {stage : SearchStage} :
    c.Sheds f (c.stepSearch id why stage) := by
  unfold stepSearch
  cases stage with
  | arriving =>
    dsimp only
    split
    · exact sheds_become burden (.refl _) rfl
    · exact sheds_become burden (.refl _) rfl
  | atGate =>
    dsimp only
    split
    · exact sheds_nextAttempt burden (.refl _)
    · exact sheds_become burden (.refl _) rfl
  | backingOff attempt until_ => exact sheds_become burden (.refl _) rfl
  | checking attempt =>
    dsimp only
    split
    · exact sheds_become burden (.refl _) rfl
    · exact sheds_failSearch burden (.refl _)
  | starting attempt =>
    exact sheds_become burden (d := { c with loopback := (c.loopback.beginOpen c.clock).1 })
      (.refl _) rfl
  | opening attempt number deadline resume? =>
    dsimp only
    split
    · split
      · exact sheds_become burden (.refl _) rfl
      · next loopback _ _ => exact sheds_failAttempt burden (d := { c with loopback }) (.refl _)
    · exact sheds_failAttempt burden (.refl _)
  | installing attempt peer =>
    dsimp only
    split
    · next session _ =>
      have reader := sheds_spawn burden (d := { c with session }) (.refl (c.carried f))
        (a := .read peer session.generation) rfl
      exact sheds_become burden (sheds_spawn burden reader rfl) rfl
    · exact sheds_failSearch burden (d := c.modifyPeer peer _) (.refl _)
  | closing error =>
    dsimp only
    split
    · next closed _ done => exact sheds_become burden (sheds_of_same (carried_close? done)) rfl
    · exact sheds_become burden (.refl _) rfl
  | draining error =>
    exact sheds_become burden (d := { c with session := c.session.drain }) (.refl _) rfl
  | leaving error? => exact sheds_endSearch

/-- A shutdown stays one as long as it goes on. -/
theorem sheds_stepShutdown (o : c.outline.Orderly) {stage : ShutdownStage}
    (live : (id, .shutDown stage) ∈ c.outline.jobs) :
    c.Sheds f (c.stepShutdown id stage) := by
  have goesOn {d : Client} (jobs : d.outline.jobs = c.outline.jobs) (later : ShutdownStage) :
      (d.become id (.shutDown later)).carried f = d.carried f := by
    refine carried_become_of_same fun job member own => ?_
    have member' : (id, job.activity) ∈ c.outline.jobs := by
      rw [← jobs, ← own]
      exact mem_outline member
    rw [o.unique member' live]
    exact burden.shutDown ..
  unfold stepShutdown
  cases stage with
  | closing =>
    dsimp only
    split
    · next closed writer? done =>
      obtain ⟨s, -, same⟩ := outline_close? done
      refine sheds_of_same ((goesOn ?_ _).trans (carried_close? done))
      rw [same]
      rfl
    · exact sheds_finish (d := c.noteResult id _) (.refl _)
  | draining writer? =>
    exact sheds_of_same (goesOn (d := { c with session := c.session.drain }) rfl _)
  | flushing writer? deadline => exact sheds_finish (d := c.noteResult id _) (.refl _)

end

/-! ## Calls -/

/-- A job that has come to an outcome ends, and the others carry what they did. -/
theorem carried_conclude (c : Client) (id : JobId) (request : PendingRequest)
    (receiver : Receiver) (outcome : Outcome) :
    (c.conclude id request receiver outcome).carried f = c.carriedByOthers f id := by
  rw [← carriedByOthers_cancelJob c id request.timer]
  unfold conclude
  dsimp only
  split
  · exact carried_finish ..
  · exact carried_finish ..

theorem carried_stepAwait {request : PendingRequest} {stage : AwaitStage} {outcome : Outcome}
    (found : c.found? request stage = some outcome) (id : JobId) (receiver : Receiver) :
    (c.stepAwait id request receiver stage).carried f = c.carriedByOthers f id := by
  unfold found? at found
  unfold stepAwait
  cases stage with
  | looking =>
    dsimp only at found ⊢
    rw [found]
    exact carried_conclude ..
  | late =>
    dsimp only
    split
    · exact carried_conclude ..
    · exact carried_conclude ..

/-- Who waits for a request goes on waiting for it, or ends. -/
theorem sheds_stepAwait (burden : Activity.IsBurden f) (o : c.outline.Orderly)
    {request : PendingRequest} {receiver : Receiver} {stage : AwaitStage}
    (live : (id, .await request receiver stage) ∈ c.outline.jobs) :
    c.Sheds f (c.stepAwait id request receiver stage) := by
  cases found : c.found? request stage with
  | none =>
    refine sheds_of_same ?_
    rw [(stepAwait_of_nothing found _ _).2]
    split
    · rfl
    · refine carried_become_of_same fun job member own => ?_
      have same := o.unique (own ▸ mem_outline member) live
      rw [same]
      exact burden.await ..
  | some outcome =>
    unfold Sheds
    rw [carried_stepAwait found]
    exact sublist_carried c f id

theorem carried_dropRequest (c : Client) (request : PendingRequest) :
    (c.dropRequest request).carried f = c.carried f := carried_cancelJob c request.timer

theorem sheds_stepCancelled (job : Job) : c.Sheds f (c.stepCancelled job) := by
  unfold stepCancelled
  split
  · next peer _ _ => exact sheds_finish (d := c.modifyPeer peer Peer.unhear) (.refl _)
  · next request _ _ _ => exact sheds_finish (sheds_of_same (carried_dropRequest c request))
  · exact sheds_giveUpSearch
  · exact sheds_finish (.refl _)

/-- A request that is sent starts its timer. -/
theorem carried_request (c : Client) (id? : Option RequestId) (method : String)
    (params : Option Json) : (c.request id? method params).1.carried f = c.carried f ++
      ((c.request id? method params).2.toOption.bind fun request =>
        f (.expire request.ticket request.deadline)).toList := by
  unfold request
  split
  · exact (List.append_nil _).symm
  · exact carried_spawn ..

theorem orderly_request (o : c.outline.Orderly) (id? : Option RequestId) (method : String)
    (params : Option Json) : (c.request id? method params).1.outline.Orderly := by
  have same (session : Session) : ({ c with session } : Client).outline.Orderly :=
    Outline.ofJobs_orderly.congr o rfl rfl
  unfold request
  split
  · exact same _
  · rw [outline_spawn]
    exact (same _).add _

/-- The request that an errand sends. -/
def sent? (c : Client) : Option Errand → Option PendingRequest
  | some (.request id? method params) => (c.request id? method params).2.toOption
  | _ => none

/-- What begins with a request that a job sends: its timer, and the waiting. -/
def startsOf (request : PendingRequest) : List Activity :=
  [.expire request.ticket request.deadline, .await request .caller .looking]

theorem filterMap_startsOf (burden : Activity.IsBurden f) (request : PendingRequest)
    (receiver : Receiver) : (startsOf request).filterMap f =
      (f (.expire request.ticket request.deadline)).toList ++
        (f (.await request receiver .looking)).toList := by
  unfold startsOf
  rw [burden.await request receiver .looking .caller .looking]
  cases timer : f (.expire request.ticket request.deadline) <;>
    cases waits : f (.await request .caller .looking) <;> simp [timer, waits]

theorem carried_stepCall (burden : Activity.IsBurden f) (o : c.outline.Orderly) {method : String}
    {params : Option Json} (live : (id, .call method params) ∈ c.outline.jobs) :
    ((c.stepCall id method params).carried f).Subperm (c.carried f ++
      ((c.sent? (some (.request none method params))).toList.flatMap startsOf).filterMap f) := by
  have carried := carried_request (f := f) c none method params
  have live' := mem_request live none method params
  have orderly := orderly_request o none method params
  unfold stepCall
  dsimp only [sent?]
  split
  · next d request done =>
    rw [done] at carried live' orderly ⊢
    have becomes := carried_become_perm (f := f) orderly live' (.await request .keeper .looking)
    show List.Subperm _ (_ ++ ((startsOf request ++ []).filterMap f))
    rw [List.append_nil, filterMap_startsOf burden request .keeper, ← List.append_assoc]
    have others := (sublist_carried d f id).subperm
    rw [carried] at others
    refine (becomes.trans List.perm_append_comm).subperm.trans ?_
    exact others.append (.refl _)
  · next d e done =>
    rw [done] at carried ⊢
    show List.Subperm _ (_ ++ [])
    rw [List.append_nil]
    refine (sheds_finish (d := d.noteResult id _) (sheds_of_same (carried.trans ?_))).subperm
    exact List.append_nil _

/-! ## The command line -/

/-- What an input line asks the session for. -/
def errandOf? (line : List Char) : Option Errand :=
  match CommandLine.readLine line with
  | .ok (some (.notification method params)) => some (.notify method params)
  | .ok (some (.request _ method params)) => some (.request none method params)
  | _ => none

/-- A line that sends a request starts its timer and the job that waits. -/
theorem carried_takeLine (burden : Activity.IsBurden f) (c : Client) (line : List Char) :
    (c.takeLine line).1.carried f = c.carried f ++
      ((c.sent? (errandOf? line)).toList.flatMap startsOf).filterMap f := by
  unfold takeLine errandOf?
  cases CommandLine.readLine line with
  | error e => exact (List.append_nil _).symm
  | ok outgoing? =>
    cases outgoing? with
    | none => exact (List.append_nil _).symm
    | some outgoing =>
      cases outgoing with
      | notification method params =>
        dsimp only
        unfold sendLine notify
        dsimp only
        cases c.session.notify method params with
        | ok session => exact (List.append_nil _).symm
        | error e => exact (List.append_nil _).symm
      | request echo method params =>
        have carried := carried_request (f := f) c none method params
        dsimp only [sent?]
        unfold sendLine
        dsimp only
        split
        · next d e done =>
          rw [done] at carried ⊢
          exact carried
        · next d request done =>
          rw [done] at carried ⊢
          rw [carried_spawn, carried]
          show _ = _ ++ ((startsOf request ++ []).filterMap f)
          rw [List.append_nil, filterMap_startsOf burden request (.printer echo),
            List.append_assoc]
          rfl

theorem sent?_afterLine (c : Client) (rest : Bytes) (errand? : Option Errand) :
    (c.afterLine rest).sent? errand? = c.sent? errand? := by
  unfold sent?
  split
  · unfold request afterLine
    dsimp only
    split <;> rfl
  · rfl

theorem carried_stepForward (burden : Activity.IsBurden f) (c : Client) (id : JobId)
    (waiting : List JobId) (stage : ForwardStage) :
    ((c.stepForward id waiting stage).carried f).Sublist (c.carried f ++
      ((match stage with
        | .reading => c.sent? c.lineErrand?
        | .finishing => none).toList.flatMap startsOf).filterMap f) := by
  have more {d : Client} (h : c.Sheds f d) (gains : List β) :
      (d.carried f).Sublist (c.carried f ++ gains) :=
    h.trans (List.sublist_append_left ..)
  unfold stepForward
  cases stage with
  | finishing => exact more sheds_endForward _
  | reading =>
    dsimp only
    unfold lineErrand?
    cases c.console.next with
    | none =>
      dsimp only
      unfold stepIdleForward
      split
      · exact more (sheds_endForward (c := c.log _)) _
      · split
        · exact more sheds_endForward _
        · exact more (.refl _) _
    | ended => exact more (sheds_become burden (.refl _) rfl) _
    | line content rest =>
      dsimp only
      cases Utf8.decode content with
      | error fault => exact more (sheds_endForward (c := c.afterLine rest)) _
      | ok line =>
        dsimp only
        have taken := carried_takeLine burden (c.afterLine rest) line
        rw [sent?_afterLine] at taken
        rw [carried_become (burden.work _ rfl)]
        refine (sublist_carried _ f id).trans ?_
        exact taken ▸ .refl _

end Client

/-! ## Every event -/

namespace World

open Client

variable {β : Type} {f : Activity → Option β} {w : World} {event : Event} {job : Job}

/-- The request that an event sends, if it sends one. -/
def issued? (w : World) (event : Event) : Option PendingRequest := w.client.sent? (w.errand? event)

/-- The timers, the waiting and the shutdowns that begin with an event. It does not matter here
who waits: the user stands for anybody. -/
def begun (w : World) (event : Event) : List Activity :=
  match event with
  | .turn .. => (w.issued? event).toList.flatMap startsOf
  | .request .. =>
    (w.issued? event).toList.map fun request => .expire request.ticket request.deadline
  | .await request => if request ∈ w.held then [.await request .caller .looking] else []
  | .shutDown => if w.client.isHeld then [.shutDown .closing] else []
  | _ => []

theorem errand?_of_acting (room : w.hasRoom event = true) (acts : w.acting? event = some job) :
    w.errand? event =
      match w.client.dealing job with
      | .errand errand => some errand
      | _ => none := by
  unfold errand?
  exact congrArg
    (fun dealing => match dealing with
      | .errand errand => some errand
      | _ => none)
    (dealing_of_acting room acts)

theorem carried_step (burden : Activity.IsBurden f) (o : w.client.outline.Orderly)
    (room : w.hasRoom event = true) (acts : w.acting? event = some job) :
    ((w.client.step job).carried f).Subperm
      (w.client.carried f ++ ((w.issued? event).toList.flatMap startsOf).filterMap f) := by
  have more {c : Client} (h : w.client.Sheds f c) (gains : List β) :
      (c.carried f).Subperm (w.client.carried f ++ gains) :=
    (h.trans (List.sublist_append_left ..)).subperm
  have live := (acting?_eq_some acts).2.1
  have asks := errand?_of_acting room acts
  unfold Client.dealing at asks
  unfold step issued?
  by_cases cancelled : job.isCancelled = true
  · rw [if_pos cancelled]
    exact more (sheds_stepCancelled job) _
  · rw [if_neg cancelled] at asks ⊢
    unfold dealingAt at asks
    cases activity : job.activity with
    | read => exact more (sheds_stepRead burden) _
    | write => exact more (sheds_stepWrite burden) _
    | lose => exact more (sheds_stepLoss burden) _
    | reply => exact more (sheds_stepReply burden) _
    | expire =>
      refine more ?_ _
      unfold Sheds
      rw [carried_stepExpire]
      exact sublist_carried ..
    | await request receiver stage =>
      rw [activity] at live
      exact more (sheds_stepAwait burden o live) _
    | search => exact more (sheds_stepSearch burden) _
    | call method params =>
      rw [activity] at live asks
      rw [asks]
      exact carried_stepCall burden o live
    | shutDown stage =>
      rw [activity] at live
      exact more (sheds_stepShutdown burden o live) _
    | forward stage waiting =>
      rw [activity] at asks
      have taken := carried_stepForward burden w.client job.id waiting stage
      cases stage with
      | finishing =>
        rw [asks]
        exact taken.subperm
      | reading =>
        have line : w.errand? event = w.client.lineErrand? := by
          rw [asks]
          dsimp only
          cases w.client.lineErrand? <;> rfl
        rw [line]
        exact taken.subperm

/-- A request of a user is sent as he asks for it. -/
theorem issued?_of_request {id? : Option RequestId} {method : String} {params : Option Json}
    (room : w.hasRoom (.request id? method params) = true) (held : w.client.isHeld = true) :
    w.issued? (.request id? method params) = (w.client.request id? method params).2.toOption := by
  unfold issued? errand? dealing
  rw [if_pos room]
  dsimp only
  rw [if_pos held]
  rfl

theorem carried_of_request {id? : Option RequestId}
    {method : String} {params : Option Json}
    (room : w.hasRoom (.request id? method params) = true) :
    ((w.occur (.request id? method params)).client.carried f).Subperm
      (w.client.carried f ++ (w.begun (.request id? method params)).filterMap f) := by
  have carried := carried_request (f := f) w.client id? method params
  unfold occur
  dsimp only
  by_cases held : w.client.isHeld = true
  · unfold begun
    dsimp only
    rw [issued?_of_request room held, if_pos held]
    split
    · next d request done =>
      rw [done] at carried ⊢
      dsimp only at carried ⊢
      rw [carried]
      cases timer : f (.expire request.ticket request.deadline) <;>
        simp [timer, Except.toOption, List.Subperm.refl]
    · next d e done =>
      rw [done] at carried ⊢
      dsimp only at carried ⊢
      rw [carried]
      exact List.Subperm.refl _
  · rw [if_neg held]
    exact (List.sublist_append_left ..).subperm

/-- Whether a job may begin with an event. -/
def mayStart : Event → Bool
  | .turn .. | .request .. | .connect | .call .. | .shutDown | .forward | .await _ => true
  | _ => false

theorem carried_of_idle (idle : mayStart event = false) :
    (w.occur event).client.carried f = w.client.carried f := by
  unfold occur
  cases event with
  | notify method params =>
    dsimp only
    unfold Client.notify
    split
    · dsimp only
      split <;> rfl
    · rfl
  | cancel id =>
    dsimp only
    unfold Client.cancel
    split
    · dsimp only
      split <;> rfl
    · rfl
  | cancelRequest id =>
    dsimp only
    unfold Client.cancelRequest
    split
    · dsimp only
      split <;> rfl
    · rfl
  | dropHandle => exact carried_reap { w.client with isHeld := false }
  | dropRequest request =>
    dsimp only
    split
    · exact carried_dropRequest w.client request
    · rfl
  | abort id =>
    dsimp only
    unfold abortJob
    split
    · split
      · exact carried_cancelJob ..
      · rfl
    · rfl
  | route | serve =>
    dsimp only
    split <;> rfl
  | type | wait => rfl
  | _ => cases idle

/-- Nothing is carried after an event that was not carried before, but for what begins with
it. -/
theorem carried_perform (burden : Activity.IsBurden f) (o : w.client.outline.Orderly)
    (event : Event) : ((w.perform event).client.carried f).Subperm
      (w.client.carried f ++ (w.begun event).filterMap f) := by
  have same {c : Client} (h : c.carried f = w.client.carried f) (gains : List β) :
      (c.carried f).Subperm (w.client.carried f ++ gains) := by
    rw [h]
    exact (List.sublist_append_left ..).subperm
  cases room : w.hasRoom event with
  | false =>
    rw [perform_of_no_room room]
    exact same rfl _
  | true =>
    rw [perform_of_room room]
    cases event with
    | turn id heeds =>
      rw [occur_of_acting]
      cases acts : w.acting? (.turn id heeds) with
      | none => exact same rfl _
      | some job => exact carried_step burden o room acts
    | request => exact carried_of_request room
    | shutDown =>
      unfold occur begun
      dsimp only
      by_cases held : w.client.isHeld = true
      · rw [if_pos held, if_pos held]
        dsimp only
        rw [carried_spawn]
        cases stops : f (.shutDown .closing) <;> simp [stops, List.Subperm.refl]
      · rw [if_neg held, if_neg held]
        exact same rfl _
    | await request =>
      unfold occur begun
      dsimp only
      by_cases held : request ∈ w.held
      · rw [if_pos held, if_pos held]
        dsimp only
        rw [carried_spawn]
        cases waits : f (.await request .caller .looking) <;> simp [waits, List.Subperm.refl]
      · rw [if_neg held, if_neg held]
        exact same rfl _
    | connect | call | forward =>
      unfold occur
      dsimp only
      split
      · refine (sheds_spawn burden (.refl _) ?_).subperm.trans ?_
        · rfl
        · exact same rfl _
      · exact same rfl _
    | _ => exact same (carried_of_idle rfl) _

end World

end LspClient
