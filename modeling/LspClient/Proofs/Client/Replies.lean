import Mathlib.Data.List.Induction
import LspClient.Proofs.Client.Outbound
import LspClient.Proofs.Client.Turns
import LspClient.Proofs.Session.Posted

/-!
# Every request of the server is answered once

A request that comes in gets a job of its own, and the reader goes on. `Client.Replies`
says what one turn of this job leads to, and `World.ReplyFate` what has become of it after
any events: it is under way and has put nothing into an outbox yet; or it has ended and has
put the one response there that the handlers have decided on at its first turn, if the
session was ready at its last one, and nothing if not. There is one exception, and it is
the dispatcher's: a handler that crashes while it is being called, before there is any work
to wait for, takes the reply with it.
-/

namespace LspClient

/-! ## What the handlers decide -/

/-- The reply to a request, by what its handler does. -/
def Dispatcher.decided? (d : Dispatcher) (request : Request) : Option Response :=
  match d.find? request.method with
  | some (.request call) =>
    match call request.params with
    | .running _ (.answered outcome) => some ⟨some request.id, outcome⟩
    | .running _ (.crashed crash) =>
      some ⟨some request.id,
        .error ⟨-32603, "handler for " ++ request.method ++ " panicked: " ++ crash.reason, none⟩⟩
    | .crashed _ => none
  | _ => some ⟨some request.id, .error ⟨-32601, "Method not found: " ++ request.method, none⟩⟩

/-- Whether the handler of a request crashes while it is being called. -/
def Dispatcher.CrashesAt (d : Dispatcher) (request : Request) : Prop :=
  ∃ call crash, d.find? request.method = some (.request call) ∧
    call request.params = .crashed crash

/-- Either a request is taken up so that its reply is decided, or its handler crashes. -/
theorem Dispatcher.take_cases (d : Dispatcher) (request : Request) :
    match d.take request with
    | .replied reply => d.decided? request = some reply
    | .called (.running _ ending) => d.decided? request = some (reply request ending)
    | .called (.crashed _) => d.CrashesAt request := by
  unfold take decided?
  cases found : d.find? request.method with
  | none => rfl
  | some handler =>
    cases handler with
    | notification run => rfl
    | request call =>
      dsimp only
      cases called : call request.params with
      | crashed crash => exact ⟨call, crash, found, called⟩
      | running millis ending => cases ending <;> rfl

theorem Dispatcher.CrashesAt.decided?_eq_none {d : Dispatcher} {request : Request}
    (h : d.CrashesAt request) : d.decided? request = none := by
  obtain ⟨call, crash, found, called⟩ := h
  unfold decided?
  rw [found]
  dsimp only
  rw [called]

theorem Dispatcher.reply?_handle (d : Dispatcher) (request : Request) :
    (d.handle (.request request)).reply? = d.decided? request := by
  have either := d.take_cases request
  unfold handle
  dsimp only
  split at either
  · next taken =>
    rw [taken, either]
  · next taken =>
    rw [taken, either]
  · next taken =>
    rw [taken, either.decided?_eq_none]

/-- A reply carries the id of its request, and only such a crash leaves a request without. -/
theorem Dispatcher.decided?_cases (d : Dispatcher) (request : Request) :
    (∃ reply, d.decided? request = some reply ∧ reply.id = some request.id) ∨
      d.decided? request = none ∧ d.CrashesAt request := by
  unfold decided?
  cases found : d.find? request.method with
  | none => exact .inl ⟨_, rfl, rfl⟩
  | some handler =>
    cases handler with
    | notification run => exact .inl ⟨_, rfl, rfl⟩
    | request call =>
      dsimp only
      cases called : call request.params with
      | crashed crash => exact .inr ⟨rfl, call, crash, found, called⟩
      | running millis ending => cases ending <;> exact .inl ⟨_, rfl, rfl⟩

/-- Such a request stays without a reply. -/
example : ((({} : Dispatcher).insert "m" (.request fun _ => .crashed ⟨some "too early"⟩)).handle
    (.request ⟨.number 5, "m", none⟩)).reply? = none := by rfl

/-! ## One turn of a reply -/

/-- How many turns a reply has left at most. -/
def ReplyStage.left : ReplyStage → Nat
  | .arriving => 3
  | .working .. => 2
  | .replying _ => 1

theorem ReplyStage.left_pos (stage : ReplyStage) : 0 < stage.left := by
  cases stage <;> exact Nat.succ_pos _

/-- The response that is under way. -/
def ReplyStage.response? (request : Request) : ReplyStage → Option Response
  | .arriving => none
  | .working _ ending => some (Dispatcher.reply request ending)
  | .replying response => some response

/-- Whether a session takes messages. -/
def Session.Accepts (s : Session) : Prop := s.lifecycle = .ready ∧ s.isDropped = false

/-- Where the turn of a reply leads it, if anywhere, and what it puts into an outbox. -/
inductive Client.Replies (c : Client) (request : Request) :
    ReplyStage → Option ReplyStage → List WriterCommand → Prop
  | taken {next : ReplyStage} {response : Response}
      (decided : c.session.dispatcher.decided? request = some response)
      (promised : next.response? request = some response) (less : next.left < 3) :
      Replies c request .arriving (some next) []
  | crashed (crashes : c.session.dispatcher.CrashesAt request) : Replies c request .arriving none []
  | waiting {until_ : Nat} {ending : Ending} (early : c.clock < until_) :
      Replies c request (.working until_ ending) (some (.working until_ ending)) []
  | worked {until_ : Nat} {ending : Ending} :
      Replies c request (.working until_ ending)
        (some (.replying (Dispatcher.reply request ending))) []
  | sent {response : Response} (accepts : c.session.Accepts) :
      Replies c request (.replying response) none [.send (Envelope.response response).encode]
  | refused {response : Response} (refuses : ¬ c.session.Accepts) :
      Replies c request (.replying response) none []

open Outline

namespace Client

variable {c : Client} {id : JobId} {a : Activity} {request : Request} {stage : ReplyStage}

/-- The session after a job has ended is as it was, or dropped. -/
theorem session_finish (c : Client) (id : JobId) :
    (c.finish id).session = c.session ∨ (c.finish id).session = c.session.drop := by
  rcases session_reap { c with jobs := c.jobs.filter (·.id != id) } with same | ⟨-, dropped⟩
  · exact .inl same
  · exact .inr dropped

theorem posted_finish (s : Session) (c : Client) (id : JobId) :
    s.posted (c.finish id).session = s.posted c.session := by
  unfold Session.posted
  rcases session_finish c id with same | dropped
  · rw [same]
  · rw [dropped, Session.queues_drop]

theorem size_finish_le (c : Client) (id : JobId) :
    (c.finish id).session.correlator.size ≤ c.session.correlator.size := by
  rcases session_finish c id with same | dropped
  · exact Nat.le_of_eq (congrArg (·.correlator.size) same)
  · rw [dropped, Session.drop_eq]
    show c.session.correlator.drain.pending.length ≤ _
    rw [Correlator.pending_drain]
    exact Nat.zero_le _

theorem hasEnded_finish (o : c.outline.Orderly) (live : (id, a) ∈ c.outline.jobs) :
    (c.finish id).outline.HasEnded id :=
  (hasEnded_erase o live).stirs (stirs_finish c id)

/-- What a turn of a reply leaves behind. -/
structure RepliesTo (c c' : Client) (id : JobId) (request : Request) (stage : ReplyStage)
    (next? : Option ReplyStage) (commands : List WriterCommand) : Prop where
  replies : c.Replies request stage next? commands
  posted : c.session.posted c'.session = commands
  goesOn : ∀ next, next? = some next → (id, .reply request next) ∈ c'.outline.jobs
  ends : next? = none → c'.outline.HasEnded id
  size : c'.session.correlator.size ≤ c.session.correlator.size

/-- The reply goes on. -/
theorem repliesTo_become {d : Client} {next : ReplyStage} (session : d.session = c.session)
    (outline : d.outline = c.outline) (live : (id, .reply request stage) ∈ c.outline.jobs)
    (replies : c.Replies request stage (some next) []) :
    c.RepliesTo (d.become id (.reply request next)) id request stage (some next) [] where
  replies := replies
  posted := Session.posted_of_queues (congrArg Session.queues session)
  goesOn other same := by
    cases same
    rw [outline_become, outline]
    exact mem_put.mpr (.inr ⟨rfl, _, live⟩)
  ends := nofun
  size := Nat.le_of_eq (congrArg (·.correlator.size) session)

/-- It comes to its end. -/
theorem repliesTo_finish {d : Client} {commands : List WriterCommand}
    (o : c.outline.Orderly) (live : (id, .reply request stage) ∈ c.outline.jobs)
    (jobs : d.outline.jobs = c.outline.jobs) (next : d.outline.nextJob = c.outline.nextJob)
    (size : d.session.correlator.size ≤ c.session.correlator.size)
    (posted : c.session.posted d.session = commands)
    (replies : c.Replies request stage none commands) :
    c.RepliesTo (d.finish id) id request stage none commands where
  replies := replies
  posted := (posted_finish c.session d id).trans posted
  goesOn := nofun
  ends _ := by
    rw [← jobs] at live
    exact hasEnded_finish (ofJobs_orderly.congr o jobs next) live
  size := Nat.le_trans (size_finish_le d id) size

/-- The step of a reply. -/
theorem repliesTo_stepReply (o : c.outline.Orderly) (linked : c.session.Linked)
    (live : (id, .reply request stage) ∈ c.outline.jobs) :
    ∃ next? commands,
      c.RepliesTo (c.stepReply id request stage) id request stage next? commands := by
  -- the reply ends without having put anything anywhere
  have stops {d : Client} (outline : d.outline = c.outline)
      (replies : c.Replies request stage none []) :
      c.RepliesTo (d.finish id) id request stage none [] := by
    have same : d.session = c.session := congrArg Outline.session outline
    exact repliesTo_finish o live (congrArg Outline.jobs outline) (congrArg Outline.nextJob outline)
      (Nat.le_of_eq (congrArg (·.correlator.size) same))
      (Session.posted_of_queues (congrArg Session.queues same)) replies
  cases stage with
  | arriving =>
    have either := c.session.dispatcher.take_cases request
    unfold stepReply
    dsimp only [noteInvocation]
    split
    · next response taken =>
      rw [taken] at either
      have nearer : (ReplyStage.replying response).left < 3 := by simp [ReplyStage.left]
      exact ⟨_, _, repliesTo_become rfl rfl live (.taken either rfl nearer)⟩
    · next crash taken =>
      rw [taken] at either
      exact ⟨_, _, stops rfl (.crashed either)⟩
    · next millis ending taken =>
      rw [taken] at either
      have nearer : (ReplyStage.working (Clock.due c.clock millis) ending).left < 3 := by
        simp [ReplyStage.left]
      exact ⟨_, _, repliesTo_become rfl rfl live (.taken either rfl nearer)⟩
  | working until_ ending =>
    exact ⟨_, _, repliesTo_become (d := c.log _) rfl rfl live .worked⟩
  | replying response =>
    unfold stepReply
    dsimp only
    split
    · next dropped =>
      refine ⟨_, _, stops rfl (.refused fun accepts => ?_)⟩
      rw [accepts.2] at dropped
      cases dropped
    · next alive =>
      have kept := Bool.eq_false_iff.mpr alive
      rcases linked.send_cases kept (.response response) with
        ⟨notReady, e, refused⟩ | ⟨isReady, index, bound, sent⟩
      · rw [refused]
        exact ⟨_, _, stops rfl (.refused fun accepts => notReady accepts.1)⟩
      · rw [sent]
        refine ⟨none, [.send (Envelope.response response).encode], ?_⟩
        exact repliesTo_finish (d := { c with session := _ }) o live rfl rfl (Nat.le_refl _)
          (Session.posted_enqueue bound _) (.sent ⟨isReady, kept⟩)

/-- A turn brings a reply nearer to its end if it can go on, and never farther away. -/
theorem Replies.nearer {next? : Option ReplyStage} {commands : List WriterCommand}
    (h : c.Replies request stage next? commands) (id : JobId) (isQueued : Bool) :
    (c.isReady { id, activity := .reply request stage, isQueued }).toNat +
      (next?.map ReplyStage.left).getD 0 ≤ stage.left := by
  have once := (c.isReady { id, activity := .reply request stage, isQueued }).toNat_le
  cases h with
  | @taken next _ _ _ less =>
    show _ + next.left ≤ 3
    omega
  | crashed => exact Nat.le_trans once (Nat.le_add_left 1 2)
  | waiting early =>
    have notReady : decide (_ ≤ c.clock) = false := decide_eq_false (Nat.not_le_of_lt early)
    show (decide (_ ≤ c.clock)).toNat + 2 ≤ 2
    rw [notReady]
    exact Nat.le_refl 2
  | worked => exact Nat.add_le_add_right once 1
  | sent => exact once
  | refused => exact once

/-- The turn of a reply. If it is not ready to go on, its handler still works. -/
theorem repliesTo_takeTurn (o : c.outline.Orderly) (linked : c.session.Linked)
    (live : (id, .reply request stage) ∈ c.outline.jobs) (heeds : Bool) :
    ∃ next? commands, c.RepliesTo (c.takeTurn id heeds) id request stage next? commands := by
  obtain ⟨isQueued, found⟩ := turning?_eq o live rfl heeds
  unfold takeTurn
  rw [found]
  dsimp only
  split
  · exact repliesTo_stepReply o linked live
  · next notReady =>
    -- only work that goes on for a while keeps a reply waiting
    cases stage with
    | arriving => exact absurd rfl notReady
    | replying response => exact absurd rfl notReady
    | working until_ ending =>
      have early : c.clock < until_ := by
        by_contra due
        exact notReady (decide_eq_true (Nat.le_of_not_lt due))
      refine ⟨some (.working until_ ending), [], .waiting early, Session.posted_of_queues rfl, ?_,
        nofun, Nat.le_refl _⟩
      intro next same
      cases same
      exact live

end Client

namespace World

variable {settings : Settings} {medium : Medium} {w : World} {id : JobId} {a : Activity}
  {request : Request} {stage : ReplyStage} {event : Event} {events : List Event}

/-! ## What turns give along the way -/

/-- What an event puts into outboxes, if it is a turn of this job. -/
def posts (id : JobId) (w : World) (event : Event) : List WriterCommand :=
  if event.isTurn id then w.client.session.posted (w.perform event).client.session else []

/-- What the turns of a job put into outboxes. -/
def postedBy (w : World) (id : JobId) (events : List Event) : List WriterCommand :=
  gathered (posts id) w events

theorem postedBy_concat (w : World) (id : JobId) (events : List Event) (event : Event) :
    w.postedBy id (events ++ [event]) =
      w.postedBy id events ++ posts id (w.performAll events) event :=
  gathered_concat ..

theorem posts_of_other (other : event.isTurn id = false) : posts id w event = [] :=
  if_neg (Bool.eq_false_iff.mp other)

theorem posts_of_hasEnded (gone : w.client.outline.HasEnded id) (event : Event) :
    posts id w event = [] := by
  by_cases own : event.isTurn id = true
  · obtain ⟨heeds, rfl⟩ := exists_turn_of_isTurn own
    unfold posts
    rw [perform_of_hasEnded gone, Session.posted_of_queues rfl]
    exact ite_self _
  · exact if_neg own

/-! ## What becomes of a reply -/

/-- These events come before a turn of the job. -/
def TurnAfter (id : JobId) (before events : List Event) : Prop :=
  ∃ heeds after, events = before ++ .turn id heeds :: after

theorem TurnAfter.concat {before : List Event} (h : TurnAfter id before events) (event : Event) :
    TurnAfter id before (events ++ [event]) := by
  obtain ⟨heeds, after, rfl⟩ := h
  exact ⟨heeds, after ++ [event], by rw [List.append_assoc, List.cons_append]⟩

theorem turnAfter_self (id : JobId) (events : List Event) (heeds : Bool) :
    TurnAfter id events (events ++ [.turn id heeds]) := ⟨heeds, [], rfl⟩

/-- These events come before the job's first turn, at which the handlers decide on this
response, if on any. -/
structure Decides (w : World) (id : JobId) (request : Request) (before events : List Event)
    (response? : Option Response) : Prop where
  turn : TurnAfter id before events
  first : ∀ event ∈ before, event.isTurn id = false
  decided : (w.performAll before).client.session.dispatcher.decided? request = response?

theorem Decides.concat {before : List Event} {response? : Option Response}
    (h : w.Decides id request before events response?) (event : Event) :
    w.Decides id request before (events ++ [event]) response? :=
  ⟨h.turn.concat event, h.first, h.decided⟩

/-- What has become of the job that replies to a request. -/
inductive ReplyFate (w : World) (id : JobId) (request : Request) (events : List Event) : Prop
  /-- It has not had a turn. -/
  | arriving (live : (id, .reply request .arriving) ∈ (w.performAll events).client.outline.jobs)
      (unturned : ∀ event ∈ events, event.isTurn id = false)
  /-- The response is decided on, and under way for a limited number of turns. -/
  | underWay {stage : ReplyStage} {start : List Event} {response : Response}
      (live : (id, .reply request stage) ∈ (w.performAll events).client.outline.jobs)
      (decides : w.Decides id request start events (some response))
      (promised : stage.response? request = some response)
      (turns : w.dueTurns id events + stage.left ≤ 3) (nothing : w.postedBy id events = [])
  /-- At the turn after its handler had ended the session was ready, and the response was put into
  the outbox, once. -/
  | replied {start before : List Event} {response : Response}
      (decides : w.Decides id request start before (some response))
      (done : (id, .reply request (.replying response)) ∈
        (w.performAll before).client.outline.jobs)
      (turn : TurnAfter id before events) (accepts : (w.performAll before).client.session.Accepts)
      (once : w.postedBy id events = [.send (Envelope.response response).encode])
      (gone : (w.performAll events).client.outline.HasEnded id)
  /-- At that turn the session was not ready, and the response was dropped. -/
  | refused {start before : List Event} {response : Response}
      (decides : w.Decides id request start before (some response))
      (done : (id, .reply request (.replying response)) ∈
        (w.performAll before).client.outline.jobs)
      (turn : TurnAfter id before events)
      (refuses : ¬ (w.performAll before).client.session.Accepts)
      (nothing : w.postedBy id events = [])
      (gone : (w.performAll events).client.outline.HasEnded id)
  /-- The handler crashed at the job's first turn, when it was called: there is no response. -/
  | crashed {start : List Event} (decides : w.Decides id request start events none)
      (crashes : (w.performAll start).client.session.dispatcher.CrashesAt request)
      (nothing : w.postedBy id events = [])
      (gone : (w.performAll events).client.outline.HasEnded id)

/-- What has ended stays so and puts nothing into an outbox any more. -/
theorem hasEnded_concat (gone : (w.performAll events).client.outline.HasEnded id) (event : Event) :
    (w.performAll (events ++ [event])).client.outline.HasEnded id ∧
      w.postedBy id (events ++ [event]) = w.postedBy id events := by
  rw [performAll_concat, postedBy_concat, posts_of_hasEnded gone, List.append_nil]
  exact ⟨(follows_perform _ event).hasEnded gone, rfl⟩

/-- Before its first turn a job has put nothing into an outbox. -/
theorem postedBy_of_unturned (unturned : ∀ event ∈ events, event.isTurn id = false) :
    w.postedBy id events = [] ∧ w.dueTurns id events = 0 := by
  induction events using List.reverseRecOn with
  | nil => exact ⟨rfl, rfl⟩
  | append_singleton events event ih =>
    have other := unturned event (List.mem_append_right _ (List.mem_singleton_self event))
    obtain ⟨nothing, never⟩ := ih fun e he => unturned e (List.mem_append_left _ he)
    rw [postedBy_concat, dueTurns_concat, posts_of_other other, isDue_of_other other, nothing,
      never]
    exact ⟨rfl, rfl⟩

/-- A reply takes its turn. -/
theorem exists_replies (reached : Reachable settings medium (w.performAll events).client.outline)
    (room : (w.performAll events).client.session.correlator.size ≤ mostCalls)
    (live : (id, .reply request stage) ∈ (w.performAll events).client.outline.jobs)
    (heeds : Bool) : ∃ next? commands,
      (w.performAll events).client.Replies request stage next? commands ∧
      w.postedBy id (events ++ [.turn id heeds]) = w.postedBy id events ++ commands ∧
      w.dueTurns id (events ++ [.turn id heeds]) + (next?.map ReplyStage.left).getD 0 ≤
        w.dueTurns id events + stage.left ∧
      match next? with
      | some next => (id, .reply request next) ∈
          (w.performAll (events ++ [.turn id heeds])).client.outline.jobs
      | none => (w.performAll (events ++ [.turn id heeds])).client.outline.HasEnded id := by
  obtain ⟨next?, commands, done⟩ :=
    Client.repliesTo_takeTurn reached.orderly reached.staffed.linked live heeds
  obtain ⟨isQueued, found⟩ := Client.turning?_eq reached.orderly live rfl heeds
  have same : (w.performAll events).perform (.turn id heeds) =
      (w.performAll events).occur (.turn id heeds) := perform_eq room done.size
  have nearer := done.replies.nearer id isQueued
  -- such a turn registers no call, so it does come about, and the outboxes tell what it posts
  refine ⟨next?, commands, done.replies, ?_, ?_, ?_⟩
  · rw [postedBy_concat, posts, Event.isTurn_turn, if_pos rfl, same, ← done.posted]
    rfl
  · have due : isDue id (w.performAll events) (.turn id heeds) =
        (w.performAll events).client.isReady
          { id, activity := .reply request stage, isQueued } := by
      unfold isDue
      dsimp only
      rw [found, beq_self_eq_true, Bool.true_and]
      rfl
    rw [dueTurns_concat, due]
    omega
  · rw [performAll_concat, same]
    cases next? with
    | some next => exact done.goesOn next rfl
    | none => exact done.ends rfl

/-- At its first turn the handlers decide on the response, or there will be none. -/
theorem replyFate_first (reached : Reachable settings medium (w.performAll events).client.outline)
    (room : (w.performAll events).client.session.correlator.size ≤ mostCalls)
    (live : (id, .reply request .arriving) ∈ (w.performAll events).client.outline.jobs)
    (unturned : ∀ event ∈ events, event.isTurn id = false) (heeds : Bool) :
    w.ReplyFate id request (events ++ [.turn id heeds]) := by
  obtain ⟨next?, commands, replies, posted, turns, job⟩ := exists_replies reached room live heeds
  obtain ⟨nothing, never⟩ := postedBy_of_unturned (w := w) unturned
  rw [nothing] at posted
  rw [never] at turns
  have turn := turnAfter_self id events heeds
  cases replies with
  | taken decided promised => exact .underWay job ⟨turn, unturned, decided⟩ promised turns posted
  | crashed crashes =>
    exact .crashed ⟨turn, unturned, crashes.decided?_eq_none⟩ crashes posted job

/-- At a later turn it comes nearer to its end. -/
theorem replyFate_next {start : List Event} {response : Response}
    (reached : Reachable settings medium (w.performAll events).client.outline)
    (room : (w.performAll events).client.session.correlator.size ≤ mostCalls)
    (live : (id, .reply request stage) ∈ (w.performAll events).client.outline.jobs)
    (decides : w.Decides id request start events (some response))
    (promised : stage.response? request = some response)
    (turns : w.dueTurns id events + stage.left ≤ 3) (nothing : w.postedBy id events = [])
    (heeds : Bool) : w.ReplyFate id request (events ++ [.turn id heeds]) := by
  obtain ⟨next?, commands, replies, posted, fewer, job⟩ := exists_replies reached room live heeds
  rw [nothing] at posted
  have turn := turnAfter_self id events heeds
  have later := decides.concat (.turn id heeds)
  cases replies with
  | taken => cases promised
  | crashed => cases promised
  | waiting => exact .underWay job later promised (Nat.le_trans fewer turns) posted
  | worked => exact .underWay job later promised (Nat.le_trans fewer turns) posted
  | sent accepts =>
    -- what is sent is the response that was promised
    cases promised
    exact .replied decides live turn accepts posted job
  | refused refuses =>
    cases promised
    exact .refused decides live turn refuses posted job

/-- What one more event makes of it. -/
theorem ReplyFate.concat (h : w.ReplyFate id request events)
    (reached : Reachable settings medium (w.performAll events).client.outline)
    (room : (w.performAll events).client.session.correlator.size ≤ mostCalls) (event : Event) :
    w.ReplyFate id request (events ++ [event]) := by
  have happens := happens_perform room event
  rw [← performAll_concat] at happens
  -- a job that still runs is moved by its own turn alone; one that has ended has no more turns
  cases h with
  | arriving live unturned =>
    by_cases own : event.isTurn id = true
    · obtain ⟨heeds, rfl⟩ := exists_turn_of_isTurn own
      exact replyFate_first reached room live unturned heeds
    · have other := Bool.eq_false_iff.mpr own
      refine .arriving (happens.mem_of_ne live other) fun e he => ?_
      rcases List.mem_append.mp he with old | new
      · exact unturned e old
      · rw [List.mem_singleton.mp new]
        exact other
  | underWay live decides promised turns nothing =>
    by_cases own : event.isTurn id = true
    · obtain ⟨heeds, rfl⟩ := exists_turn_of_isTurn own
      exact replyFate_next reached room live decides promised turns nothing heeds
    · have other := Bool.eq_false_iff.mpr own
      refine .underWay (happens.mem_of_ne live other) (decides.concat event) promised ?_ ?_
      · rw [dueTurns_concat, isDue_of_other other]
        exact turns
      · rw [postedBy_concat, posts_of_other other, nothing]
        rfl
  | replied decides done turn accepts once gone =>
    obtain ⟨still, same⟩ := hasEnded_concat gone event
    exact .replied decides done (turn.concat event) accepts (same.trans once) still
  | refused decides done turn refuses nothing gone =>
    obtain ⟨still, same⟩ := hasEnded_concat gone event
    exact .refused decides done (turn.concat event) refuses (same.trans nothing) still
  | crashed decides crashes nothing gone =>
    obtain ⟨still, same⟩ := hasEnded_concat gone event
    exact .crashed (decides.concat event) crashes (same.trans nothing) still

/-- Whatever happens after a request was taken up, this is what becomes of its job. -/
theorem replyFate (reached : Reachable settings medium w.client.outline)
    (room : w.client.session.correlator.size ≤ mostCalls)
    (live : (id, .reply request .arriving) ∈ w.client.outline.jobs) (events : List Event) :
    w.ReplyFate id request events := by
  induction events using List.reverseRecOn with
  | nil => exact .arriving live nofun
  | append_singleton events event ih =>
    exact ih.concat (reachable_performAll reached events) (room_performAll room events) event

theorem ReplyFate.hasEnded (h : w.ReplyFate id request events)
    (turns : 3 ≤ w.dueTurns id events) : (w.performAll events).client.outline.HasEnded id := by
  cases h with
  | arriving live unturned =>
    rw [(postedBy_of_unturned unturned).2] at turns
    cases turns
  | @underWay stage _ _ live decides promised most =>
    have pos := stage.left_pos
    omega
  | replied decides done turn accepts once gone => exact gone
  | refused decides done turn refuses nothing gone => exact gone
  | crashed decides crashes nothing gone => exact gone

/-! ## Requests that come in -/

/-- What becomes of a request that comes in at this event. -/
structure AnswersRequest (w : World) (event : Event) (request : Request) : Prop where
  /-- It gets a job of its own, and nothing else changes. -/
  starts : (w.perform event).client.outline = w.client.outline.add (.reply request .arriving)
  /-- The reader stays ready for the next frame, whatever this job does. -/
  reads : ∃ reader heeds peer generation, event = .turn reader heeds ∧
    ∀ more : List Event, (∀ next ∈ more, next.isTurn reader = false) →
      (reader, .read peer generation) ∈ ((w.perform event).performAll more).client.outline.jobs
  /-- The job puts the response that the handlers decide on into an outbox once, if the session
  is ready when it comes to that, and nothing else. -/
  replies : ∀ more, (w.perform event).ReplyFate w.client.nextJob request more
  /-- It has ended after three turns at which it could go on. -/
  ends : ∀ more, 3 ≤ (w.perform event).dueTurns w.client.nextJob more →
    ((w.perform event).performAll more).client.outline.HasEnded w.client.nextJob

/-- What holds of every state that a run can come to, as far as requests of the server go. -/
structure AnswersRequests (w : World) : Prop where
  /-- The reply to a request is the one by its handler, with the request's own id. Only a
  handler that crashes while it is called leaves a request without a reply. -/
  handles : ∀ (d : Dispatcher) (request : Request),
    (d.handle (.request request)).reply? = d.decided? request ∧
      ((∃ reply, d.decided? request = some reply ∧ reply.id = some request.id) ∨
        d.decided? request = none ∧ d.CrashesAt request)
  takesUp : ∀ event frame request, w.incoming? event = some frame →
    Envelope.decode frame = .ok (.request request) → w.AnswersRequest event request

theorem perform_request {frame : Bytes} (room : w.client.session.correlator.size ≤ mostCalls)
    (taken : w.incoming? event = some frame)
    (asks : Envelope.decode frame = .ok (.request request)) :
    (w.perform event).client.outline = w.client.outline.add (.reply request .arriving) := by
  have receives : w.client.session.receive frame =
      (w.client.session, { request? := some request }) := by
    unfold Session.receive
    rw [asks]
  have asked : (w.client.outline.session.receive frame).2.request? = some request :=
    congrArg (·.2.request?) receives
  rw [((happens_perform room event).of_incoming taken).1, intake_of_request asked]
  show (w.client.outline.withSession (w.client.session.receive frame).1).add _ = _
  rw [receives]
  rfl

/-- **Every request of the server is answered once.** In every run, whatever its handler does
except to crash while it is called, a request that comes in has its one response, if the
session is ready when the handler has come to its end, and the reader goes on. -/
theorem answers_requests (settings : Settings) (medium : Medium) (events : List Event) :
    AnswersRequests (run settings medium events) where
  handles d request := ⟨d.reply?_handle request, d.decided?_cases request⟩
  takesUp event frame request taken asks := by
    have reached := reachable_perform (reachable_run settings medium events) event
    have room := size_le_mostCalls settings medium events
    have starts := perform_request room taken asks
    have live : ((run settings medium events).client.nextJob, .reply request .arriving) ∈
        ((run settings medium events).perform event).client.outline.jobs := by
      rw [starts]
      exact mem_add.mpr (.inr rfl)
    have fate := replyFate reached (room_perform room event) live
    obtain ⟨-, reader, heeds, peer, generation, rfl, reads⟩ :=
      (happens_perform room event).of_incoming taken
    refine ⟨starts, ⟨reader, heeds, peer, generation, rfl, fun more waits => ?_⟩, fate,
      fun more turns => (fate more).hasEnded turns⟩
    refine mem_performAll_of_ne (room_perform room _) ?_ waits
    rw [starts]
    exact mem_add.mpr (.inl reads)

/-- Whatever the server sends over the first connection does come in. -/
example (frame : Bytes) :
    let server := (run {} .messages firstConnection).client.loopback.modifyPeer 0 (·.send frame)
    (run {} .messages (firstConnection ++ [.serve server])).incoming? (.turn 1 false) =
      some frame := by rfl

end World

end LspClient
