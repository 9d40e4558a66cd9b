import LspClient.Proofs.Client.Reachable
import LspClient.Proofs.Session.Outbound

/-!
# The writer of the current connection lives

`Staffed` ties the jobs to the outboxes that they work off. The job that works off the
current outbox is a writer that has not come to its end, or one that is about to report
that it has lost the connection, under the generation that the session is at; so it can
only leave its outbox behind after the session has let go of it. Together with `Linked`
this is the invariant behind `World.refused_only_if`: a request or a notification is
refused only if the session is not ready, or for an id that is outstanding.
-/

namespace LspClient

namespace Activity

/-- The outbox that a job works off. -/
def outbox? : Activity → Option Nat
  | .write _ _ outbox _ => some outbox
  | .lose _ outbox? _ => outbox?
  | _ => none

/-- What holds of a job that works off an outbox or is about to install a connection. Of
the current outbox it is more than of one that the session has let go of. -/
def Sound (s : Session) (peers : Nat) : Activity → Prop
  | .write peer generation outbox stage => outbox < s.outboxes.length ∧
      (s.outbox? = some outbox → peer < peers ∧ generation = s.generation ∧ stage ≠ .closing)
  | .lose generation (some outbox) stage => outbox < s.outboxes.length ∧
      (s.outbox? = some outbox → generation = s.generation ∧ stage = .reporting)
  | .search _ (.installing _ peer) => peer < peers
  | _ => True

variable {a : Activity} {s t : Session} {peers peers' : Nat}

/-- A session may let go of its outbox, or get a new one; of an old one nothing new is asked. -/
theorem Sound.mono (h : a.Sound s peers) (length : s.outboxes.length ≤ t.outboxes.length)
    (more : peers ≤ peers') (link : ∀ outbox < s.outboxes.length, t.outbox? = some outbox →
      s.outbox? = some outbox ∧ t.generation = s.generation) : a.Sound t peers' := by
  cases a with
  | write peer generation outbox stage =>
    obtain ⟨bound, current⟩ := h
    refine ⟨Nat.lt_of_lt_of_le bound length, fun now => ?_⟩
    obtain ⟨before, same⟩ := link outbox bound now
    obtain ⟨connected, own, goesOn⟩ := current before
    exact ⟨Nat.lt_of_lt_of_le connected more, own.trans same.symm, goesOn⟩
  | lose generation outbox? stage =>
    cases outbox? with
    | none => trivial
    | some outbox =>
      obtain ⟨bound, current⟩ := h
      refine ⟨Nat.lt_of_lt_of_le bound length, fun now => ?_⟩
      obtain ⟨before, same⟩ := link outbox bound now
      obtain ⟨own, reports⟩ := current before
      exact ⟨own.trans same.symm, reports⟩
  | search why stage =>
    cases stage with
    | installing attempt peer => exact Nat.lt_of_lt_of_le h more
    | _ => trivial
  | _ => trivial

theorem sound_of_isAside (aside : a.isAside = true) : a.Sound s peers := by
  cases a with
  | write | lose | search => cases aside
  | _ => trivial

theorem sound_of_isBefore {why : Search} {stage : SearchStage} {attempt : Nat}
    (before : stage.IsBefore attempt) : (search why stage).Sound s peers := by
  cases stage with
  | installing => cases before
  | _ => trivial

theorem sound_afterFailure (why : Search) (error : SessionError) :
    (search why (why.afterFailure error)).Sound s peers := by
  cases why <;> cases error <;> trivial

theorem outbox?_of_isAside (aside : a.isAside = true) : a.outbox? = none := by
  cases a with
  | write | lose => cases aside
  | _ => rfl

end Activity

namespace Outline

/-- What ties the jobs to the outboxes. -/
structure Staffed (k : Outline) : Prop where
  linked : k.session.Linked
  sound : ∀ j ∈ k.jobs, j.2.Sound k.session k.peers
  served : ∀ outbox, k.session.outbox? = some outbox → ∃ j ∈ k.jobs, j.2.outbox? = some outbox

/-- What a change has to keep, beside the jobs, unless it installs a connection. -/
structure Keeps (k k' : Outline) : Prop where
  linked : k'.session.Linked
  length : k.session.outboxes.length ≤ k'.session.outboxes.length
  peers : k.peers ≤ k'.peers
  link : ∀ outbox, k'.session.outbox? = some outbox →
    k.session.outbox? = some outbox ∧ k'.session.generation = k.session.generation

variable {settings : Settings} {medium : Medium} {k k' : Outline} {id : JobId} {a b : Activity}

theorem Keeps.sound (keeps : k.Keeps k') (h : a.Sound k.session k.peers) :
    a.Sound k'.session k'.peers :=
  h.mono keeps.length keeps.peers fun outbox _ => keeps.link outbox

theorem Staffed.put (st : k.Staffed) (o : k.Orderly) (live : (id, a) ∈ k.jobs)
    (keeps : k.Keeps k') (jobs : k'.jobs = (k.put id b).jobs)
    (sound : b.Sound k'.session k'.peers)
    (served : ∀ outbox, k'.session.outbox? = some outbox → a.outbox? = some outbox →
      b.outbox? = some outbox) : k'.Staffed where
  linked := keeps.linked
  sound j hj := by
    rw [jobs] at hj
    rcases mem_put.mp hj with ⟨old, -⟩ | ⟨rfl, -⟩
    · exact keeps.sound (st.sound j old)
    · exact sound
  served outbox h := by
    obtain ⟨j, hj, works⟩ := st.served outbox (keeps.link outbox h).1
    rw [jobs]
    by_cases same : j.1 = id
    · -- who works off the outbox is the job itself, which goes on doing so
      subst same
      cases o.unique hj live
      exact ⟨_, mem_put.mpr (.inr ⟨rfl, _, live⟩), served outbox h works⟩
    · exact ⟨j, mem_put.mpr (.inl ⟨hj, same⟩), works⟩

theorem Staffed.erase (st : k.Staffed) (o : k.Orderly) (live : (id, a) ∈ k.jobs)
    (keeps : k.Keeps k') (jobs : k'.jobs = (k.erase id).jobs)
    (apart : ∀ outbox, k.session.outbox? = some outbox → a.outbox? ≠ some outbox) :
    k'.Staffed where
  linked := keeps.linked
  sound j hj := by
    rw [jobs] at hj
    exact keeps.sound (st.sound j (mem_erase.mp hj).1)
  served outbox h := by
    have before := (keeps.link outbox h).1
    obtain ⟨j, hj, works⟩ := st.served outbox before
    rw [jobs]
    refine ⟨j, mem_erase.mpr ⟨hj, ?_⟩, works⟩
    rintro rfl
    cases o.unique hj live
    exact apart outbox before works

theorem Staffed.add (st : k.Staffed) (sound : a.Sound k.session k.peers) :
    (k.add a).Staffed where
  linked := st.linked
  sound j hj := by
    rcases mem_add.mp hj with old | rfl
    · exact st.sound j old
    · exact sound
  served outbox h := by
    obtain ⟨j, hj, works⟩ := st.served outbox h
    exact ⟨j, mem_add.mpr (.inl hj), works⟩

/-- Where the session stays, only the jobs matter. -/
theorem Staffed.keeps (st : k.Staffed) (session : k'.session = k.session)
    (peers : k.peers ≤ k'.peers) : k.Keeps k' where
  linked := by
    rw [session]
    exact st.linked
  length := Nat.le_of_eq (by rw [session])
  peers := peers
  link outbox h := by
    rw [session] at h ⊢
    exact ⟨h, rfl⟩

theorem Staffed.congr (st : k.Staffed) (keeps : k.Keeps k') (jobs : k'.jobs = k.jobs) :
    k'.Staffed where
  linked := keeps.linked
  sound j hj := by
    rw [jobs] at hj
    exact keeps.sound (st.sound j hj)
  served outbox h := by
    rw [jobs]
    exact st.served outbox (keeps.link outbox h).1

/-- A change that lets go of the outbox. -/
theorem keeps_of_none (linked : k'.session.Linked) (none : k'.session.outbox? = none)
    (length : k'.session.outboxes.length = k.session.outboxes.length)
    (peers : k'.peers = k.peers) : k.Keeps k' where
  linked := linked
  length := Nat.le_of_eq length.symm
  peers := Nat.le_of_eq peers.symm
  link outbox h := by
    rw [none] at h
    cases h

/-! ## Small changes -/

theorem Staffed.stir (st : k.Staffed) (o : k.Orderly) (h : k.Stir k') : k'.Staffed := by
  cases h with
  | session quiet =>
    have link := quiet.sameLink
    refine st.congr ⟨quiet.linked st.linked, Nat.le_of_eq link.length.symm, Nat.le_refl _, ?_⟩ rfl
    intro outbox h
    exact ⟨link.outbox?.symm.trans h, link.generation⟩
  | start aside => exact st.add (Activity.sound_of_isAside aside)
  | connect => exact st.add trivial
  | move live aside next =>
    refine st.put o live (st.keeps rfl (Nat.le_refl _)) rfl (Activity.sound_of_isAside next) ?_
    intro outbox _ works
    rw [Activity.outbox?_of_isAside aside] at works
    cases works
  | leave live aside =>
    refine st.erase o live (st.keeps rfl (Nat.le_refl _)) rfl fun outbox _ works => ?_
    rw [Activity.outbox?_of_isAside aside] at works
    cases works
  | note | letGo => exact st.congr (st.keeps rfl (Nat.le_refl _)) rfl
  | serve more => exact st.congr (st.keeps rfl more) rfl
  | drop =>
    refine st.congr (keeps_of_none (Session.linked_drop _) ?_ ?_ rfl) rfl
    · show k.session.drop.outbox? = none
      rw [Session.drop_eq]
    · show k.session.drop.outboxes.length = _
      rw [Session.drop_eq]
      exact Session.length_sealedBoxes _

/-! ## Who leaves an outbox behind -/

/-- Whoever ends without having brought the session to let go of its outbox works off
another one. -/
theorem Staffed.apart_of_deserts (st : k.Staffed) (live : (id, a) ∈ k.jobs)
    {outbox? : Option Nat} (h : k.Deserts a outbox?) :
    ∀ outbox, k.session.outbox? = some outbox → a.outbox? ≠ some outbox := by
  intro outbox current works
  have sound := st.sound _ live
  obtain ⟨ready, alive⟩ := st.linked.current outbox current
  cases h with
  | unknown absent =>
    cases works
    -- the current outbox exists
    obtain ⟨box, found, -⟩ := st.linked.isOpen outbox current
    rw [absent] at found
    cases found
  | unconnected absent =>
    cases works
    exact Nat.not_lt.mpr absent (sound.2 current).1
  | unneeded dropped =>
    rw [alive] at dropped
    cases dropped
  | finished =>
    cases works
    -- the writer of the current outbox has not come to its end
    exact (sound.2 current).2.2 rfl
  | ignored stale =>
    cases works
    -- a report about the current connection would have been taken in
    rcases Session.reportLoss?_eq_none_iff.mp stale with other | notReady
    · exact other (sound.2 current).1.symm
    · exact notReady ready
  | late closed =>
    rw [ready] at closed
    cases closed

theorem Deserts.outbox (h : k.Deserts a outbox?) : outbox? = none ∨ outbox? = a.outbox? := by
  cases h with
  | unknown => exact .inl rfl
  | unconnected | unneeded | finished | ignored | late => exact .inr rfl

/-- A job that has reported its loss works off another outbox. -/
theorem Staffed.apart_of_reported (st : k.Staffed) {generation : Nat} {outbox? : Option Nat}
    {stage : LossStage} (live : (id, .lose generation outbox? stage) ∈ k.jobs)
    (reported : stage ≠ .reporting) :
    ∀ outbox, k.session.outbox? = some outbox → outbox? ≠ some outbox := by
  rintro outbox current rfl
  exact reported ((st.sound _ live).2 current).2

theorem keeps_unman {outbox? : Option Nat} {s : Session}
    (linked : s.Linked) (link : s.outbox? = k.session.outbox? ∧
      s.generation = k.session.generation ∧ s.outboxes.length = k.session.outboxes.length)
    (other : ∀ outbox, k.session.outbox? = some outbox → outbox? ≠ some outbox)
    (session : k'.session = s.unman outbox?) (peers : k'.peers = k.peers) : k.Keeps k' where
  linked := by
    rw [session]
    refine linked.unman fun outbox h => other outbox ?_
    rw [← link.1]
    exact h
  length := Nat.le_of_eq (by rw [session, Session.length_unman, link.2.2])
  peers := Nat.le_of_eq peers.symm
  link outbox h := by
    rw [session, Session.unman_eq] at h ⊢
    exact ⟨link.1.symm.trans h, link.2.1⟩

/-! ## Shifts -/

theorem Staffed.move (st : k.Staffed) (o : k.Orderly) (live : (id, a) ∈ k.jobs)
    (h : k.Move id a b) : (k.put id b).Staffed := by
  have put {b : Activity} (sound : b.Sound k.session k.peers)
      (served : ∀ outbox, k.session.outbox? = some outbox → a.outbox? = some outbox →
        b.outbox? = some outbox) : (k.put id b).Staffed :=
    st.put o live (st.keeps rfl (Nat.le_refl _)) rfl sound served
  have sound := st.sound _ live
  cases h with
  | unheard => exact put trivial fun _ _ => nofun
  | unsent =>
    exact put ⟨sound.1, fun current => ⟨(sound.2 current).2.1, rfl⟩⟩ fun _ _ works => works
  | written goesOn =>
    refine put ⟨sound.1, fun current => ?_⟩ fun _ _ works => works
    exact ⟨(sound.2 current).1, (sound.2 current).2.1, goesOn⟩
  | @exhausted peer generation outbox box found done =>
    refine put ⟨sound.1, fun current => ?_⟩ fun _ _ works => works
    -- the current outbox is not sealed
    obtain ⟨box', found', isOpen⟩ := st.linked.isOpen outbox current
    rw [found] at found'
    cases found'
    rw [isOpen.unsealed] at done
    cases done
  | @disabled generation outbox? =>
    cases outbox? with
    | none => exact put trivial fun _ _ works => works
    | some outbox =>
      refine put ⟨sound.1, fun current => ?_⟩ fun _ _ works => works
      exact absurd rfl (st.apart_of_reported live nofun outbox current)
  | passed _ _ before | retried _ before =>
    exact put (Activity.sound_of_isBefore before) fun _ _ => nofun
  | untried | refused | woken | checked | failed | late => exact put trivial fun _ _ => nofun
  | outdated | declined => exact put (Activity.sound_afterFailure _ _) fun _ _ => nofun

/-- A new connection comes with a writer of its own. -/
theorem Staffed.install (st : k.Staffed) (o : k.Orderly) {why : Search} {attempt peer : Nat}
    {s : Session} (alive : k.session.isDropped = false)
    (live : (id, .search why (.installing attempt peer)) ∈ k.jobs)
    (done : k.session.install why.state k.nextJob (k.nextJob + 1) = .ok s) :
    ((((k.withSession s).add (.read peer s.generation)).add
      (.write peer s.generation k.session.outboxes.length .idle)).put id
        (.search why (.leaving none))).Staffed := by
  have connected : peer < k.peers := st.sound _ live
  have linked := Session.linked_of_installed alive done
  obtain ⟨-, rfl⟩ := Session.install_eq_ok_iff.mp done
  have grown : k.session.outboxes.length < (k.session.outboxes ++ [({} : Outbox)]).length := by
    rw [List.length_append]
    exact Nat.lt_succ_self _
  have writer : k.nextJob + 1 ≠ id := Nat.ne_of_gt (Nat.lt_succ_of_lt (o.below _ live))
  refine ⟨linked, ?_, ?_⟩
  · intro j hj
    rcases mem_put.mp hj with ⟨hj, -⟩ | ⟨rfl, -⟩
    · rcases mem_add.mp hj with hj | rfl
      · rcases mem_add.mp hj with old | rfl
        · -- the outbox of an old job is not the new one
          refine (st.sound j old).mono (Nat.le_of_lt grown) (Nat.le_refl _) ?_
          rintro outbox bound ⟨⟩
          exact absurd bound (Nat.lt_irrefl _)
        · trivial
      · exact ⟨grown, fun _ => ⟨connected, rfl, nofun⟩⟩
    · trivial
  · -- the new writer works off the new outbox
    rintro outbox ⟨⟩
    refine ⟨_, mem_put.mpr (.inl ⟨mem_add.mpr (.inr rfl), writer⟩), rfl⟩

theorem Staffed.shift (st : k.Staffed) (o : k.Orderly) (live : (id, a) ∈ k.jobs)
    (present : a.holdsSession = true → k.session.isDropped = false) (h : k.Shift id a k') :
    k'.Staffed := by
  have sound := st.sound _ live
  cases h with
  | move step => exact st.move o live step
  | desert deserts =>
    have apart := st.apart_of_deserts live deserts
    refine st.erase o live (keeps_unman st.linked ⟨rfl, rfl, rfl⟩ ?_ rfl rfl) rfl apart
    intro outbox current
    rcases deserts.outbox with none | own
    · rw [none]
      nofun
    · rw [own]
      exact apart outbox current
  | @take peer generation outbox box command rest stage found head stops =>
    have keeps : k.Keeps (k.withSession
        (k.session.modifyOutbox outbox fun o => { o with commands := rest })) :=
      ⟨st.linked.take found head, Nat.le_of_eq (List.length_modify ..).symm, Nat.le_refl _,
        fun _ h => ⟨h, rfl⟩⟩
    refine (st.congr keeps rfl).put (ofJobs_orderly.congr o rfl rfl) live
      ((st.congr keeps rfl).keeps rfl (Nat.le_refl _)) rfl ?_ fun _ _ works => works
    obtain ⟨bound, current⟩ := keeps.sound sound
    refine ⟨bound, fun now => ?_⟩
    obtain ⟨connected, own, -⟩ := current now
    refine ⟨connected, own, fun closing => ?_⟩
    -- the writer of the current outbox has not been told to stop
    obtain ⟨box', found', isOpen⟩ := st.linked.isOpen outbox now
    rw [found] at found'
    cases found'
    refine isOpen.goesOn ?_
    rw [head, stops closing]
    exact List.mem_cons_self
  | @degrade generation outbox? s lost =>
    have linked := Session.linked_of_lost lost
    obtain ⟨-, -, rfl⟩ := Session.reportLoss?_eq_some_iff.mp lost
    have keeps : k.Keeps (k.withSession _) :=
      keeps_of_none linked rfl (Session.length_sealedBoxes _) rfl
    refine st.put o live ⟨linked, keeps.length, keeps.peers, keeps.link⟩ rfl ?_ fun _ => nofun
    cases outbox? with
    | none => trivial
    | some outbox => exact ⟨(keeps.sound sound).1, nofun⟩
  | @recover generation outbox? =>
    have apart := st.apart_of_reported live nofun
    have added : (k.add (.search .again .arriving)).Staffed := st.add trivial
    exact added.erase (o.add _) (mem_add.mpr (.inl live))
      (keeps_unman st.linked ⟨rfl, rfl, rfl⟩ apart rfl rfl) rfl apart
  | close closes closed =>
    have linked := Session.linked_of_closed closed
    obtain ⟨-, rfl⟩ := Session.close?_eq_some_iff.mp closed
    have keeps : k.Keeps (k.withSession _) :=
      keeps_of_none linked rfl (Session.length_stoppedBoxes _) rfl
    refine st.put o live ⟨linked, keeps.length, keeps.peers, keeps.link⟩ rfl ?_ fun _ => nofun
    cases closes with
    | @loss generation outbox? =>
      cases outbox? with
      | none => trivial
      | some outbox => exact ⟨(keeps.sound sound).1, nofun⟩
    | search | shutdown => trivial
  | drain drains =>
    refine st.put o live ⟨st.linked.drain, Nat.le_refl _, Nat.le_refl _, fun _ h => ⟨h, rfl⟩⟩ rfl
      ?_ ?_
    · cases drains <;> trivial
    · cases drains <;> exact fun _ _ => nofun
  | @drainLoss generation outbox? =>
    have apart := st.apart_of_reported live nofun
    exact st.erase o live (keeps_unman st.linked.drain ⟨rfl, rfl, rfl⟩ apart rfl rfl) rfl apart
  | enter | queue | «open» =>
    exact st.put o live (st.keeps rfl (Nat.le_refl _)) rfl trivial fun _ _ => nofun
  | accept =>
    exact st.put o live (st.keeps rfl (Nat.le_succ _)) rfl (Nat.lt_succ_self _) fun _ _ => nofun
  | install done => exact st.install o (present rfl) live done
  | report | leave | giveUpGate =>
    have keeps := st.keeps (session_openGate k) (Nat.le_of_eq (peers_openGate k).symm)
    exact st.erase o live ⟨keeps.linked, keeps.length, keeps.peers, keeps.link⟩
      (jobs_erase_openGate k id) fun _ _ => nofun
  | giveUpPlace =>
    exact st.erase o live (st.keeps rfl (Nat.le_refl _)) rfl fun _ _ => nofun

theorem Reachable.staffed (h : Reachable settings medium k) : k.Staffed := by
  induction h with
  | start =>
    refine ⟨.of_none rfl nofun, fun _ hj => absurd hj List.not_mem_nil, ?_⟩
    rintro outbox ⟨⟩
  | stir reached stir ih => exact ih.stir reached.orderly stir
  | @shift k k' id a reached live shift ih =>
    refine ih.shift reached.orderly live (fun holds => ?_) shift
    by_contra dropped
    exact reached.not_isKept ((Bool.not_eq_false _).mp dropped) (.inr ⟨_, live, holds⟩)

end Outline

/-! ## What a caller can meet -/

/-- **A caller is refused only if the session is not ready or for an id that is outstanding.**
In every state that any run can come to, as long as anybody is left to see it, the session
is ready exactly if it has a current outbox, and the job that takes frames out of it is
alive. So a request is refused only because the session is in another state, which the
error names, or because it brings an id that is outstanding; a notification is refused only
for the first of these reasons. Nobody is told that a ready session is not ready, nobody is
told at once that the connection is closed, and whoever is refused has changed nothing. -/
theorem World.refused_only_if (settings : Settings) (medium : Medium) (events : List Event) :
    let c := (run settings medium events).client
    let s := c.session
    s.isDropped = false →
      (s.lifecycle = .ready ↔ s.outbox?.isSome = true) ∧
      (∀ outbox, s.outbox? = some outbox →
        (∃ o, s.outboxes[outbox]? = some o ∧ o.isManned = true) ∧
        ∃ job ∈ c.jobs, job.activity.outbox? = some outbox) ∧
      (∀ id? method params e, (c.request id? method params).2 = .error e →
        (c.request id? method params).1 = c ∧
        ((s.lifecycle ≠ .ready ∧ e = .notReady s.lifecycle) ∨
          ∃ id, id? = some id ∧ s.correlator.contains id = true ∧ e = .duplicateId id)) ∧
      ∀ method params e, (c.notify method params).2 = .error e →
        (c.notify method params).1 = c ∧ s.lifecycle ≠ .ready ∧ e = .notReady s.lifecycle := by
  intro c s alive
  have staffed : c.outline.Staffed := (Outline.reachable_run settings medium events).staffed
  have linked : s.Linked := staffed.linked
  have room : s.correlator.size < 2 ^ 64 :=
    Nat.lt_of_le_of_lt (size_le_mostCalls settings medium events) (by decide)
  refine ⟨linked.ready_iff alive, ?_, ?_, ?_⟩
  · intro outbox current
    obtain ⟨o, ho, isOpen⟩ := linked.isOpen outbox current
    obtain ⟨j, hj, works⟩ := staffed.served outbox current
    obtain ⟨job, hjob, rfl⟩ := List.mem_map.mp hj
    exact ⟨⟨o, ho, isOpen.manned⟩, job, hjob, works⟩
  · intro id? method params e refused
    rcases linked.request_cases alive room id? method params c.clock with
      ⟨notReady, result⟩ | ⟨id, hid, taken, result⟩ | ⟨-, sent, ticket, result⟩
    · unfold Client.request at refused ⊢
      rw [result] at refused ⊢
      cases refused
      exact ⟨rfl, .inl ⟨notReady, rfl⟩⟩
    · unfold Client.request at refused ⊢
      rw [result] at refused ⊢
      cases refused
      exact ⟨rfl, .inr ⟨id, hid, taken, rfl⟩⟩
    · unfold Client.request at refused
      rw [result] at refused
      cases refused
  · intro method params e refused
    rcases linked.notify_cases alive method params with ⟨notReady, result⟩ | ⟨-, sent, result⟩
    · unfold Client.notify at refused ⊢
      rw [result] at refused ⊢
      cases refused
      exact ⟨rfl, notReady, rfl⟩
    · unfold Client.notify at refused
      rw [result] at refused
      cases refused

/-- Once it is connected, no request is refused that brings no id. -/
theorem World.not_refused_once_connected :
    let c := (run {} .messages firstConnection).client
    c.session.isDropped = false ∧
      ∀ method params e, (c.request none method params).2 ≠ .error e := by
  refine ⟨by decide, fun method params e refused => ?_⟩
  have only := (refused_only_if {} .messages firstConnection (by decide)).2.2.1
  obtain ⟨-, ⟨notReady, -⟩ | ⟨id, hid, -⟩⟩ := only none method params e refused
  · exact notReady (by decide)
  · cases hid

end LspClient
