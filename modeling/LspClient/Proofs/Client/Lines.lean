import LspClient.Proofs.Client.Gate
import LspClient.Proofs.Client.Outbound

/-!
# Each connection has a line of its own

A connection that is installed gets a peer, an outbox and a writer: its line. `Lines` says
of a list of peers that it names those of all connections so far, in the order of their
outboxes. No peer serves two connections, since every attempt that succeeds comes to a new
one and only one search at a time is past the gate; and a writer keeps its peer and its
outbox for as long as it lives, so that no line is ever crossed with another.
-/

namespace LspClient

namespace Outline

variable {k k' : Outline} {id other : JobId} {a b : Activity} {opened : List Nat}
  {peer generation outbox : Nat} {stage : WriteStage}

/-! ## Writers, and searches that are about to install -/

/-- The peer of the connection that a job at this point installs at its next step. -/
def opens (k : Outline) : Activity → List Nat
  | .search why (.installing _ peer) => if k.session.lifecycle = why.state then [peer] else []
  | _ => []

theorem Stir.mem_write (h : k.Stir k')
    (hj : (other, .write peer generation outbox stage) ∈ k'.jobs) :
    (other, .write peer generation outbox stage) ∈ k.jobs := by
  rcases h.mem_cases hj with old | aside | first
  · exact old
  · cases aside
  · cases first

theorem Stir.mem_installing (h : k.Stir k') {why : Search} {attempt : Nat}
    (hj : (other, .search why (.installing attempt peer)) ∈ k'.jobs) :
    (other, .search why (.installing attempt peer)) ∈ k.jobs := by
  rcases h.mem_cases hj with old | aside | first
  · exact old
  · cases aside
  · cases first

theorem Move.write_eq (h : k.Move id a (.write peer generation outbox stage)) :
    ∃ before, a = .write peer generation outbox before := by
  cases h with
  | written => exact ⟨_, rfl⟩
  | exhausted => exact ⟨_, rfl⟩

/-- A writer keeps its line, and only an installation brings a new one. -/
theorem Shift.write_cases (h : k.Shift id a k') (live : (id, a) ∈ k.jobs)
    (hj : (other, .write peer generation outbox stage) ∈ k'.jobs) :
    (∃ before, (other, .write peer generation outbox before) ∈ k.jobs) ∨
      peer ∈ k.opens a ∧ outbox = k.session.outboxes.length ∧ other = k.nextJob + 1 := by
  have put {m : Outline} {b : Activity} (hj : (other, .write peer generation outbox stage) ∈
      (m.put id b).jobs) : (other, .write peer generation outbox stage) ∈ m.jobs ∨
        other = id ∧ b = .write peer generation outbox stage := by
    rcases mem_put.mp hj with ⟨old, -⟩ | ⟨same, -⟩
    · exact .inl old
    · cases same
      exact .inr ⟨rfl, rfl⟩
  cases h with
  | move step =>
    rcases put hj with old | ⟨rfl, rfl⟩
    · exact .inl ⟨stage, old⟩
    · obtain ⟨before, rfl⟩ := step.write_eq
      exact .inl ⟨before, live⟩
  | take =>
    rcases put hj with old | ⟨rfl, same⟩
    · exact .inl ⟨stage, old⟩
    · cases same
      exact .inl ⟨_, live⟩
  | desert | drainLoss | giveUpPlace => exact .inl ⟨stage, (mem_erase.mp hj).1⟩
  | recover =>
    have kept : (other, _) ∈ (k.add (.search .again .arriving)).jobs := (mem_erase.mp hj).1
    rcases mem_add.mp kept with old | same
    · exact .inl ⟨stage, old⟩
    · cases same
  | degrade | enter | queue | «open» | accept =>
    rcases put hj with old | ⟨-, same⟩
    · exact .inl ⟨stage, old⟩
    · cases same
  | close closes =>
    rcases put hj with old | ⟨-, rfl⟩
    · exact .inl ⟨stage, old⟩
    · cases closes
  | drain drains =>
    rcases put hj with old | ⟨-, rfl⟩
    · exact .inl ⟨stage, old⟩
    · cases drains
  | @install why attempt peer' s done =>
    rcases put hj with added | ⟨-, same⟩
    · rcases mem_add.mp added with read | same
      · have read : (other, _) ∈ (k.add (.read peer' s.generation)).jobs := read
        rcases mem_add.mp read with old | same
        · exact .inl ⟨stage, old⟩
        · cases same
      · cases same
        refine .inr ⟨?_, rfl, rfl⟩
        show peer ∈ if k.session.lifecycle = why.state then [peer] else []
        rw [if_pos (Session.install_eq_ok_iff.mp done).1]
        exact List.mem_singleton.mpr rfl
    · cases same
  | report | leave | giveUpGate =>
    have old : (other, _) ∈ k.openGate.jobs := (mem_erase.mp hj).1
    rw [jobs_openGate] at old
    exact .inl ⟨stage, old⟩

theorem Move.not_installing {why : Search} {attempt : Nat} :
    ¬ k.Move id a (.search why (.installing attempt peer)) := by
  intro h
  have failure {why' : Search} {error : SessionError}
      (same : why'.afterFailure error = .installing attempt peer) : False := by
    cases why' <;> cases error <;> cases same
  generalize target : Activity.search why (.installing attempt peer) = b at h
  cases h with
  | passed _ _ before | retried _ before =>
    cases target
    exact before
  | outdated | declined =>
    obtain ⟨-, same⟩ := Activity.search.inj target
    exact failure same.symm
  | _ => cases target

/-- A search that is about to install was so before, or it has just come to a new peer. -/
theorem Shift.installing_cases (h : k.Shift id a k') {why : Search} {attempt : Nat}
    (hj : (other, .search why (.installing attempt peer)) ∈ k'.jobs) :
    (other, .search why (.installing attempt peer)) ∈ k.jobs ∧ other ≠ id ∨ peer = k.peers := by
  have put {m : Outline} {b : Activity} (hj : (other, .search why (.installing attempt peer)) ∈
      (m.put id b).jobs) : (other, .search why (.installing attempt peer)) ∈ m.jobs ∧ other ≠ id ∨
        b = .search why (.installing attempt peer) := by
    rcases mem_put.mp hj with old | ⟨same, -⟩
    · exact .inl old
    · exact .inr (congrArg Prod.snd same).symm
  cases h with
  | move step =>
    rcases put hj with old | rfl
    · exact .inl old
    · exact absurd step Move.not_installing
  | accept =>
    rcases put hj with old | same
    · exact .inl old
    · cases same
      exact .inr rfl
  | desert | drainLoss | giveUpPlace => exact .inl (mem_erase.mp hj)
  | recover =>
    obtain ⟨kept, apart⟩ := mem_erase.mp hj
    have kept : (other, _) ∈ (k.add (.search .again .arriving)).jobs := kept
    rcases mem_add.mp kept with old | same
    · exact .inl ⟨old, apart⟩
    · cases same
  | take | degrade | enter | queue | «open» =>
    rcases put hj with old | same
    · exact .inl old
    · cases same
  | close closes =>
    rcases put hj with old | rfl
    · exact .inl old
    · cases closes
  | drain drains =>
    rcases put hj with old | rfl
    · exact .inl old
    · cases drains
  | @install why attempt peer' s done =>
    rcases put hj with ⟨added, apart⟩ | same
    · rcases mem_add.mp added with read | same
      · have read : (other, _) ∈ (k.add (.read peer' s.generation)).jobs := read
        rcases mem_add.mp read with old | same
        · exact .inl ⟨old, apart⟩
        · cases same
      · cases same
    · cases same
  | report | leave | giveUpGate =>
    obtain ⟨kept, apart⟩ := mem_erase.mp hj
    have old : (other, _) ∈ k.openGate.jobs := kept
    rw [jobs_openGate] at old
    exact .inl ⟨old, apart⟩

/-! ## Lines -/

/-- These are the peers of all connections so far, in the order of their outboxes. -/
structure Lines (k : Outline) (opened : List Nat) : Prop where
  length : opened.length = k.session.outboxes.length
  /-- No two connections go to one peer. -/
  apart : opened.Nodup
  known : ∀ peer ∈ opened, peer < k.peers
  /-- What is about to be installed is not yet. -/
  fresh : ∀ id why attempt peer, (id, .search why (.installing attempt peer)) ∈ k.jobs →
    peer ∉ opened
  /-- A writer works off the outbox of its own connection. -/
  writes : ∀ id peer generation outbox stage,
    (id, .write peer generation outbox stage) ∈ k.jobs → opened[outbox]? = some peer
  /-- No two writers work off one outbox. -/
  single : ∀ id other peer peer' generation generation' outbox stage stage',
    (id, .write peer generation outbox stage) ∈ k.jobs →
    (other, .write peer' generation' outbox stage') ∈ k.jobs → id = other

theorem Lines.inside (h : k.Lines opened)
    (live : (id, .write peer generation outbox stage) ∈ k.jobs) :
    outbox < k.session.outboxes.length := by
  rw [← h.length]
  exact (List.getElem?_eq_some_iff.mp (h.writes _ _ _ _ _ live)).1

/-- As long as no connection is installed, it is enough that writers keep their lines. -/
theorem Lines.keep (h : k.Lines opened)
    (length : k'.session.outboxes.length = k.session.outboxes.length) (peers : k.peers ≤ k'.peers)
    (fresh : ∀ id why attempt peer, (id, .search why (.installing attempt peer)) ∈ k'.jobs →
      peer ∉ opened)
    (writes : ∀ id peer generation outbox stage,
      (id, .write peer generation outbox stage) ∈ k'.jobs →
      ∃ before, (id, .write peer generation outbox before) ∈ k.jobs) : k'.Lines opened where
  length := h.length.trans length.symm
  apart := h.apart
  known peer member := Nat.lt_of_lt_of_le (h.known peer member) peers
  fresh := fresh
  writes id peer generation outbox stage live := by
    obtain ⟨before, live⟩ := writes id peer generation outbox stage live
    exact h.writes _ _ _ _ _ live
  single id other peer peer' generation generation' outbox stage stage' live live' := by
    obtain ⟨before, live⟩ := writes id peer generation outbox stage live
    obtain ⟨before', live'⟩ := writes other peer' generation' outbox stage' live'
    exact h.single _ _ _ _ _ _ _ _ _ live live'

theorem Stir.length_outboxes (h : k.Stir k') :
    k'.session.outboxes.length = k.session.outboxes.length := by
  rcases h.session_cases with same | quiet | ⟨-, dropped⟩
  · rw [same]
  · exact quiet.sameLink.length
  · rw [dropped, Session.drop_eq]
    exact Session.length_sealedBoxes _

theorem Stir.peers_le (h : k.Stir k') : k.peers ≤ k'.peers := by
  cases h with
  | serve more => exact more
  | _ => exact Nat.le_refl _

theorem Lines.stir (h : k.Lines opened) (stir : k.Stir k') : k'.Lines opened :=
  h.keep stir.length_outboxes stir.peers_le
    (fun _ _ _ _ live => h.fresh _ _ _ _ (stir.mem_installing live))
    fun _ _ _ _ _ live => ⟨_, stir.mem_write live⟩

theorem Lines.stirs (h : k.Lines opened) (stirs : k.Stirs k') : k'.Lines opened := by
  induction stirs with
  | refl => exact h
  | tail _ last ih => exact ih.stir last

/-- Unless a connection is installed, there are as many outboxes as before. -/
theorem Shift.length_outboxes (h : k.Shift id a k') (nothing : k.opens a = []) :
    k'.session.outboxes.length = k.session.outboxes.length ∧ k.peers ≤ k'.peers := by
  cases h with
  | install done =>
    have none : (if _ then [_] else []) = [] := nothing
    rw [if_pos (Session.install_eq_ok_iff.mp done).1] at none
    cases none
  | move | enter | queue | «open» | giveUpPlace | drain => exact ⟨rfl, Nat.le_refl _⟩
  | accept => exact ⟨rfl, Nat.le_succ _⟩
  | desert | recover | drainLoss => exact ⟨Session.length_unman .., Nat.le_refl _⟩
  | take => exact ⟨List.length_modify .., Nat.le_refl _⟩
  | degrade lost =>
    obtain ⟨-, -, rfl⟩ := Session.reportLoss?_eq_some_iff.mp lost
    exact ⟨Session.length_sealedBoxes _, Nat.le_refl _⟩
  | close _ closed =>
    obtain ⟨-, rfl⟩ := Session.close?_eq_some_iff.mp closed
    exact ⟨Session.length_stoppedBoxes _, Nat.le_refl _⟩
  | report | leave | giveUpGate =>
    refine ⟨?_, ?_⟩
    · show k.openGate.session.outboxes.length = _
      rw [session_openGate]
    · exact Nat.le_of_eq (peers_openGate k).symm

/-- What opens a connection is a search that is about to install one and may do so. -/
theorem opens_eq_cons (some : k.opens a ≠ []) : ∃ why attempt peer,
    a = .search why (.installing attempt peer) ∧ k.session.lifecycle = why.state ∧
      k.opens a = [peer] := by
  unfold opens at some ⊢
  split at some
  · next why attempt peer =>
    split at some
    · next expected => exact ⟨why, attempt, peer, rfl, expected, if_pos expected⟩
    · exact absurd rfl some
  · exact absurd rfl some

/-- A search that may install a connection does so. -/
theorem Shift.installs {why : Search} {attempt : Nat}
    (h : k.Shift id (.search why (.installing attempt peer)) k')
    (expected : k.session.lifecycle = why.state) :
    k'.session.outboxes.length = k.session.outboxes.length + 1 ∧ k'.peers = k.peers := by
  cases h with
  | install done =>
    obtain ⟨-, rfl⟩ := Session.install_eq_ok_iff.mp done
    exact ⟨List.length_append, rfl⟩
  | move step =>
    cases step with
    | declined other => exact absurd expected other
  | desert deserts => cases deserts
  | close closes => cases closes
  | drain drains => cases drains
  | giveUpGate waits | giveUpPlace waits => cases waits

/-- A connection that is installed gets a line of its own. -/
theorem Lines.install (h : k.Lines opened) (g : k.Gated) (st : k.Staffed) {why : Search}
    {attempt : Nat} (live : (id, .search why (.installing attempt peer)) ∈ k.jobs)
    (expected : k.session.lifecycle = why.state)
    (shift : k.Shift id (.search why (.installing attempt peer)) k') :
    k'.Lines (opened ++ [peer]) := by
  obtain ⟨length, peers⟩ := shift.installs expected
  have accepted : peer < k.peers := st.sound _ live
  have unused : peer ∉ opened := h.fresh _ _ _ _ live
  have known : ∀ p ∈ opened ++ [peer], p < k.peers := by
    intro p member
    rcases List.mem_append.mp member with old | new
    · exact h.known p old
    · rw [List.mem_singleton.mp new]
      exact accepted
  constructor
  · rw [List.length_append, length, h.length]
    rfl
  · refine List.nodup_append.mpr ⟨h.apart, List.nodup_singleton _, fun p old q new => ?_⟩
    rw [List.mem_singleton.mp new]
    exact fun same => unused (same ▸ old)
  · rw [peers]
    exact known
  · -- nobody else is past the gate, so no other connection is about to be installed
    intro other why' attempt' peer' hj
    rcases shift.installing_cases hj with ⟨old, apart⟩ | rfl
    · exact absurd (g.one_past_gate old live rfl rfl) apart
    · exact fun member => Nat.lt_irrefl _ (known _ member)
  · intro other p generation outbox stage hj
    rcases shift.write_cases live hj with ⟨before, old⟩ | ⟨new, rfl, -⟩
    · have writes := h.writes _ _ _ _ _ old
      rw [List.getElem?_append_left (List.getElem?_eq_some_iff.mp writes).1]
      exact writes
    · have one : k.opens (.search why (.installing attempt peer)) = [peer] := if_pos expected
      rw [one] at new
      rw [← h.length, List.getElem?_concat_length, List.mem_singleton.mp new]
  · -- the new writer works off an outbox that no old one knows
    intro first second p p' generation generation' outbox stage stage' hj hj'
    rcases shift.write_cases live hj with ⟨before, old⟩ | ⟨-, new, own⟩
    · rcases shift.write_cases live hj' with ⟨before', old'⟩ | ⟨-, new', -⟩
      · exact h.single _ _ _ _ _ _ _ _ _ old old'
      · exact absurd new' (Nat.ne_of_lt (h.inside old))
    · rcases shift.write_cases live hj' with ⟨before', old'⟩ | ⟨-, -, own'⟩
      · exact absurd new (Nat.ne_of_lt (h.inside old'))
      · exact own.trans own'.symm

theorem Lines.shift (h : k.Lines opened) (g : k.Gated) (st : k.Staffed) (live : (id, a) ∈ k.jobs)
    (shift : k.Shift id a k') : k'.Lines (opened ++ k.opens a) := by
  by_cases nothing : k.opens a = []
  · obtain ⟨length, peers⟩ := shift.length_outboxes nothing
    rw [nothing, List.append_nil]
    refine h.keep length peers (fun other why attempt peer hj => ?_)
      fun other peer generation outbox stage hj => ?_
    · rcases shift.installing_cases hj with old | rfl
      · exact h.fresh _ _ _ _ old.1
      · exact fun member => Nat.lt_irrefl _ (h.known _ member)
    · rcases shift.write_cases live hj with old | ⟨new, -⟩
      · exact old
      · rw [nothing] at new
        exact absurd new List.not_mem_nil
  · obtain ⟨why, attempt, peer, rfl, expected, one⟩ := opens_eq_cons nothing
    rw [one]
    exact h.install g st live expected shift

theorem lines_start (settings : Settings) (medium : Medium) :
    (Client.create settings medium).outline.Lines [] where
  length := rfl
  apart := List.nodup_nil
  known _ member := absurd member List.not_mem_nil
  fresh _ _ _ _ live := absurd live List.not_mem_nil
  writes _ _ _ _ _ live := absurd live List.not_mem_nil
  single _ _ _ _ _ _ _ _ _ live := absurd live List.not_mem_nil

end Outline

end LspClient
