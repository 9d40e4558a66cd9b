import Mathlib.Algebra.BigOperators.Group.List.Basic
import Mathlib.Data.List.Nodup
import LspClient.Client.Basic

/-!
# The outline of a client

An `Outline` keeps of a client what decides about its connection: the session, the point
that each job has reached, the gate, how many attempts and connections there were, and the
results of jobs that have ended. What a client reports, what is under way to the server and
what the console holds is left out, and so is whether a job was cancelled, since a job may
go on for as long as it likes before it heeds that.

Jobs change in three ways: one is started (`add`), one reaches another point (`put`), one
ends (`erase`). For each of them two lemmas say which jobs there are afterwards (`mem_add`,
`mem_put`, `mem_erase`) and what becomes of a total over all jobs (`total_add`,
`total_put`, `total_erase`); whatever is counted below is such a total.
-/

namespace LspClient

/-- What of a client decides about its connection. -/
structure Outline where
  session : Session
  /-- The jobs that run, each with the point it has reached. -/
  jobs : List (JobId × Activity)
  nextJob : JobId
  gateHolder? : Option JobId
  gateQueue : List JobId
  /-- The attempts to connect that were begun so far. -/
  attempts : Nat
  /-- The number of connections that came of them. -/
  peers : Nat
  /-- The results of jobs that have ended. -/
  results : List (JobId × JobResult)
  isHeld : Bool

/-- The outline of a client. -/
def Client.outline (c : Client) : Outline where
  session := c.session
  jobs := c.jobs.map fun j => (j.id, j.activity)
  nextJob := c.nextJob
  gateHolder? := c.gateHolder?
  gateQueue := c.gateQueue
  attempts := c.loopback.attempts
  peers := c.loopback.peers.length
  results := c.report.finished
  isHeld := c.isHeld

namespace Outline

/-- A job reaches another point. -/
def put (k : Outline) (id : JobId) (a : Activity) : Outline :=
  { k with jobs := k.jobs.map fun j => if j.1 = id then (j.1, a) else j }

/-- A job is started. -/
def add (k : Outline) (a : Activity) : Outline :=
  { k with jobs := k.jobs ++ [(k.nextJob, a)], nextJob := k.nextJob + 1 }

/-- A job ends. -/
def erase (k : Outline) (id : JobId) : Outline :=
  { k with jobs := k.jobs.filter (·.1 != id) }

/-- The result of a job is noted. -/
def note (k : Outline) (id : JobId) (result : JobResult) : Outline :=
  { k with results := k.results ++ [(id, result)] }

/-- The session changes. -/
def withSession (k : Outline) (session : Session) : Outline := { k with session }

/-- The next search is let past the gate. -/
def openGate (k : Outline) : Outline :=
  match k.gateQueue with
  | [] => { k with gateHolder? := none }
  | next :: rest => { k with gateHolder? := some next, gateQueue := rest }

/-- Whether anybody holds the session. -/
def IsKept (k : Outline) : Prop := k.isHeld = true ∨ ∃ j ∈ k.jobs, j.2.holdsSession = true

variable {k : Outline} {id : JobId} {a b : Activity} {j : JobId × Activity}

/-! ## Which jobs there are -/

theorem mem_put : j ∈ (k.put id b).jobs ↔
    (j ∈ k.jobs ∧ j.1 ≠ id) ∨ (j = (id, b) ∧ ∃ a, (id, a) ∈ k.jobs) := by
  unfold put
  rw [List.mem_map]
  constructor
  · rintro ⟨i, hi, rfl⟩
    by_cases same : i.1 = id
    · rw [if_pos same]
      exact .inr ⟨by rw [same], i.2, by rw [← same]; exact hi⟩
    · rw [if_neg same]
      exact .inl ⟨hi, same⟩
  · rintro (⟨hj, other⟩ | ⟨rfl, a, ha⟩)
    · exact ⟨j, hj, if_neg other⟩
    · exact ⟨(id, a), ha, if_pos rfl⟩

theorem mem_add : j ∈ (k.add a).jobs ↔ j ∈ k.jobs ∨ j = (k.nextJob, a) := by
  unfold add
  rw [List.mem_append, List.mem_singleton]

theorem mem_erase : j ∈ (k.erase id).jobs ↔ j ∈ k.jobs ∧ j.1 ≠ id := by
  unfold erase
  simp

/-! ## Ids -/

/-- Every job has an id of its own, and the ids to come are new. -/
structure Orderly (k : Outline) : Prop where
  apart : (k.jobs.map Prod.fst).Nodup
  below : ∀ j ∈ k.jobs, j.1 < k.nextJob

/-- There is one job with an id. -/
theorem Orderly.unique (o : k.Orderly) (ha : (id, a) ∈ k.jobs) (hb : (id, b) ∈ k.jobs) :
    a = b :=
  congrArg Prod.snd (List.inj_on_of_nodup_map o.apart ha hb rfl)

theorem Orderly.put (o : k.Orderly) (id : JobId) (b : Activity) : (k.put id b).Orderly where
  apart := by
    have same : (k.put id b).jobs.map Prod.fst = k.jobs.map Prod.fst := by
      unfold Outline.put
      rw [List.map_map]
      refine List.map_congr_left fun j _ => ?_
      by_cases h : j.1 = id <;> simp [h]
    rw [same]
    exact o.apart
  below j hj := by
    rcases mem_put.mp hj with ⟨old, -⟩ | ⟨rfl, a, old⟩
    · exact o.below j old
    · exact o.below (id, a) old

theorem Orderly.add (o : k.Orderly) (a : Activity) : (k.add a).Orderly where
  apart := by
    show ((k.jobs ++ [(k.nextJob, a)]).map Prod.fst).Nodup
    rw [List.map_append, List.nodup_append]
    refine ⟨o.apart, List.nodup_singleton _, ?_⟩
    intro i hi n hn
    obtain ⟨j, hj, rfl⟩ := List.mem_map.mp hi
    rw [List.mem_singleton.mp hn]
    exact Nat.ne_of_lt (o.below j hj)
  below j hj := by
    show j.1 < k.nextJob + 1
    rcases mem_add.mp hj with old | rfl
    · exact Nat.lt_succ_of_lt (o.below j old)
    · exact Nat.lt_succ_self _

theorem Orderly.erase (o : k.Orderly) (id : JobId) : (k.erase id).Orderly where
  apart := o.apart.sublist (List.filter_sublist.map _)
  below j hj := o.below j (mem_erase.mp hj).1

/-! ## Jobs that are not concerned -/

theorem mem_put_iff (o : k.Orderly) (live : (id, a) ∈ k.jobs) (ha : j.2 ≠ a) (hb : j.2 ≠ b) :
    j ∈ (k.put id b).jobs ↔ j ∈ k.jobs := by
  rw [mem_put]
  constructor
  · rintro (⟨old, -⟩ | ⟨rfl, -⟩)
    · exact old
    · exact absurd rfl hb
  · intro old
    refine .inl ⟨old, ?_⟩
    rintro rfl
    exact ha (o.unique old live)

theorem mem_erase_iff (o : k.Orderly) (live : (id, a) ∈ k.jobs) (ha : j.2 ≠ a) :
    j ∈ (k.erase id).jobs ↔ j ∈ k.jobs := by
  rw [mem_erase]
  refine ⟨fun h => h.1, fun old => ⟨old, ?_⟩⟩
  rintro rfl
  exact ha (o.unique old live)

theorem mem_add_iff (ha : j.2 ≠ a) : j ∈ (k.add a).jobs ↔ j ∈ k.jobs := by
  rw [mem_add]
  refine ⟨fun h => h.resolve_right ?_, .inl⟩
  rintro rfl
  exact ha rfl

/-! ## Totals -/

/-- What is counted over all jobs. -/
def total (k : Outline) (f : Activity → Nat) : Nat := (k.jobs.map fun j => f j.2).sum

theorem total_add (f : Activity → Nat) : (k.add a).total f = k.total f + f a := by
  unfold total add
  rw [List.map_append, List.sum_append]
  simp

/-- Over a list in which an id occurs once, what is counted for that id can be exchanged. -/
private theorem sum_put (f : Activity → Nat) (b : Activity) :
    ∀ jobs : List (JobId × Activity), (jobs.map Prod.fst).Nodup → (id, a) ∈ jobs →
      ((jobs.map fun j => if j.1 = id then (j.1, b) else j).map fun j => f j.2).sum + f a =
        (jobs.map fun j => f j.2).sum + f b
  | [], _, h => absurd h List.not_mem_nil
  | first :: rest, apart, h => by
    rw [List.map_cons, List.nodup_cons] at apart
    simp only [List.map_cons, List.sum_cons]
    rcases List.mem_cons.mp h with rfl | later
    · -- the id does not occur again, so the rest stays as it is
      have stays : (rest.map fun j => if j.1 = id then (j.1, b) else j) = rest := by
        refine (List.map_congr_left fun j hj => ?_).trans (List.map_id rest)
        exact if_neg fun same => apart.1 (List.mem_map.mpr ⟨j, hj, same⟩)
      rw [stays]
      simp only [if_true]
      omega
    · have other : first.1 ≠ id := fun same =>
        apart.1 (List.mem_map.mpr ⟨(id, a), later, same.symm⟩)
      have ih := sum_put f b rest apart.2 later
      rw [if_neg other]
      omega

private theorem sum_erase (f : Activity → Nat) :
    ∀ jobs : List (JobId × Activity), (jobs.map Prod.fst).Nodup → (id, a) ∈ jobs →
      ((jobs.filter (·.1 != id)).map fun j => f j.2).sum + f a = (jobs.map fun j => f j.2).sum
  | [], _, h => absurd h List.not_mem_nil
  | first :: rest, apart, h => by
    rw [List.map_cons, List.nodup_cons] at apart
    simp only [List.map_cons, List.sum_cons]
    rcases List.mem_cons.mp h with rfl | later
    · have stays : rest.filter (·.1 != id) = rest := by
        refine List.filter_eq_self.mpr fun j hj => ?_
        exact bne_iff_ne.mpr fun same => apart.1 (List.mem_map.mpr ⟨j, hj, same⟩)
      rw [List.filter_cons_of_neg (by simp), stays, Nat.add_comm]
    · have other : first.1 ≠ id := fun same =>
        apart.1 (List.mem_map.mpr ⟨(id, a), later, same.symm⟩)
      have ih := sum_erase f rest apart.2 later
      rw [List.filter_cons, if_pos (bne_iff_ne.mpr other), List.map_cons, List.sum_cons]
      omega

theorem total_put (o : k.Orderly) (live : (id, a) ∈ k.jobs) (b : Activity) (f : Activity → Nat) :
    (k.put id b).total f + f a = k.total f + f b :=
  sum_put f b k.jobs o.apart live

theorem total_erase (o : k.Orderly) (live : (id, a) ∈ k.jobs) (f : Activity → Nat) :
    (k.erase id).total f + f a = k.total f :=
  sum_erase f k.jobs o.apart live

/-- Two jobs are started before one goes on. -/
theorem total_add_add_put (o : k.Orderly) (live : (id, a) ∈ k.jobs) (first second b : Activity)
    (f : Activity → Nat) : (((k.add first).add second).put id b).total f + f a =
      k.total f + f first + f second + f b := by
  have still : (id, a) ∈ ((k.add first).add second).jobs :=
    mem_add.mpr (.inl (mem_add.mpr (.inl live)))
  rw [total_put ((o.add first).add second) still b f, total_add, total_add]

/-- One job counts for no more than all of them. -/
theorem le_total (o : k.Orderly) (live : (id, a) ∈ k.jobs) (f : Activity → Nat) :
    f a ≤ k.total f := by
  rw [← total_erase o live f]
  exact Nat.le_add_left ..

/-- If two different jobs count, their sum counts. -/
theorem add_le_total (o : k.Orderly) {other : JobId} (ha : (id, a) ∈ k.jobs)
    (hb : (other, b) ∈ k.jobs) (apart : other ≠ id) (f : Activity → Nat) :
    f a + f b ≤ k.total f := by
  have rest : f b ≤ (k.erase id).total f :=
    le_total (o.erase id) (mem_erase.mpr ⟨hb, apart⟩) f
  have := total_erase o ha f
  omega

theorem total_congr {k k' : Outline} (h : k'.jobs = k.jobs) (f : Activity → Nat) :
    k'.total f = k.total f := by
  unfold total
  rw [h]

/-- What counts is there. -/
theorem exists_of_total_pos {f : Activity → Nat} (h : 0 < k.total f) :
    ∃ j ∈ k.jobs, 0 < f j.2 := by
  by_contra none
  have zero : k.total f = 0 := by
    refine List.sum_eq_zero fun n hn => ?_
    obtain ⟨j, hj, rfl⟩ := List.mem_map.mp hn
    exact Nat.eq_zero_of_not_pos fun pos => none ⟨j, hj, pos⟩
  omega

/-- What counts at most `n` times as much for every job does so in total. -/
theorem total_le_mul {f g : Activity → Nat} {n : Nat} (h : ∀ a, f a ≤ n * g a) (k : Outline) :
    k.total f ≤ n * k.total g := by
  unfold total
  induction k.jobs with
  | nil => exact Nat.zero_le _
  | cons first rest ih =>
    simp only [List.map_cons, List.sum_cons, Nat.mul_add]
    exact Nat.add_le_add (h first.2) ih

end Outline

end LspClient
