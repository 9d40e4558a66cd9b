import Mathlib.Order.Bounds.Defs
import LspClient.Proofs.Session.Fresh

/-!
# The number that a request gets

A request that brings no id looks at one number after another, as far as it takes, and gets the
first that no outstanding call has. `Correlator.Finds` is that search without a bound;
`finds_freshId` says that it comes to an end and to which number. `isLeast_freshId`: if any
number from the counter on is free, the one that is found is the least of those. Ids that are
strings are never in the way (`freshId_numbered`).
-/

namespace LspClient

namespace Correlator

open Session (add_one_add_ofNat)

/-- The search for a number from `start` on that is free: `skipped` ones are not, and the next
one is what is found. -/
inductive Finds (c : Correlator) : Int64 → Nat → Int64 → Prop
  | free {start : Int64} (free : c.contains (.number start) = false) : Finds c start 0 start
  | taken {start found : Int64} {skipped : Nat} (taken : c.contains (.number start) = true)
      (rest : Finds c (start + 1) skipped found) : Finds c start (skipped + 1) found

/-- The numbers from `start` on that no outstanding call has. -/
def freeFrom (c : Correlator) (start : Int64) : Set Int64 :=
  {n | start ≤ n ∧ c.contains (.number n) = false}

/-- The outstanding calls whose ids are numbers. -/
def numbered (c : Correlator) : Correlator :=
  { c with pending := c.pending.filter fun call => call.id matches .number _ }

variable {c : Correlator} {start found other : Int64} {skipped more : Nat}

/-- A search looks at the numbers in turn: those before the last are taken, and the last is
free. -/
theorem finds_iff : c.Finds start skipped found ↔ found = start + Int64.ofNat skipped ∧
    (∀ i < skipped, c.contains (.number (start + Int64.ofNat i)) = true) ∧
    c.contains (.number found) = false := by
  constructor
  · intro finds
    induction finds with
    | @free start free =>
      exact ⟨(Int64.add_zero start).symm, fun i before => absurd before (Nat.not_lt_zero i), free⟩
    | @taken start found skipped taken rest ih =>
      obtain ⟨same, between, free⟩ := ih
      refine ⟨same.trans (add_one_add_ofNat start skipped), fun i before => ?_, free⟩
      cases i with
      | zero => exact (Int64.add_zero start).symm ▸ taken
      | succ i => exact add_one_add_ofNat start i ▸ between i (Nat.lt_of_succ_lt_succ before)
  · rintro ⟨rfl, between, free⟩
    induction skipped generalizing start with
    | zero =>
      have same : start + Int64.ofNat 0 = start := Int64.add_zero start
      rw [same] at free ⊢
      exact .free free
    | succ skipped ih =>
      rw [← add_one_add_ofNat] at free ⊢
      refine .taken ?_ (ih (fun i before => ?_) free)
      · exact Int64.add_zero start ▸ between 0 (Nat.succ_pos skipped)
      · exact (add_one_add_ofNat start i).symm ▸ between (i + 1) (Nat.succ_lt_succ before)

/-- A search comes to one end only. -/
theorem Finds.unique (h : c.Finds start skipped found) (h' : c.Finds start more other) :
    skipped = more ∧ found = other := by
  induction h generalizing more other with
  | free free =>
    cases h' with
    | free => exact ⟨rfl, rfl⟩
    | taken taken => rw [free] at taken; cases taken
  | taken taken _ ih =>
    cases h' with
    | free free => rw [free] at taken; cases taken
    | taken _ rest =>
      obtain ⟨rfl, rfl⟩ := ih rest
      exact ⟨rfl, rfl⟩

/-- A search depends on nothing but the numbers that are taken. -/
theorem Finds.congr {d : Correlator}
    (same : ∀ n, d.contains (.number n) = c.contains (.number n))
    (h : c.Finds start skipped found) : d.Finds start skipped found := by
  rw [finds_iff] at h ⊢
  simpa only [same] using h

@[simp] theorem contains_numbered (c : Correlator) (n : Int64) :
    c.numbered.contains (.number n) = c.contains (.number n) := by
  refine Bool.eq_iff_iff.mpr ?_
  rw [contains_iff, contains_iff]
  constructor
  · rintro ⟨call, member, own⟩
    exact ⟨call, (List.mem_filter.mp member).1, own⟩
  · rintro ⟨call, member, own⟩
    refine ⟨call, List.mem_filter.mpr ⟨member, ?_⟩, own⟩
    rw [own]

end Correlator

namespace Session

variable {s : Session}

/-! ## Counting on in words -/

/-- Counting on from a number does not leave the order as long as it stays below 2^63. -/
theorem toInt_add_ofNat {n : Int64} {i : Nat} (fits : n.toInt + i < 2 ^ 63) :
    (n + Int64.ofNat i).toInt = n.toInt + i := by
  have least := n.le_toInt
  have size : Int64.size = 2 ^ 64 := rfl
  rw [Int64.toInt_add, Int64.toInt_ofNat', size, Int.add_bmod_bmod]
  exact Int.bmod_eq_of_le (by omega) (by omega)

theorem one_le_ofNat_succ {n : Nat} (fits : n + 1 < 2 ^ 63) : 1 ≤ Int64.ofNat (n + 1) :=
  (Int64.ofNat_le_iff_le (by decide) fits).mpr (Nat.succ_pos n)

/-- Every number from another one on is reached from there. -/
theorem exists_eq_add_ofNat {n m : Int64} (le : n ≤ m) :
    ∃ i : Nat, m = n + Int64.ofNat i ∧ m.toInt = n.toInt + i := by
  have order := Int64.le_iff_toInt_le.mp le
  have small := m.toInt_lt
  refine ⟨(m.toInt - n.toInt).toNat, ?_, by omega⟩
  apply Int64.toInt_inj.mp
  rw [toInt_add_ofNat (by omega)]
  omega

/-! ## The fresh id -/

/-- The search comes to an end, and what it finds is the fresh id. -/
theorem finds_freshId (room : s.correlator.size < 2 ^ 64) :
    ∃ skipped, s.correlator.Finds s.nextId skipped s.freshId := by
  obtain ⟨skipped, -, found, between⟩ := s.freshFrom_eq (s.correlator.size + 1) s.nextId
  exact ⟨skipped, Correlator.finds_iff.mpr ⟨found, between, freshId_free room⟩⟩

/-- If any number from the counter on is free, the fresh id is the least of those. -/
theorem isLeast_freshId (room : s.correlator.size < 2 ^ 64)
    (some : (s.correlator.freeFrom s.nextId).Nonempty) :
    IsLeast (s.correlator.freeFrom s.nextId) s.freshId := by
  obtain ⟨skipped, finds⟩ := finds_freshId room
  obtain ⟨found, between, free⟩ := Correlator.finds_iff.mp finds
  -- no number that is free comes before the one that is found
  have fewest {m : Int64} {i : Nat} (at_i : m = s.nextId + Int64.ofNat i)
      (free : s.correlator.contains (.number m) = false) : skipped ≤ i := by
    by_contra before
    rw [at_i, between i (Nat.lt_of_not_le before)] at free
    cases free
  have value {m : Int64} (member : m ∈ s.correlator.freeFrom s.nextId) :
      s.freshId.toInt = s.nextId.toInt + skipped ∧ s.freshId ≤ m := by
    obtain ⟨i, at_i, distance⟩ := exists_eq_add_ofNat member.1
    have few := fewest at_i member.2
    have below := m.toInt_lt
    have value : s.freshId.toInt = s.nextId.toInt + skipped := by
      rw [found]
      exact toInt_add_ofNat (by omega)
    exact ⟨value, Int64.le_iff_toInt_le.mpr (by omega)⟩
  obtain ⟨m, member⟩ := some
  refine ⟨⟨Int64.le_iff_toInt_le.mpr ?_, free⟩, fun other hother => (value hother).2⟩
  have := (value member).1
  omega

/-- Ids that are strings are never in the way of a fresh one. -/
theorem freshId_numbered (room : s.correlator.size < 2 ^ 64) :
    ({ s with correlator := s.correlator.numbered } : Session).freshId = s.freshId := by
  let t : Session := { s with correlator := s.correlator.numbered }
  have fewer : t.correlator.size ≤ s.correlator.size := List.length_filter_le ..
  obtain ⟨skipped, finds⟩ := finds_freshId room
  obtain ⟨more, finds'⟩ := finds_freshId (s := t) (Nat.lt_of_le_of_lt fewer room)
  exact (finds'.unique (finds.congr s.correlator.contains_numbered)).2

/-- A request that brings no id is always registered: under the fresh id, behind all other
entries, and the counter goes past it. -/
theorem register_fresh (room : s.correlator.size < 2 ^ 64) (method : String) (now : Nat) :
    s.register none method now =
      .ok ({ s with
              correlator :=
                { pending := s.correlator.pending ++
                    [⟨.number s.freshId, s.correlator.nextSerial, method, now⟩]
                  deliveries := s.correlator.deliveries ++ [.waiting] }
              nextId := s.freshId + 1 },
        ⟨.number s.freshId, s.correlator.nextSerial, method⟩) := by
  unfold register Correlator.register
  simp only [bind, Except.bind, pure, Except.pure, freshId_free room]
  rfl

/-- What a request that brings no id gets from a session that has generated so many numbers. -/
structure Allocates (s : Session) (generated : Nat) : Prop where
  /-- The request is registered under the fresh id: one entry more is in the table, all others
  are as before, and the counter goes past the id. -/
  registers : ∀ method now, s.register none method now =
    .ok ({ s with
            correlator :=
              { pending := s.correlator.pending ++
                  [⟨.number s.freshId, s.correlator.nextSerial, method, now⟩]
                deliveries := s.correlator.deliveries ++ [.waiting] }
            nextId := s.freshId + 1 },
      ⟨.number s.freshId, s.correlator.nextSerial, method⟩)
  /-- The search for the id comes to an end. Unless 2^63 numbers are generated with it, those
  that are skipped included, what it finds is the least number from the counter on that is
  free, and it is positive. -/
  finds : ∃ skipped, s.correlator.Finds s.nextId skipped s.freshId ∧
    (generated + skipped + 1 < 2 ^ 63 →
      1 ≤ s.nextId ∧ IsLeast (s.correlator.freeFrom s.nextId) s.freshId)
  /-- So it is in any case if there is such a number. -/
  least : (s.correlator.freeFrom s.nextId).Nonempty →
    IsLeast (s.correlator.freeFrom s.nextId) s.freshId
  /-- Without the calls whose ids are strings the same number would be found. -/
  strings : ({ s with correlator := s.correlator.numbered } : Session).freshId = s.freshId

theorem allocates {generated : Nat} (room : s.correlator.size < 2 ^ 64)
    (counter : s.nextId = Int64.ofNat (generated + 1)) : s.Allocates generated where
  registers := register_fresh room
  finds := by
    obtain ⟨skipped, finds⟩ := finds_freshId room
    refine ⟨skipped, finds, fun few => ?_⟩
    obtain ⟨found, -, free⟩ := Correlator.finds_iff.mp finds
    have ahead : s.nextId ≤ s.freshId := by
      rw [found, counter, ← Int64.ofNat_add]
      exact (Int64.ofNat_le_iff_le (by omega) (by omega)).mpr (Nat.le_add_right _ _)
    refine ⟨?_, isLeast_freshId room ⟨s.freshId, ahead, free⟩⟩
    rw [counter]
    exact one_le_ofNat_succ (by omega)
  least := isLeast_freshId room
  strings := freshId_numbered room

end Session

end LspClient
