import Mathlib.Data.List.Induction
import Mathlib.Data.List.Nodup
import LspClient.Loopback

/-!
# Attempts that fail on demand

A server end can be asked to let so many of the next attempts fail, to refuse all of them, or to
let those hang that begin. An attempt takes two steps: it begins and gets its number, and it goes
on to an end. Between the two anything else may happen, other attempts included; whoever opens
in one go takes the second step right after the first, and whoever gives up never takes it.

`Effect` says all that a step can do. An attempt that hangs is counted and that is all, a refused
one fails, and only what is left meets the number of failures asked for. So of the attempts that
are neither stalled nor refused exactly the first ones fail, as many as were asked for last
(`fails_iff_lt`), and what is left of that number together with what was used of it stays the
same (`failures_add_asked`). `fails_on_demand` puts this together for every run.
-/

namespace LspClient

/-- The reason for a refused attempt tells which one it was. -/
theorem Medium.refusal_inj {m : Medium} {a b : Nat} (h : m.refusal a = m.refusal b) : a = b := by
  have text : toString a = toString b := by
    cases m with
    | messages => exact (String.append_right_inj _).mp ((String.append_left_inj _).mp h)
    | stream => exact (String.append_right_inj _).mp h
  have digits : Nat.toDigits 10 a = Nat.toDigits 10 b := by
    rw [← Nat.toList_repr, ← Nat.toList_repr]
    exact congrArg String.toList text
  calc a
    _ = Nat.ofDigitChars 10 (Nat.toDigits 10 a) 0 := Nat.ofDigitChars_ten_toDigits.symm
    _ = Nat.ofDigitChars 10 (Nat.toDigits 10 b) 0 := by rw [digits]
    _ = b := Nat.ofDigitChars_ten_toDigits

namespace Loopback

/-- What can happen to a server end, as far as attempts are concerned. -/
inductive Operation where
  | failNext (count : Nat)
  | refuse (isOn : Bool)
  | stall (isOn : Bool)
  /-- An attempt begins. -/
  | beginOpen (now : Nat)
  /-- The attempt with this number goes on, if it is under way. -/
  | finishOpen (attempt : Nat)

/-- What becomes of an attempt that goes on. -/
structure Verdict where
  attempt : Nat
  /-- Every attempt was refused at the time. -/
  isRefused : Bool
  result : Except ConnectError Nat

/-- Whether there is no connection. -/
def Verdict.fails (v : Verdict) : Bool :=
  match v.result with
  | .error _ => true
  | .ok _ => false

/-- Whether this is one of the failures that were asked for. -/
def Verdict.isAsked (v : Verdict) : Bool := v.fails && !v.isRefused

/-- The connection, by the number of its peer. -/
def Verdict.peer? (v : Verdict) : Option Nat := v.result.toOption

/-- A server end, and the numbers of the attempts that are under way. -/
structure Reception where
  loopback : Loopback
  underWay : List Nat := []

namespace Reception

/-- Performs an operation. -/
def perform (r : Reception) : Operation → Reception
  | .failNext count => { r with loopback := r.loopback.failNext count }
  | .refuse isOn => { r with loopback := r.loopback.refuse isOn }
  | .stall isOn => { r with loopback := r.loopback.stall isOn }
  | .beginOpen now =>
    let (loopback, resume?) := r.loopback.beginOpen now
    { loopback
      underWay := if resume?.isSome then r.underWay ++ [loopback.attempts] else r.underWay }
  | .finishOpen attempt =>
    if attempt ∈ r.underWay then
      { loopback := (r.loopback.finishOpen attempt).1, underWay := r.underWay.erase attempt }
    else r

/-- The verdict on the attempt that an operation lets go on. -/
def verdict? (r : Reception) : Operation → Option Verdict
  | .finishOpen attempt =>
    if attempt ∈ r.underWay then
      some ⟨attempt, r.loopback.isRefusing, (r.loopback.finishOpen attempt).2⟩
    else none
  | _ => none

/-- Performs operations one after another. -/
def performAll (r : Reception) (ops : List Operation) : Reception := ops.foldl perform r

/-- The verdicts on the way, the earliest first. -/
def verdicts (r : Reception) : List Operation → List Verdict
  | [] => []
  | op :: rest => (r.verdict? op).toList ++ (r.perform op).verdicts rest

/-- The verdicts on the attempts that went on while attempts were not refused. -/
def admitted (r : Reception) (ops : List Operation) : List Verdict :=
  (r.verdicts ops).filter (!·.isRefused)

end Reception

/-- A new server end after some operations. -/
def run (medium : Medium) (ops : List Operation) : Reception :=
  Reception.performAll { loopback := { medium } } ops

/-- The verdicts on all attempts at a new server end. -/
def verdicts (medium : Medium) (ops : List Operation) : List Verdict :=
  Reception.verdicts { loopback := { medium } } ops

/-! ## What was said last -/

/-- Whether an attempt begins. -/
def Operation.begins : Operation → Bool
  | .beginOpen _ => true
  | _ => false

/-- What an operation says about refusing. -/
def Operation.refuses? : Operation → Option Bool
  | .refuse isOn => some isOn
  | _ => none

/-- What an operation says about stalling. -/
def Operation.stalls? : Operation → Option Bool
  | .stall isOn => some isOn
  | _ => none

/-- How many attempts began. -/
def begun (ops : List Operation) : Nat := ops.countP Operation.begins

/-- What was said last. -/
def latest (says? : Operation → Option Bool) (ops : List Operation) : Bool :=
  (ops.filterMap says?).getLastD false

/-- Whether attempts are refused. -/
def refusing (ops : List Operation) : Bool := latest Operation.refuses? ops

/-- Whether attempts that begin hang. -/
def stalling (ops : List Operation) : Bool := latest Operation.stalls? ops

variable {l : Loopback} {r : Reception} {v : Verdict} {op : Operation} {ops : List Operation}
  {medium : Medium} {attempt : Nat}

/-! ## One step -/

/-- How an attempt that goes on can end at a server that is there: the server end afterwards, and
the verdict. -/
inductive Ends (l : Loopback) (attempt : Nat) : Loopback → Verdict → Prop
  | refused (on : l.isRefusing = true) :
      Ends l attempt l ⟨attempt, true, .error (.failed (l.medium.refusal attempt))⟩
  | failed {left : Nat} (off : l.isRefusing = false) (queued : l.failures = left + 1) :
      Ends l attempt { l with failures := left }
        ⟨attempt, false, .error (.failed (l.medium.refusal attempt))⟩
  | accepted (off : l.isRefusing = false) (none : l.failures = 0) :
      Ends l attempt { l with peers := l.peers ++ [{}] } ⟨attempt, false, .ok l.peers.length⟩

theorem finishOpen_ends (alive : l.isGone = false) (attempt : Nat) :
    Ends l attempt (l.finishOpen attempt).1
      ⟨attempt, l.isRefusing, (l.finishOpen attempt).2⟩ := by
  cases refuses : l.isRefusing with
  | true =>
    have result : l.finishOpen attempt = (l, .error (.failed (l.medium.refusal attempt))) := by
      simp [finishOpen, takeFailure, refuses]
    rw [result]
    exact .refused refuses
  | false =>
    cases queued : l.failures with
    | zero =>
      have result : l.finishOpen attempt =
          ({ l with peers := l.peers ++ [{}] }, .ok l.peers.length) := by
        simp [finishOpen, takeFailure, refuses, queued, alive]
      rw [result]
      exact .accepted refuses queued
    | succ left =>
      have result : l.finishOpen attempt =
          ({ l with failures := left }, .error (.failed (l.medium.refusal attempt))) := by
        simp [finishOpen, takeFailure, refuses, queued]
      rw [result]
      exact .failed refuses queued

/-- Everything that an operation can do: what it leads to, and the verdict. -/
inductive Effect (r : Reception) : Operation → Reception → Option Verdict → Prop
  | asked (count : Nat) :
      Effect r (.failNext count) { r with loopback := { r.loopback with failures := count } } none
  | refuses (isOn : Bool) :
      Effect r (.refuse isOn) { r with loopback := { r.loopback with isRefusing := isOn } } none
  | stalls (isOn : Bool) :
      Effect r (.stall isOn) { r with loopback := { r.loopback with isStalled := isOn } } none
  | hangs (now : Nat) (on : r.loopback.isStalled = true) :
      Effect r (.beginOpen now)
        { r with loopback := { r.loopback with attempts := r.loopback.attempts + 1 } } none
  | begins (now : Nat) (off : r.loopback.isStalled = false) :
      Effect r (.beginOpen now)
        { loopback := { r.loopback with attempts := r.loopback.attempts + 1 }
          underWay := r.underWay ++ [r.loopback.attempts + 1] } none
  | nothing {attempt : Nat} (other : attempt ∉ r.underWay) : Effect r (.finishOpen attempt) r none
  | ends {attempt : Nat} {next : Loopback} {v : Verdict} (live : attempt ∈ r.underWay)
      (ends : Ends r.loopback attempt next v) :
      Effect r (.finishOpen attempt) { loopback := next, underWay := r.underWay.erase attempt }
        (some v)

theorem perform_effect (alive : r.loopback.isGone = false) (op : Operation) :
    Effect r op (r.perform op) (r.verdict? op) := by
  cases op with
  | failNext count => exact .asked count
  | refuse isOn => exact .refuses isOn
  | stall isOn => exact .stalls isOn
  | beginOpen now =>
    cases stalled : r.loopback.isStalled with
    | true =>
      have next : r.perform (.beginOpen now) =
          { r with loopback := { r.loopback with attempts := r.loopback.attempts + 1 } } := by
        simp [Reception.perform, beginOpen, stalled]
      rw [next]
      exact .hangs now stalled
    | false =>
      have next : r.perform (.beginOpen now) =
          { loopback := { r.loopback with attempts := r.loopback.attempts + 1 }
            underWay := r.underWay ++ [r.loopback.attempts + 1] } := by
        simp [Reception.perform, beginOpen, stalled]
      rw [next]
      exact .begins now stalled
  | finishOpen attempt =>
    by_cases live : attempt ∈ r.underWay
    · simp only [Reception.perform, Reception.verdict?, if_pos live]
      exact .ends live (finishOpen_ends alive attempt)
    · simp only [Reception.perform, Reception.verdict?, if_neg live]
      exact .nothing live

/-! ## What every operation keeps -/

/-- A server that is there, and whose attempts under way are different ones that began. -/
structure Reception.Orderly (r : Reception) : Prop where
  alive : r.loopback.isGone = false
  begun : ∀ attempt ∈ r.underWay, attempt ≤ r.loopback.attempts
  nodup : r.underWay.Nodup

/-- An attempt that began and does not go on any more: it hangs, or it is over. -/
def Reception.IsDone (r : Reception) (attempt : Nat) : Prop :=
  attempt ≤ r.loopback.attempts ∧ attempt ∉ r.underWay

theorem orderly_perform (h : r.Orderly) (op : Operation) : (r.perform op).Orderly := by
  have effect := perform_effect h.alive op
  generalize r.perform op = next, r.verdict? op = verdict? at effect ⊢
  cases effect with
  | asked | refuses | stalls | nothing => exact ⟨h.alive, h.begun, h.nodup⟩
  | hangs => exact ⟨h.alive, fun a live => Nat.le_succ_of_le (h.begun a live), h.nodup⟩
  | begins =>
    have new : r.loopback.attempts + 1 ∉ r.underWay := fun live =>
      Nat.not_succ_le_self _ (h.begun _ live)
    refine ⟨h.alive, fun a live => ?_, List.concat_eq_append ▸ h.nodup.concat new⟩
    rcases List.mem_append.mp live with old | last
    · exact Nat.le_succ_of_le (h.begun a old)
    · exact Nat.le_of_eq (List.mem_singleton.mp last)
  | @ends attempt _ _ _ ends =>
    have begun : ∀ a ∈ r.underWay.erase attempt, a ≤ r.loopback.attempts := fun a live =>
      h.begun a (List.mem_of_mem_erase live)
    cases ends <;> exact ⟨h.alive, begun, h.nodup.erase attempt⟩

theorem isDone_perform (h : r.Orderly) (done : r.IsDone attempt) (op : Operation) :
    (r.perform op).IsDone attempt := by
  have effect := perform_effect h.alive op
  generalize r.perform op = next, r.verdict? op = verdict? at effect ⊢
  cases effect with
  | asked | refuses | stalls | nothing => exact done
  | hangs => exact ⟨Nat.le_succ_of_le done.1, done.2⟩
  | begins =>
    refine ⟨Nat.le_succ_of_le done.1, fun live => ?_⟩
    rcases List.mem_append.mp live with old | last
    · exact done.2 old
    · exact absurd done.1 (by rw [List.mem_singleton.mp last]; exact Nat.not_succ_le_self _)
  | @ends other _ _ _ ends =>
    have gone : attempt ∉ r.underWay.erase other := fun live =>
      done.2 (List.mem_of_mem_erase live)
    cases ends <;> exact ⟨done.1, gone⟩

/-- Nothing but an attempt's own going on takes it from those under way. -/
theorem mem_underWay_perform (alive : r.loopback.isGone = false)
    (live : attempt ∈ r.underWay) (other : op ≠ .finishOpen attempt) :
    attempt ∈ (r.perform op).underWay := by
  have effect := perform_effect alive op
  generalize r.perform op = next, r.verdict? op = verdict? at effect ⊢
  cases effect with
  | asked | refuses | stalls | hangs | nothing => exact live
  | begins => exact List.mem_append_left _ live
  | ends =>
    have apart : attempt ≠ _ := fun same => other (congrArg Operation.finishOpen same.symm)
    exact (List.mem_erase_of_ne apart).mpr live

/-- Unless failures are asked for anew, those that are left and the one that was used, if any,
were there before. -/
theorem failures_perform (alive : r.loopback.isGone = false)
    (same : ∀ count, op ≠ .failNext count) :
    (r.perform op).loopback.failures + (r.verdict? op).toList.countP Verdict.isAsked =
      r.loopback.failures := by
  have effect := perform_effect alive op
  generalize r.perform op = next, r.verdict? op = verdict? at effect ⊢
  cases effect with
  | asked count => exact absurd rfl (same count)
  | refuses | stalls | hangs | begins | nothing => rfl
  | ends _ ends =>
    cases ends with
    | refused | accepted => rfl
    | failed _ queued => exact queued.symm

/-- What an operation says about refusing and stalling holds from then on, and an attempt that
begins is counted. -/
theorem settings_perform (alive : r.loopback.isGone = false) (op : Operation) :
    (r.perform op).loopback.medium = r.loopback.medium ∧
      (r.perform op).loopback.attempts = r.loopback.attempts + (if op.begins then 1 else 0) ∧
      (r.perform op).loopback.isRefusing = op.refuses?.getD r.loopback.isRefusing ∧
      (r.perform op).loopback.isStalled = op.stalls?.getD r.loopback.isStalled := by
  have effect := perform_effect alive op
  generalize r.perform op = next, r.verdict? op = verdict? at effect ⊢
  cases effect with
  | asked | refuses | stalls | hangs | begins | nothing => exact ⟨rfl, rfl, rfl, rfl⟩
  | ends _ ends => cases ends <;> exact ⟨rfl, rfl, rfl, rfl⟩

/-- Who is behind a verdict was under way, and is done with. -/
theorem isDone_of_verdict (h : r.Orderly) (decided : r.verdict? op = some v) :
    v.attempt ∈ r.underWay ∧ (r.perform op).IsDone v.attempt := by
  have effect := perform_effect h.alive op
  rw [decided] at effect
  generalize r.perform op = next at effect ⊢
  cases effect with
  | @ends attempt _ _ live ends =>
    have gone : attempt ∉ r.underWay.erase attempt := h.nodup.not_mem_erase
    cases ends <;> exact ⟨live, h.begun attempt live, gone⟩

/-! ## Many steps -/

namespace Reception

theorem verdicts_append (r : Reception) (ops more : List Operation) :
    r.verdicts (ops ++ more) = r.verdicts ops ++ (r.performAll ops).verdicts more := by
  induction ops generalizing r with
  | nil => rfl
  | cons op rest ih =>
    show (r.verdict? op).toList ++ (r.perform op).verdicts (rest ++ more) = _
    rw [ih, ← List.append_assoc]
    rfl

theorem admitted_cons (r : Reception) (op : Operation) (rest : List Operation) :
    r.admitted (op :: rest) =
      (r.verdict? op).toList.filter (!·.isRefused) ++ (r.perform op).admitted rest :=
  List.filter_append ..

end Reception

theorem orderly_performAll (h : r.Orderly) (ops : List Operation) :
    (r.performAll ops).Orderly := by
  induction ops generalizing r with
  | nil => exact h
  | cons op rest ih => exact ih (orderly_perform h op)

/-- An attempt that is done has no verdict any more. -/
theorem attempt_ne_of_isDone (h : r.Orderly) (done : r.IsDone attempt)
    (member : v ∈ r.verdicts ops) : v.attempt ≠ attempt := by
  induction ops generalizing r with
  | nil => cases member
  | cons op rest ih =>
    rcases List.mem_append.mp member with now | later
    · have live := (isDone_of_verdict h (Option.mem_toList.mp now)).1
      exact fun same => done.2 (same ▸ live)
    · exact ih (orderly_perform h op) (isDone_perform h done op) later

theorem isDone_performAll (h : r.Orderly) (done : r.IsDone attempt)
    (ops : List Operation) : (r.performAll ops).IsDone attempt := by
  induction ops generalizing r with
  | nil => exact done
  | cons op rest ih => exact ih (orderly_perform h op) (isDone_perform h done op)

/-- An attempt that has a verdict is done. -/
theorem isDone_of_mem_verdicts (h : r.Orderly) (member : v ∈ r.verdicts ops) :
    (r.performAll ops).IsDone v.attempt := by
  induction ops generalizing r with
  | nil => cases member
  | cons op rest ih =>
    have next := orderly_perform h op
    rcases List.mem_append.mp member with now | later
    · exact isDone_performAll next (isDone_of_verdict h (Option.mem_toList.mp now)).2 rest
    · exact ih next later

/-- No attempt has two verdicts. -/
theorem nodup_verdicts (h : r.Orderly) (ops : List Operation) :
    ((r.verdicts ops).map (·.attempt)).Nodup := by
  induction ops generalizing r with
  | nil => exact List.nodup_nil
  | cons op rest ih =>
    have further := ih (orderly_perform h op)
    unfold Reception.verdicts
    cases decided : r.verdict? op with
    | none => exact further
    | some v =>
      refine List.nodup_cons.mpr ⟨fun again => ?_, further⟩
      obtain ⟨w, member, same⟩ := List.mem_map.mp again
      have done := (isDone_of_verdict h decided).2
      exact attempt_ne_of_isDone (orderly_perform h op) done member same

/-- An attempt is under way until it goes on. -/
theorem mem_underWay_performAll (h : r.Orderly) (live : attempt ∈ r.underWay)
    (waits : .finishOpen attempt ∉ ops) : attempt ∈ (r.performAll ops).underWay := by
  induction ops generalizing r with
  | nil => exact live
  | cons op rest ih =>
    have other : op ≠ .finishOpen attempt := fun same => waits (same ▸ List.mem_cons_self)
    exact ih (orderly_perform h op) (mem_underWay_perform h.alive live other) fun later =>
      waits (List.mem_cons_of_mem _ later)

/-- **Exactly the first attempts fail**, of those that go on while attempts are not refused: as
many as were queued. -/
theorem fails_iff_lt (h : r.Orderly) (same : ∀ count, .failNext count ∉ ops) {i : Nat}
    (found : (r.admitted ops)[i]? = some v) : v.fails = true ↔ i < r.loopback.failures := by
  induction ops generalizing r i with
  | nil => cases found
  | cons op rest ih =>
    have further : ∀ {j}, ((r.perform op).admitted rest)[j]? = some v →
        (v.fails = true ↔ j < (r.perform op).loopback.failures) :=
      ih (orderly_perform h op) fun count later => same count (List.mem_cons_of_mem _ later)
    rw [Reception.admitted_cons] at found
    have effect := perform_effect h.alive op
    generalize r.perform op = next, r.verdict? op = verdict? at effect found further
    cases effect with
    | asked count => exact absurd List.mem_cons_self (same count)
    | refuses | stalls | hangs | begins | nothing => exact further found
    | ends _ ends =>
      cases ends with
      | refused => exact further found
      | failed _ queued =>
        rw [queued]
        cases i with
        | zero =>
          cases found
          exact ⟨fun _ => Nat.succ_pos _, fun _ => rfl⟩
        | succ i => exact (further found).trans Nat.succ_lt_succ_iff.symm
      | accepted _ none =>
        cases i with
        | zero =>
          cases found
          rw [none]
          exact ⟨nofun, nofun⟩
        | succ i =>
          refine (further found).trans ?_
          show i < r.loopback.failures ↔ _
          rw [none]
          exact ⟨nofun, nofun⟩

/-- The failures that are left and those that were used are those that were queued. -/
theorem failures_add_asked (h : r.Orderly) (same : ∀ count, .failNext count ∉ ops) :
    (r.performAll ops).loopback.failures + (r.verdicts ops).countP Verdict.isAsked =
      r.loopback.failures := by
  induction ops generalizing r with
  | nil => rfl
  | cons op rest ih =>
    have further := ih (orderly_perform h op) fun count later =>
      same count (List.mem_cons_of_mem _ later)
    have first := failures_perform h.alive fun count (asked : op = .failNext count) =>
      same count (asked ▸ List.mem_cons_self)
    unfold Reception.verdicts
    rw [List.countP_append]
    show ((r.perform op).performAll rest).loopback.failures + _ = _
    omega

/-- A verdict is how an attempt ended, at a server end of the same medium. -/
theorem ends_of_mem_verdicts (h : r.Orderly) (member : v ∈ r.verdicts ops) :
    ∃ l attempt next, l.medium = r.loopback.medium ∧ Ends l attempt next v := by
  induction ops generalizing r with
  | nil => cases member
  | cons op rest ih =>
    rcases List.mem_append.mp member with now | later
    · have effect := perform_effect h.alive op
      rw [Option.mem_toList.mp now] at effect
      generalize r.perform op = next at effect
      cases effect with
      | ends _ ends => exact ⟨r.loopback, _, _, rfl, ends⟩
    · obtain ⟨l, attempt, next, same, ends⟩ := ih (orderly_perform h op) later
      exact ⟨l, attempt, next, same.trans (settings_perform h.alive op).1, ends⟩

/-- A verdict against an attempt gives its number as the reason. -/
theorem result_of_fails (h : r.Orderly) (member : v ∈ r.verdicts ops)
    (fails : v.fails = true) :
    v.result = .error (.failed (r.loopback.medium.refusal v.attempt)) := by
  obtain ⟨l, attempt, next, medium, ends⟩ := ends_of_mem_verdicts h member
  rw [← medium]
  cases ends with
  | refused | failed => rfl
  | accepted => cases fails

theorem fails_of_isRefused (h : r.Orderly) (member : v ∈ r.verdicts ops)
    (refused : v.isRefused = true) : v.fails = true := by
  obtain ⟨l, attempt, next, -, ends⟩ := ends_of_mem_verdicts h member
  cases ends with
  | refused => rfl
  | failed | accepted => cases refused

/-! ## A run from the beginning -/

theorem orderly_run (medium : Medium) (ops : List Operation) : (run medium ops).Orderly :=
  orderly_performAll ⟨rfl, fun _ live => absurd live List.not_mem_nil, List.nodup_nil⟩ ops

theorem run_append (medium : Medium) (ops more : List Operation) :
    run medium (ops ++ more) = (run medium ops).performAll more := List.foldl_append

theorem run_concat (medium : Medium) (ops : List Operation) (op : Operation) :
    run medium (ops ++ [op]) = (run medium ops).perform op := List.foldl_append

theorem verdicts_concat (medium : Medium) (ops : List Operation) (op : Operation) :
    verdicts medium (ops ++ [op]) =
      verdicts medium ops ++ ((run medium ops).verdict? op).toList := by
  unfold verdicts
  rw [Reception.verdicts_append]
  exact congrArg _ (List.append_nil _)

theorem latest_concat (says? : Operation → Option Bool) (ops : List Operation) (op : Operation) :
    latest says? (ops ++ [op]) = (says? op).getD (latest says? ops) := by
  unfold latest
  rw [List.filterMap_append]
  cases said : says? op with
  | none => simp [said]
  | some isOn => simp [said]

theorem begun_concat (ops : List Operation) (op : Operation) :
    begun (ops ++ [op]) = begun ops + if op.begins then 1 else 0 := by
  unfold begun
  rw [List.countP_append, List.countP_singleton]

/-- A server end is what was said last, and has counted what began. -/
structure Follows (medium : Medium) (ops : List Operation) (l : Loopback) : Prop where
  medium : l.medium = medium
  counted : l.attempts = begun ops
  refusing : l.isRefusing = refusing ops
  stalling : l.isStalled = stalling ops

theorem follows_run (medium : Medium) (ops : List Operation) :
    Follows medium ops (run medium ops).loopback := by
  induction ops using List.reverseRecOn with
  | nil => exact ⟨rfl, rfl, rfl, rfl⟩
  | append_singleton ops op ih =>
    obtain ⟨medium, counted, refuses, stalls⟩ :=
      settings_perform (orderly_run medium ops).alive op
    rw [ih.counted, ← begun_concat] at counted
    rw [ih.refusing, refusing, ← latest_concat] at refuses
    rw [ih.stalling, stalling, ← latest_concat] at stalls
    rw [run_concat]
    exact ⟨medium.trans ih.medium, counted, refuses, stalls⟩

/-- Every connection has a peer of its own, in the order in which they were made. -/
theorem peers_run (medium : Medium) (ops : List Operation) :
    (verdicts medium ops).filterMap Verdict.peer? =
        List.range (run medium ops).loopback.peers.length ∧
      (run medium ops).loopback.peers =
        List.replicate (run medium ops).loopback.peers.length {} := by
  induction ops using List.reverseRecOn with
  | nil => exact ⟨rfl, rfl⟩
  | append_singleton ops op ih =>
    rw [verdicts_concat, run_concat, List.filterMap_append]
    have effect := perform_effect (orderly_run medium ops).alive op
    generalize (run medium ops).perform op = next, (run medium ops).verdict? op = verdict?
      at effect ⊢
    have unchanged := ih
    rw [← List.append_nil ((verdicts medium ops).filterMap _)] at unchanged
    cases effect with
    | asked | refuses | stalls | hangs | begins | nothing => exact unchanged
    | ends _ ends =>
      cases ends with
      | refused | failed => exact unchanged
      | accepted =>
        obtain ⟨made, peers⟩ := ih
        refine ⟨?_, ?_⟩
        · show _ ++ [(run medium ops).loopback.peers.length] = List.range (_ ++ [_]).length
          rw [made, List.length_append, List.length_singleton, List.range_succ]
        · show _ ++ [_] = List.replicate (_ ++ [_]).length _
          rw [List.length_append, List.length_singleton, List.replicate_succ', ← peers]

/-! ## Failing on demand -/

/-- The verdict on an attempt, if all attempts are refused or not and so many failures are
queued. -/
structure Decides (isRefusing : Bool) (queued attempt : Nat) (v : Verdict) : Prop where
  attempt : v.attempt = attempt
  isRefused : v.isRefused = isRefusing
  fails : v.fails = true ↔ isRefusing = true ∨ 0 < queued

theorem verdict_decides (alive : r.loopback.isGone = false)
    (live : attempt ∈ r.underWay) : ∃ v, r.verdict? (.finishOpen attempt) = some v ∧
      Decides r.loopback.isRefusing r.loopback.failures attempt v := by
  have effect := perform_effect alive (.finishOpen attempt)
  generalize r.perform _ = next, r.verdict? _ = verdict? at effect ⊢
  cases effect with
  | nothing other => exact absurd live other
  | ends _ ends =>
    refine ⟨_, rfl, ?_⟩
    cases ends with
    | refused on => exact ⟨rfl, on.symm, fun _ => .inl on, fun _ => rfl⟩
    | failed off queued =>
      exact ⟨rfl, off.symm, fun _ => .inr (queued ▸ Nat.succ_pos _), fun _ => rfl⟩
    | accepted off none =>
      rw [off, none]
      exact ⟨rfl, rfl, nofun, fun h => h.elim nofun nofun⟩

/-- An attempt that begins to hang is counted, and done. -/
theorem isDone_of_stalling (medium : Medium) (on : stalling ops = true) (now : Nat) :
    (run medium (ops ++ [.beginOpen now])).IsDone (begun ops + 1) := by
  have orderly := orderly_run medium ops
  have follows := follows_run medium ops
  have effect := perform_effect orderly.alive (.beginOpen now)
  rw [run_concat]
  generalize (run medium ops).perform _ = next, (run medium ops).verdict? _ = verdict?
    at effect ⊢
  rw [← follows.counted]
  cases effect with
  | hangs =>
    exact ⟨Nat.le_refl _, fun live => Nat.not_succ_le_self _ (orderly.begun _ live)⟩
  | begins _ off => exact absurd (off.symm.trans (follows.stalling.trans on)) Bool.false_ne_true

/-- Any other attempt that begins is under way. -/
theorem mem_underWay_of_not_stalling (medium : Medium) (off : stalling ops = false) (now : Nat) :
    begun ops + 1 ∈ (run medium (ops ++ [.beginOpen now])).underWay := by
  have follows := follows_run medium ops
  have effect := perform_effect (orderly_run medium ops).alive (.beginOpen now)
  rw [run_concat]
  generalize (run medium ops).perform _ = next, (run medium ops).verdict? _ = verdict?
    at effect ⊢
  rw [← follows.counted]
  cases effect with
  | hangs _ on => exact absurd (off.symm.trans (follows.stalling.symm.trans on)) Bool.false_ne_true
  | begins => exact List.mem_append_right _ (List.mem_singleton_self _)

/-- What holds of every run in which a server end is told how to treat attempts. -/
structure FailsOnDemand (medium : Medium) (ops : List Operation) : Prop where
  /-- Every attempt that began was counted, -/
  counted : (run medium ops).loopback.attempts = begun ops
  /-- and none has two verdicts. -/
  once : ((verdicts medium ops).map (·.attempt)).Nodup
  /-- The next attempt that begins has the next number. If attempts are stalled, it never has a
  verdict, whatever happens later. -/
  hangs : stalling ops = true → ∀ now later,
    ∀ v ∈ verdicts medium (ops ++ .beginOpen now :: later), v.attempt ≠ begun ops + 1
  /-- If not, then it has one as it goes on, whatever has happened since: it fails exactly if
  attempts are refused by then, or failures are queued. -/
  goesOn : stalling ops = false → ∀ now later, .finishOpen (begun ops + 1) ∉ later →
    ∃ v, (run medium (ops ++ .beginOpen now :: later)).verdict? (.finishOpen (begun ops + 1)) =
        some v ∧
      Decides (refusing (ops ++ .beginOpen now :: later))
        (run medium (ops ++ .beginOpen now :: later)).loopback.failures (begun ops + 1) v
  /-- So whoever opens in one go learns at once what holds as the attempt begins. -/
  atOnce : stalling ops = false → ∀ now,
    ∃ v, (run medium ops).verdicts [.beginOpen now, .finishOpen (begun ops + 1)] = [v] ∧
      Decides (refusing ops) (run medium ops).loopback.failures (begun ops + 1) v
  /-- A failure is used up exactly by an attempt that fails while attempts are not refused. -/
  spends : ∀ op, (∀ count, op ≠ .failNext count) →
    (run medium (ops ++ [op])).loopback.failures +
        ((run medium ops).verdict? op).toList.countP Verdict.isAsked =
      (run medium ops).loopback.failures
  /-- Since failures were last asked for, exactly the first attempts have failed, as many as were
  asked for, of those that went on while attempts were not refused; -/
  first : ∀ before count later, ops = before ++ .failNext count :: later →
    (∀ other, .failNext other ∉ later) → ∀ (i : Nat) v,
    ((run medium (before ++ [.failNext count])).admitted later)[i]? = some v →
      (v.fails = true ↔ i < count)
  /-- what is left are those that were not used, -/
  left : ∀ before count later, ops = before ++ .failNext count :: later →
    (∀ other, .failNext other ∉ later) →
    (run medium ops).loopback.failures +
      ((run medium (before ++ [.failNext count])).verdicts later).countP Verdict.isAsked = count
  /-- and if none were asked for, none of those attempts has failed. -/
  unasked : (∀ count, .failNext count ∉ ops) → ∀ v ∈ verdicts medium ops, v.fails = v.isRefused
  /-- The reason for a failure names the attempt, and no other one. -/
  names : ∀ v ∈ verdicts medium ops, v.fails = true → ∀ number,
    v.result = .error (.failed (medium.refusal number)) ↔ number = v.attempt
  /-- Every connection has one peer of its own, new at the server, in the order in which the
  connections were made. -/
  peers : (verdicts medium ops).filterMap Verdict.peer? =
    List.range (run medium ops).loopback.peers.length
  new : (run medium ops).loopback.peers = List.replicate (run medium ops).loopback.peers.length {}

/-- **Attempts fail on demand**: stalled, refused or as many as were asked for, and all others
come to a connection. -/
theorem fails_on_demand (medium : Medium) (ops : List Operation) : FailsOnDemand medium ops where
  counted := (follows_run medium ops).counted
  once := nodup_verdicts (orderly_run medium []) ops
  hangs on now later v member := by
    rw [List.append_cons] at member
    unfold verdicts at member
    rw [Reception.verdicts_append] at member
    rcases List.mem_append.mp member with before | after
    · rw [Reception.verdicts_append] at before
      -- that it begins is no verdict
      have known : v ∈ Reception.verdicts { loopback := { medium } } ops :=
        (List.mem_append.mp before).resolve_right List.not_mem_nil
      have old := (isDone_of_mem_verdicts (orderly_run medium []) known).1
      have counted := (follows_run medium ops).counted
      exact fun same => Nat.not_succ_le_self _ (counted ▸ same ▸ old)
    · exact attempt_ne_of_isDone (orderly_run medium _) (isDone_of_stalling medium on now) after
  goesOn off now later waits := by
    have orderly := orderly_run medium (ops ++ [.beginOpen now])
    have live := mem_underWay_performAll orderly (mem_underWay_of_not_stalling medium off now) waits
    rw [← run_append, ← List.append_cons] at live
    rw [← (follows_run medium _).refusing]
    exact verdict_decides (orderly_run medium _).alive live
  atOnce off now := by
    have live := mem_underWay_of_not_stalling medium off now
    obtain ⟨v, decided, decides⟩ := verdict_decides (orderly_run medium _).alive live
    rw [run_concat] at decided decides
    refine ⟨v, ?_, ?_⟩
    · show [] ++ ((((run medium ops).perform _).verdict? _).toList ++ []) = _
      rw [decided]
      rfl
    · rw [← (follows_run medium ops).refusing]
      exact decides
  spends op same := by
    rw [run_concat]
    exact failures_perform (orderly_run medium ops).alive same
  first before count later split same i v found := by
    rw [fails_iff_lt (orderly_run medium _) same found, run_concat]
    rfl
  left before count later split same := by
    rw [split, List.append_cons, run_append, failures_add_asked (orderly_run medium _) same,
      run_concat]
    rfl
  unasked same v member := by
    cases refused : v.isRefused with
    | true => exact fails_of_isRefused (orderly_run medium []) member refused
    | false =>
      have admitted : v ∈ Reception.admitted { loopback := { medium } } ops :=
        List.mem_filter.mpr ⟨member, by rw [refused]; rfl⟩
      obtain ⟨i, found⟩ := List.mem_iff_getElem?.mp admitted
      have none := (fails_iff_lt (orderly_run medium []) same found).not.mpr (Nat.not_lt_zero i)
      exact Bool.eq_false_iff.mpr none
  names v member fails number := by
    rw [result_of_fails (orderly_run medium []) member fails, Except.error.injEq,
      ConnectError.failed.injEq]
    exact ⟨fun same => (Medium.refusal_inj same).symm, fun same => same ▸ rfl⟩
  peers := (peers_run medium ops).1
  new := (peers_run medium ops).2

/-- While all are refused, none of the two failures asked for is used up, and an attempt that
began before may go on after others. -/
example : (verdicts .messages [.failNext 2, .refuse true, .beginOpen 0, .finishOpen 1,
      .stall true, .beginOpen 0, .stall false, .beginOpen 0, .refuse false, .beginOpen 0,
      .finishOpen 4, .finishOpen 2, .finishOpen 3, .beginOpen 0, .finishOpen 5]).map
    (fun v => (v.attempt, v.fails)) = [(1, true), (4, true), (3, true), (5, false)] := by decide

end Loopback

end LspClient
