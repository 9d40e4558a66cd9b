import LspClient.Proofs.Framing.Grammar

/-!
# The reader gets on, and not too fast

Every call of the reader comes to a decision, uses at least one byte unless the stream is at
its end, and uses no more than a header and a body may have. `MakesProgress` collects that for
one call: what holds before each line of its header comes from the run of its turns
(`Turns.uses`), what the call uses in all from where that run stops (`exists_head`).

Called again and again, also after errors, the reader therefore gives no more frames and errors
than the stream has bytes, `makes_bounded_progress`.
-/

namespace LspClient.Framing

open HeaderState (Turns exists_turns read_eq_turn start turn_cases)

/-! ## One header -/

/-- What is left of a stream after its header, or after what stands in the place of one. -/
def afterHeader (input : Bytes) : Bytes :=
  match readHeader true (maxHeaderBytes + 1) none input with
  | .complete _ rest => rest
  | .failed _ rest => rest
  | .done => []
  | .more => []

/-- Whichever lines were taken, reading on after them gives what the call gives. -/
theorem HeaderState.Turns.read_eq {ended : Bool} {count : Nat} {s t : HeaderState}
    (run : Turns ended count s t) (h : s.used ≤ maxHeaderBytes) : t.read ended = s.read ended := by
  induction run with
  | none s => rfl
  | @more count s t u first others ih =>
    obtain ⟨-, fits, -⟩ := Turns.uses (.more first (.none t)) h
    rw [ih fits, read_eq_turn ended h, first]

/-- The line after a run of turns stays within one byte more than a header may have. -/
theorem used_add_length_line_le {count : Nat} {input : Bytes} {t : HeaderState}
    (run : Turns true count (start input) t) : t.used + t.line.length ≤ maxHeaderBytes + 1 := by
  obtain ⟨-, fits, -⟩ := run.uses (Nat.zero_le _)
  have within : t.line.length ≤ t.room := length_takeLine_le _ _
  unfold HeaderState.room at within
  omega

/-- A header takes at most one byte more than it may have, and at least one unless there is
nothing. -/
theorem exists_head (input : Bytes) : ∃ head, input = head ++ afterHeader input ∧
    head.length ≤ maxHeaderBytes + 1 ∧ (input ≠ [] → head ≠ []) := by
  obtain ⟨count, t, run, stops⟩ := exists_turns true (start input) (Nat.zero_le _)
  obtain ⟨-, fits, head, unread, used⟩ := run.uses (Nat.zero_le _)
  have result : (start input).read true = readHeader true (maxHeaderBytes + 1) none input := rfl
  have whole : input = head ++ t.unread := unread
  have taken : t.line ++ t.after = t.unread := takeLine_append _ _
  have left : afterHeader input = t.after := by
    have leads := turn_cases true t
    rw [stops, result] at leads
    unfold afterHeader
    generalize readHeader true (maxHeaderBytes + 1) none input = decision at leads ⊢
    cases leads with
    | waits open_ => cases open_
    | done fresh nothing =>
      rw [nothing, List.append_eq_nil_iff] at taken
      exact taken.2.symm
    | fails e something => rfl
    | completes n own isLine isLast fits known => rfl
  refine ⟨head ++ t.line, ?_, ?_, ?_⟩
  · rw [left, List.append_assoc, taken]
    exact whole
  · have bound := used_add_length_line_le run
    have fresh : (start input).used = 0 := rfl
    rw [List.length_append]
    omega
  · intro some nothing
    rw [List.append_eq_nil_iff, HeaderState.line_eq_nil_iff] at nothing
    rw [nothing.1, nothing.2] at whole
    exact some whole

/-! ## One call -/

/-- Whether a stream was at its end. -/
def ReadStep.isDone : ReadStep → Bool
  | .done => true
  | _ => false

/-- After the header a call takes no more than the longest body. -/
theorem exists_body (input : Bytes) : ∃ body, afterHeader input = body ++ (readStep input).2 ∧
    body.length ≤ maxFrameBytes := by
  have never := readFrame_ne_more input
  unfold readStep afterHeader
  rw [readFrame_eq_of_ended] at never ⊢
  cases header : readHeader true (maxHeaderBytes + 1) none input with
  | done => exact ⟨[], rfl, Nat.zero_le _⟩
  | more => exact absurd header (readHeader_of_ended input).1
  | failed e rest => exact ⟨[], rfl, Nat.zero_le _⟩
  | complete n rest =>
    by_cases long : maxFrameBytes < n
    · simp only [long, if_true]
      exact ⟨[], rfl, Nat.zero_le _⟩
    by_cases enough : n ≤ rest.length
    · simp only [long, enough, if_true, if_false]
      refine ⟨rest.take n, (List.take_append_drop n rest).symm, ?_⟩
      rw [List.length_take]
      omega
    · -- a body that is cut short is all that is left
      simp only [long, enough, if_false]
      exact ⟨rest, (List.append_nil rest).symm, by omega⟩

theorem isDone_readStep_iff {input : Bytes} : (readStep input).1.isDone = true ↔ input = [] := by
  have never := readFrame_ne_more input
  rw [← readFrame_eq_done_iff]
  unfold readStep
  cases result : readFrame true input with
  | frame body rest => simp [ReadStep.isDone]
  | done => simp [ReadStep.isDone]
  | failed e rest => simp [ReadStep.isDone]
  | more => exact absurd result never

/-- What a call leaves is a part of what it found, and a smaller one unless it found nothing. -/
theorem readStep_uses (input : Bytes) : (readStep input).2 <:+ input ∧
    ((readStep input).1.isDone = false → (readStep input).2.length < input.length) := by
  obtain ⟨head, whole, -, some⟩ := exists_head input
  obtain ⟨body, left, -⟩ := exists_body input
  have parts : input = (head ++ body) ++ (readStep input).2 := by
    rw [List.append_assoc, ← left]
    exact whole
  refine ⟨⟨head ++ body, parts.symm⟩, ?_⟩
  intro goesOn
  have filled : input ≠ [] := by
    intro nothing
    rw [isDone_readStep_iff.mpr nothing] at goesOn
    cases goesOn
  have used : 0 < head.length := List.length_pos_iff.mpr (some filled)
  have lengths := congrArg List.length parts
  rw [List.length_append, List.length_append] at lengths
  omega

/-- What one call on a stream does and does not do. -/
structure MakesProgress (input : Bytes) : Prop where
  /-- The call comes to a decision, and its header after a bounded number of lines. -/
  decides : readFrame true input ≠ .more ∧ ∃ count t, count ≤ maxHeaderBytes ∧
    Turns true count (start input) t ∧
    t.turn true = .stops (readHeader true (maxHeaderBytes + 1) none input)
  /-- Before each line of the header there is room for at least one byte, no matter how many
  lines came before: no more was used than a header may have, and the line takes no more than
  what is left of that and one byte, but something unless the stream is at its end. -/
  bounded : ∀ count t, Turns true count (start input) t →
    t.read true = readHeader true (maxHeaderBytes + 1) none input ∧ t.used ≤ maxHeaderBytes ∧
      t.room = maxHeaderBytes + 1 - t.used ∧ t.line.length ≤ maxHeaderBytes + 1 - t.used ∧
      (t.line = [] ↔ t.unread = [])
  /-- The call takes a header and a body, neither of which is too long. -/
  takes : ∃ head body, input = head ++ afterHeader input ∧
    afterHeader input = body ++ (readStep input).2 ∧ head.length ≤ maxHeaderBytes + 1 ∧
    body.length ≤ maxFrameBytes
  /-- Nothing is taken of a body that is announced as too long. -/
  overlong : ∀ n rest, readHeader true (maxHeaderBytes + 1) none input = .complete n rest →
    maxFrameBytes < n → readStep input = (.failed (.frameTooLong n), rest)
  /-- What is left is the end of what was there. -/
  leaves : (readStep input).2 <:+ input
  /-- Unless the stream is at its end, at least one byte is used. -/
  uses : (readStep input).1.isDone = false → (readStep input).2.length < input.length
  done_iff : (readStep input).1.isDone = true ↔ input = []

theorem makesProgress (input : Bytes) : MakesProgress input where
  decides := by
    obtain ⟨count, t, run, stops⟩ := exists_turns true (start input) (Nat.zero_le _)
    obtain ⟨least, most, -⟩ := run.uses (Nat.zero_le _)
    exact ⟨readFrame_ne_more input, count, t, by omega, run, stops⟩
  bounded := by
    intro count t run
    obtain ⟨-, fits, -⟩ := run.uses (Nat.zero_le _)
    have within := used_add_length_line_le run
    refine ⟨run.read_eq (Nat.zero_le _), fits, ?_, by omega, HeaderState.line_eq_nil_iff⟩
    unfold HeaderState.room
    omega
  takes := by
    obtain ⟨head, whole, short, -⟩ := exists_head input
    obtain ⟨body, left, fits⟩ := exists_body input
    exact ⟨head, body, whole, left, short, fits⟩
  overlong := by
    intro n rest header long
    unfold readStep
    rw [readFrame_eq_of_ended, header]
    simp only [long, if_true]
  leaves := (readStep_uses input).1
  uses := (readStep_uses input).2
  done_iff := isDone_readStep_iff

/-! ## Calls in a row -/

theorem unreadAfter_add (first second : Nat) (input : Bytes) :
    unreadAfter (first + second) input = unreadAfter second (unreadAfter first input) := by
  induction first generalizing input with
  | zero => rw [Nat.zero_add, unreadAfter]
  | succ first ih =>
    rw [Nat.add_right_comm, unreadAfter, unreadAfter, ih]

/-- Nothing follows the end of a stream. -/
theorem unreadAfter_nil (count : Nat) : unreadAfter count [] = [] := by
  have stays : (readStep []).2 = [] := by
    unfold readStep
    rw [readFrame_nil]
  induction count with
  | zero => rfl
  | succ count ih => rw [unreadAfter, stays, ih]

/-- Every frame and every error takes a byte. -/
theorem countP_readTimes_le (count : Nat) (input : Bytes) :
    (readTimes count input).countP (fun step => !step.isDone) ≤ input.length := by
  induction count generalizing input with
  | zero => exact Nat.zero_le _
  | succ count ih =>
    obtain ⟨leaves, uses⟩ := readStep_uses input
    have others := ih (readStep input).2
    have least := leaves.length_le
    rw [readTimes, List.countP_cons]
    cases ends : (readStep input).1.isDone with
    | true =>
      simp only [Bool.not_true, Bool.false_eq_true, if_false]
      omega
    | false =>
      have shorter := uses ends
      simp only [Bool.not_false, if_true]
      omega

/-- However often a stream was read from, also after errors, the next call decides within its
bounds and uses something, unless the stream is at its end; that is what every later call then
says as well. So there are no more frames and errors than the stream has bytes. -/
theorem makes_bounded_progress (input : Bytes) (count : Nat) :
    MakesProgress (unreadAfter count input) ∧
      (∀ more, (readStep (unreadAfter count input)).1.isDone = true →
        (readStep (unreadAfter (count + more) input)).1.isDone = true) ∧
      (readTimes count input).countP (fun step => !step.isDone) ≤ input.length := by
  refine ⟨makesProgress _, ?_, countP_readTimes_le count input⟩
  intro more ends
  rw [isDone_readStep_iff] at ends ⊢
  rw [unreadAfter_add, ends, unreadAfter_nil]

end LspClient.Framing
