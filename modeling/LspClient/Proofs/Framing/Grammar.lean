import LspClient.Proofs.Framing.Turn

/-!
# The grammar of frames

`IsFrame` says without the reader what a frame is: lines that are fields, an empty line, and as
many bytes as the fields announce. The reader accepts exactly that, `reads_exactly_frames`: a
stream that begins with a frame is read as that frame, an ended stream with nothing in it is
done, and everything else is an error.

One direction collects the lines that the turns of the reader took (`Turns.lines`), the other
follows the reader over given lines (`read_of_lines`). What the lines announce together meets
what the reader knows after each of them in `announces_cons`.
-/

namespace LspClient.Framing

/-! ## Headers -/

/-- The lines `lines` and the empty line `last` are the header of a body with `n` bytes. -/
structure IsHeader (lines : List (List Char)) (last : List Char) (n : Nat) : Prop where
  isLine : ∀ line ∈ lines, IsLine line
  other : ∀ line ∈ lines, ¬ IsLast line
  lastIsLine : IsLine last
  isLast : IsLast last
  fits : (Utf8.encode (lines.flatten ++ last)).length ≤ maxHeaderBytes
  fields : ∀ line ∈ lines, ':' ∈ line
  given : ∃ line ∈ lines, ∃ value, IsLengthField line value
  agree : ∀ line ∈ lines, ∀ value, IsLengthField line value → Decimal.Writes (Text.trim value) n

namespace HeaderState

/-- The lines that a run of turns took. -/
theorem Turns.lines {ended : Bool} {count : Nat} {s t : HeaderState} (run : Turns ended count s t) :
    ∃ lines : List (List Char), (∀ line ∈ lines, IsLine line) ∧ (∀ line ∈ lines, ¬ IsLast line) ∧
      s.unread = Utf8.encode lines.flatten ++ t.unread ∧
      t.used = s.used + (Utf8.encode lines.flatten).length ∧
      ∀ n, t.known = some n → Announces s.known lines n := by
  induction run with
  | none s => exact ⟨[], by simp, by simp, rfl, rfl, fun n known => announces_nil.mpr known⟩
  | @more count s t u first others ih =>
    obtain ⟨lines, isLine, other, unread, used, announces⟩ := ih
    obtain ⟨text, isLine', other', unread', used', -, headed⟩ := exists_of_goesOn first
    refine ⟨text :: lines, List.forall_mem_cons.mpr ⟨isLine', isLine⟩,
      List.forall_mem_cons.mpr ⟨other', other⟩, ?_, ?_, ?_⟩
    · rw [unread', unread, List.flatten_cons, Utf8.encode_append, List.append_assoc]
    · rw [used, used', List.flatten_cons, Utf8.encode_append, List.length_append, Nat.add_assoc]
    · intro n said
      exact announces_cons.mpr ⟨t.known, headed, announces n said⟩

/-- The reader goes over the lines of a header to its end. -/
theorem read_of_lines (ended : Bool) {lines : List (List Char)} {last : List Char} {n : Nat}
    {rest : Bytes} {s : HeaderState} (isLine : ∀ line ∈ lines, IsLine line)
    (other : ∀ line ∈ lines, ¬ IsLast line) (lastIsLine : IsLine last) (isLast : IsLast last)
    (front : s.unread = Utf8.encode (lines.flatten ++ last) ++ rest)
    (fits : s.used + (Utf8.encode (lines.flatten ++ last)).length ≤ maxHeaderBytes)
    (announces : Announces s.known lines n) : s.read ended = .complete n rest := by
  have within : s.used ≤ maxHeaderBytes := by omega
  rw [read_eq_turn ended within]
  induction lines generalizing s with
  | nil =>
    have turned := (turn_of_isLine ended lastIsLine front fits).1 n isLast
      (announces_nil.mp announces)
    rw [turned]
  | cons line lines ih =>
    obtain ⟨own, isLine⟩ := List.forall_mem_cons.mp isLine
    obtain ⟨notLast, other⟩ := List.forall_mem_cons.mp other
    obtain ⟨known, headed, announces⟩ := announces_cons.mp announces
    rw [List.flatten_cons, List.append_assoc, Utf8.encode_append] at front fits
    rw [List.append_assoc] at front
    rw [List.length_append] at fits
    have turned := (turn_of_isLine ended own front (by omega)).2 known notLast headed
    rw [turned]
    dsimp only
    have within : s.used + (Utf8.encode line).length ≤ maxHeaderBytes := by omega
    rw [read_eq_turn ended within]
    exact ih isLine other rfl (by dsimp only; omega) announces within

end HeaderState

open HeaderState (exists_turns exists_of_completes start turn_cases)

/-- A header is read exactly where one stands, and the reader stops right after it. -/
theorem readHeader_eq_complete_iff {ended : Bool} {input rest : Bytes} {n : Nat} :
    readHeader ended (maxHeaderBytes + 1) none input = .complete n rest ↔
      ∃ lines last, IsHeader lines last n ∧
        input = Utf8.encode (lines.flatten ++ last) ++ rest := by
  constructor
  · intro complete
    obtain ⟨count, t, run, stops⟩ := exists_turns ended (start input) (Nat.zero_le _)
    have result : (start input).read ended = .complete n rest := complete
    rw [result] at stops
    obtain ⟨lines, isLine, other, unread, used, announces⟩ := run.lines
    obtain ⟨last, lastIsLine, isLast, unread', fits, known⟩ := exists_of_completes stops
    have said := announces n known
    have front : input = Utf8.encode (lines.flatten ++ last) ++ rest := by
      rw [Utf8.encode_append, List.append_assoc, ← unread', ← unread]
      rfl
    have short : (Utf8.encode (lines.flatten ++ last)).length ≤ maxHeaderBytes := by
      have fresh : (start input).used = 0 := rfl
      rw [Utf8.encode_append, List.length_append]
      omega
    have given : ∃ line ∈ lines, ∃ value, IsLengthField line value := by
      rcases said.given with none | given
      · cases none
      · exact given
    exact ⟨lines, last, ⟨isLine, other, lastIsLine, isLast, short, said.fields, given, said.agree⟩,
      front⟩
  · rintro ⟨lines, last, header, front⟩
    have announces : Announces none lines n :=
      ⟨header.fields, header.agree, .inl rfl, .inr header.given⟩
    refine HeaderState.read_of_lines ended (s := start input) header.isLine header.other
      header.lastIsLine header.isLast front ?_ announces
    exact (Nat.zero_add _).trans_le header.fits

/-! ## Frames -/

/-- A stream that begins with a frame: a header, and as many bytes as it announces, which are
not too many. `rest` is what follows. -/
def IsFrame (input body rest : Bytes) : Prop :=
  ∃ lines last, IsHeader lines last body.length ∧ body.length ≤ maxFrameBytes ∧
    input = Utf8.encode (lines.flatten ++ last) ++ body ++ rest

theorem splitBody_eq_some_iff {n : Nat} {input body rest : Bytes} :
    splitBody n input = some (body, rest) ↔ input = body ++ rest ∧ body.length = n := by
  unfold splitBody
  dsimp only
  constructor
  · intro h
    split at h
    · next enough =>
      cases h
      exact ⟨(List.take_append_drop n input).symm, enough⟩
    · cases h
  · rintro ⟨rfl, rfl⟩
    simp

/-- A frame is read exactly where one stands, also from a stream that may still grow. -/
theorem readFrame_eq_frame_iff {ended : Bool} {input body rest : Bytes} :
    readFrame ended input = .frame body rest ↔ IsFrame input body rest := by
  constructor
  · intro h
    unfold readFrame at h
    cases header : readHeader ended (maxHeaderBytes + 1) none input with
    | done | more | failed e left =>
      rw [header] at h
      cases h
    | complete n left =>
      rw [header] at h
      dsimp only at h
      obtain ⟨lines, last, isHeader, front⟩ := readHeader_eq_complete_iff.mp header
      by_cases long : maxFrameBytes < n
      · rw [if_pos long] at h
        cases h
      rw [if_neg long] at h
      cases halves : splitBody n left with
      | none =>
        rw [halves] at h
        cases ended <;> cases h
      | some found =>
        rw [halves] at h
        cases h
        obtain ⟨own, length⟩ := splitBody_eq_some_iff.mp halves
        refine ⟨lines, last, length.symm ▸ isHeader, length.symm ▸ Nat.le_of_not_lt long, ?_⟩
        rw [front, own, List.append_assoc]
  · rintro ⟨lines, last, isHeader, fits, front⟩
    have header : readHeader ended (maxHeaderBytes + 1) none input =
        .complete body.length (body ++ rest) :=
      readHeader_eq_complete_iff.mpr ⟨lines, last, isHeader, by rw [front, List.append_assoc]⟩
    have halves : splitBody body.length (body ++ rest) = some (body, rest) :=
      splitBody_eq_some_iff.mpr ⟨rfl, rfl⟩
    unfold readFrame
    rw [header]
    simp only [if_neg (Nat.not_lt.mpr fits), halves]

/-! ## Streams that have ended -/

/-- What reading from a stream that has ended leads to, by what its header says. -/
theorem readFrame_eq_of_ended (input : Bytes) : readFrame true input =
    match readHeader true (maxHeaderBytes + 1) none input with
    | .done => .done
    | .more => .more
    | .failed e rest => .failed e rest
    | .complete n rest =>
      if maxFrameBytes < n then .failed (.frameTooLong n) rest
      else if n ≤ rest.length then .frame (rest.take n) (rest.drop n)
      else .failed (.endInBody n) [] := by
  unfold readFrame splitBody
  cases readHeader true (maxHeaderBytes + 1) none input with
  | done | more | failed e rest => rfl
  | complete n rest =>
    by_cases enough : n ≤ rest.length
    · have length : (rest.take n).length = n := List.length_take_of_le enough
      simp only [length, enough, if_true]
    · have length : (rest.take n).length ≠ n := by
        rw [List.length_take]
        omega
      simp only [length, enough, if_false, if_true]

/-- A reader need not wait for more, and is done only where nothing is left. -/
theorem readHeader_of_ended (input : Bytes) :
    readHeader true (maxHeaderBytes + 1) none input ≠ .more ∧
      (readHeader true (maxHeaderBytes + 1) none input = .done → input = []) := by
  obtain ⟨count, t, run, stops⟩ := exists_turns true (start input) (Nat.zero_le _)
  have result : (start input).read true = readHeader true (maxHeaderBytes + 1) none input := rfl
  have leads := turn_cases true t
  rw [stops, result] at leads
  constructor
  · intro waits
    rw [waits] at leads
    cases leads with
    | waits open_ => cases open_
  · intro done
    rw [done] at leads
    cases leads with
    | done fresh nothing =>
      obtain ⟨-, -, head, unread, used⟩ := run.uses (Nat.zero_le _)
      have none : head = [] := List.eq_nil_of_length_eq_zero (by omega)
      rw [none, nothing] at unread
      exact unread

theorem readFrame_ne_more (input : Bytes) : readFrame true input ≠ .more := by
  have never := (readHeader_of_ended input).1
  rw [readFrame_eq_of_ended]
  cases header : readHeader true (maxHeaderBytes + 1) none input with
  | more => exact absurd header never
  | done | failed e rest => simp
  | complete n rest =>
    dsimp only
    split
    · simp
    split <;> simp

theorem readFrame_eq_done_iff {input : Bytes} : readFrame true input = .done ↔ input = [] := by
  constructor
  · intro done
    have ends := (readHeader_of_ended input).2
    rw [readFrame_eq_of_ended] at done
    cases header : readHeader true (maxHeaderBytes + 1) none input with
    | done => exact ends header
    | more | failed e rest =>
      rw [header] at done
      cases done
    | complete n rest =>
      rw [header] at done
      dsimp only at done
      split at done
      · cases done
      split at done <;> cases done
  · rintro rfl
    exact readFrame_nil

/-- The reader accepts exactly the grammar: what it reads from a stream is the frame that the
stream begins with, ended or not; it is done exactly when an ended stream has nothing left;
and any other stream is an error. -/
theorem reads_exactly_frames (input : Bytes) :
    (∀ ended body rest, readFrame ended input = .frame body rest ↔ IsFrame input body rest) ∧
      (readFrame true input = .done ↔ input = []) ∧
      ((∃ body rest, IsFrame input body rest) ∨ input = [] ∨
        ∃ e rest, readFrame true input = .failed e rest) := by
  refine ⟨fun ended body rest => readFrame_eq_frame_iff, readFrame_eq_done_iff, ?_⟩
  cases result : readFrame true input with
  | frame body rest => exact .inl ⟨body, rest, readFrame_eq_frame_iff.mp result⟩
  | done => exact .inr (.inl (readFrame_eq_done_iff.mp result))
  | failed e rest => exact .inr (.inr ⟨e, rest, rfl⟩)
  | more => exact absurd result (readFrame_ne_more input)

end LspClient.Framing
