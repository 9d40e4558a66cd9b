import LspClient.Framing.Reader
import LspClient.Framing.Writer
import LspClient.Proofs.Decimal.Natural
import LspClient.Proofs.Text.Blank
import LspClient.Proofs.Text.Utf8

/-!
# Written frames are read back

A written body starts with two lines: its length, and an empty one. `readHeader_header`
follows the reader through both, which takes that the length line is one line
(`newline_not_mem_encode_lengthLine`), is cut off nowhere (`length_lengthLine`), and has the
length as its value (`headerLine_lengthLine`). From there the reader takes as many bytes as
the body has, whatever they look like: `readFrame_frame`.

A body longer than `maxFrameBytes` is refused, also one whose length no 64-bit number
holds: `readFrame_frame_of_long`. `written_frames_read_back` is then an induction over the
bodies.
-/

namespace LspClient.Framing

open Decimal (isDigit_range isDigit_of_mem_toDigits)

/-! ## Taking a line -/

/-- A line is taken up to and with its newline, as far as the budget goes. -/
theorem takeLine_newline {line : Bytes} (h : newline ∉ line) (budget : Nat) (rest : Bytes) :
    takeLine budget (line ++ newline :: rest) =
      ((line ++ [newline]).take budget, (line ++ [newline]).drop budget ++ rest) := by
  induction line generalizing budget with
  | nil =>
    cases budget with
    | zero => simp [takeLine]
    | succ budget => simp [takeLine]
  | cons b line ih =>
    have other : b ≠ newline := fun e => h (e ▸ List.mem_cons_self)
    have left := ih fun hm => h (List.mem_cons_of_mem _ hm)
    cases budget with
    | zero => simp [takeLine]
    | succ budget => simp [takeLine, other, left]

section

variable {ended : Bool} {budget : Nat} {length : Option Nat} {text : List Char}
  {line rest input : Bytes}

/-- What a header line leads to that fits and has its newline. -/
theorem readHeader_of_takeLine (taken : takeLine budget input = (line, rest))
    (ends : line.getLast? = some newline) (fits : line.length < budget)
    (decoded : Utf8.decode line = .ok text) : readHeader ended budget length input =
      match stripLineEnd text with
      | [] =>
        match length with
        | some n => .complete n rest
        | none => .failed .missingLength rest
      | stripped =>
        match headerLine length stripped with
        | .error e => .failed e rest
        | .ok length => readHeader ended (budget - line.length) length rest := by
  have whole : lineIsOpen ended budget line = false := by simp [lineIsOpen, ends]
  have nonempty : line ≠ [] := by
    intro e
    rw [e] at ends
    cases ends
  rw [readHeader.eq_def]
  cases field : stripLineEnd text with
  | nil =>
    cases length <;>
      simp only [taken, whole, decoded, ends, nonempty, field, Nat.not_le.mpr fits, dite_false,
        ne_eq, not_true_eq_false, if_false, Bool.false_eq_true]
  | cons c cs =>
    cases headed : headerLine length (c :: cs) <;>
      simp only [taken, whole, decoded, ends, nonempty, field, headed, Nat.not_le.mpr fits,
        dite_false, ne_eq, not_true_eq_false, if_false, Bool.false_eq_true]

/-- A line that takes up the whole budget is too long. -/
theorem readHeader_of_long (taken : takeLine budget input = (line, rest)) (some : line ≠ [])
    (long : budget ≤ line.length) (decoded : Utf8.decode line = .ok text) :
    readHeader ended budget length input = .failed .headerTooLong rest := by
  have whole : lineIsOpen ended budget line = false := by
    simp [lineIsOpen, Nat.not_lt.mpr long]
  rw [readHeader.eq_def]
  simp only [taken, whole, decoded, some, long, dite_false, dite_true, if_false,
    Bool.false_eq_true]

end

/-! ## The length line -/

/-- The field that says how many bytes follow a header. -/
def lengthField (n : Nat) : List Char := lengthName.toList ++ ':' :: ' ' :: Nat.toDigits 10 n

/-- The first line of a header, up to its newline. -/
def lengthLine (n : Nat) : List Char := lengthField n ++ ['\r']

theorem isBlank_of_isDigit {c : Char} (h : c.isDigit = true) : Text.isBlank c = false := by
  have range := isDigit_range h
  simp [Text.isBlank]
  omega

theorem lengthField_eq (n : Nat) :
    lengthField n = "Content-Length: ".toList ++ Nat.toDigits 10 n := rfl

theorem length_lengthLine (n : Nat) : (lengthLine n).length = 17 + (Nat.toDigits 10 n).length := by
  have fixed : "Content-Length: ".toList.length = 16 := rfl
  rw [lengthLine, lengthField_eq, List.length_append, List.length_append, fixed,
    List.length_singleton]
  omega

/-- The line consists of a fixed text and digits. -/
theorem forall_mem_lengthLine {p : Char → Bool} (fixed : "Content-Length: ".toList.all p = true)
    (digit : ∀ c, c.isDigit = true → p c = true) (ends : p '\r' = true) (n : Nat) :
    ∀ c ∈ lengthLine n, p c = true := by
  rw [lengthLine, lengthField_eq, List.forall_mem_append, List.forall_mem_append]
  refine ⟨⟨List.all_eq_true.mp fixed, ?_⟩, ?_⟩
  · intro c hc
    exact digit c (isDigit_of_mem_toDigits hc)
  · intro c hc
    rwa [List.mem_singleton.mp hc]

theorem ascii_lengthLine (n : Nat) : ∀ c ∈ lengthLine n, c.toNat < 0x80 := by
  have small : ∀ c ∈ lengthLine n, decide (c.toNat < 0x80) = true := by
    refine forall_mem_lengthLine (by decide) ?_ (by decide) n
    intro c hc
    have range := isDigit_range hc
    exact decide_eq_true (by omega)
  exact fun c hc => of_decide_eq_true (small c hc)

/-- So is the line with its newline. -/
theorem ascii_wholeLine (n : Nat) : ∀ c ∈ lengthLine n ++ ['\n'], c.toNat < 0x80 := by
  intro c hc
  rcases List.mem_append.mp hc with inner | last
  · exact ascii_lengthLine n c inner
  · rw [List.mem_singleton.mp last]
    decide

theorem newline_not_mem_lengthLine (n : Nat) : newline ∉ Utf8.encode (lengthLine n) := by
  have other : ∀ c ∈ lengthLine n, (c.toNat != 0x0A) = true := by
    refine forall_mem_lengthLine (by decide) ?_ (by decide) n
    intro c hc
    have range := isDigit_range hc
    exact bne_iff_ne.mpr (by omega)
  intro mem
  rw [Utf8.encode_of_ascii (ascii_lengthLine n)] at mem
  obtain ⟨c, hc, same⟩ := List.mem_map.mp mem
  have small : c.toNat < 256 := Nat.lt_trans (ascii_lengthLine n c hc) (by decide)
  exact bne_iff_ne.mp (other c hc) ((Utf8.ofNat_inj_of_lt (m := 0x0A) small (by decide)).mp same)

/-- Taken off its line end, the line is the field. -/
theorem stripLineEnd_lengthLine (n : Nat) :
    stripLineEnd (lengthLine n ++ ['\n']) = lengthField n := by
  unfold stripLineEnd lengthLine
  rw [Text.dropEnd_append (List.all_eq_true.mp (by decide)),
    Text.dropEnd_append (List.all_eq_true.mp (by decide))]
  refine Text.dropEnd_eq_self ?_
  intro c last
  have digit : c ∈ Nat.toDigits 10 n := by
    have nonempty : Nat.toDigits 10 n ≠ [] := Nat.toDigits_ne_nil
    rw [lengthField_eq, List.getLast?_append, List.getLast?_eq_some_getLast nonempty,
      Option.some_or, Option.some.injEq] at last
    exact last ▸ List.getLast_mem nonempty
  have range := isDigit_range (isDigit_of_mem_toDigits digit)
  have cr : c ≠ '\r' := by
    intro e
    exact absurd (e ▸ range) (by decide)
  have lf : c ≠ '\n' := by
    intro e
    exact absurd (e ▸ range) (by decide)
  simp [cr, lf]

/-- The field says the length, if the length is a 64-bit number. -/
theorem headerLine_lengthField (n : Nat) : headerLine none (lengthField n) =
    if n < 2 ^ 64 then .ok (some n)
    else .error (.invalidLength (String.ofList (Nat.toDigits 10 n)) .tooLarge) := by
  have colon : splitAtColon (lengthField n) =
      some (lengthName.toList, ' ' :: Nat.toDigits 10 n) := by
    have name : ∀ c ∈ lengthName.toList, (c != ':') = true :=
      List.all_eq_true.mp (by decide)
    unfold splitAtColon lengthField
    rw [List.dropWhile_append_of_pos name, List.takeWhile_append_of_pos name]
    simp
  have value : Text.trim (' ' :: Nat.toDigits 10 n) = Nat.toDigits 10 n := by
    rw [Text.trim_cons (by decide)]
    exact Text.trim_eq_self fun c hc => isBlank_of_isDigit (isDigit_of_mem_toDigits hc)
  have named : isLengthName lengthName.toList = true := by decide
  unfold headerLine
  simp only [colon, named, value, if_true, Decimal.natural_toDigits]
  by_cases fits : n < 2 ^ 64
  · simp only [if_pos fits]
  · simp only [if_neg fits]

/-! ## Reading a header -/

/-- The header is the length line and an empty one. -/
theorem header_append (n : Nat) (rest : Bytes) : header n ++ rest =
    Utf8.encode (lengthLine n) ++ newline :: 0x0D :: newline :: rest := by
  have parts : lengthName.toList ++ ':' :: ' ' :: Nat.toDigits 10 n ++ ['\r', '\n', '\r', '\n'] =
      lengthLine n ++ ['\n', '\r', '\n'] := by simp [lengthLine, lengthField]
  unfold header
  rw [parts, Utf8.encode_append, List.append_assoc]
  rfl

/-- The first line of a header, as far as the budget goes. -/
theorem takeLine_header (n budget : Nat) (rest : Bytes) :
    takeLine budget (header n ++ rest) =
      (Utf8.encode ((lengthLine n ++ ['\n']).take budget),
        (Utf8.encode (lengthLine n ++ ['\n'])).drop budget ++ 0x0D :: newline :: rest) := by
  have line : Utf8.encode (lengthLine n) ++ [newline] = Utf8.encode (lengthLine n ++ ['\n']) := by
    rw [Utf8.encode_append]
    rfl
  have ascii := ascii_wholeLine n
  rw [header_append, takeLine_newline (newline_not_mem_lengthLine n), line,
    Utf8.encode_take ascii]

/-- A length line within the budget is read, and the reader goes on after it. -/
theorem readHeader_lengthLine (ended : Bool) {n budget : Nat} (rest : Bytes)
    (fits : (lengthLine n).length + 1 < budget) :
    readHeader ended budget none (header n ++ rest) =
      if n < 2 ^ 64 then
        readHeader ended (budget - ((lengthLine n).length + 1)) (some n) (0x0D :: newline :: rest)
      else .failed (.invalidLength (String.ofList (Nat.toDigits 10 n)) .tooLarge)
        (0x0D :: newline :: rest) := by
  have ascii := ascii_wholeLine n
  have length : (Utf8.encode (lengthLine n ++ ['\n'])).length = (lengthLine n).length + 1 := by
    rw [Utf8.length_encode_of_ascii ascii, List.length_append, List.length_singleton]
  have taken : takeLine budget (header n ++ rest) =
      (Utf8.encode (lengthLine n ++ ['\n']), 0x0D :: newline :: rest) := by
    rw [takeLine_header, Utf8.encode_take ascii, List.take_of_length_le (by omega),
      List.drop_of_length_le (by omega), List.nil_append]
  have ends : (Utf8.encode (lengthLine n ++ ['\n'])).getLast? = some newline := by
    rw [Utf8.encode_append]
    exact List.getLast?_concat
  rw [readHeader_of_takeLine taken ends (by omega) (Utf8.decode_encode _),
    stripLineEnd_lengthLine, length]
  show (match headerLine none (lengthField n) with
    | .error e => _
    | .ok length => _) = _
  rw [headerLine_lengthField]
  by_cases small : n < 2 ^ 64
  · simp only [if_pos small]
  · simp only [if_neg small]

/-- The empty line ends a header with a length. -/
theorem readHeader_emptyLine (ended : Bool) {budget : Nat} (n : Nat) (rest : Bytes)
    (fits : 2 < budget) :
    readHeader ended budget (some n) (0x0D :: newline :: rest) = .complete n rest := by
  have taken : takeLine budget ([0x0D] ++ newline :: rest) = ([0x0D, newline], rest) := by
    have whole : ([0x0D] ++ [newline] : Bytes).length ≤ budget := Nat.le_of_lt fits
    rw [takeLine_newline (by decide), List.take_of_length_le whole, List.drop_of_length_le whole]
    rfl
  exact readHeader_of_takeLine taken rfl fits (Utf8.decode_encode ['\r', '\n'])

/-- A header is read as its length, if that is a 64-bit number, and the reader stops right
after it. -/
theorem readHeader_header (ended : Bool) {n : Nat} (rest : Bytes) (h : n < 2 ^ 64) :
    readHeader ended (maxHeaderBytes + 1) none (header n ++ rest) = .complete n rest := by
  have digits : (Nat.toDigits 10 n).length ≤ 20 :=
    (Nat.length_toDigits_le_iff (by decide) (by decide)).mpr (Nat.lt_trans h (by decide))
  have length := length_lengthLine n
  have budget : maxHeaderBytes + 1 = 8193 := rfl
  rw [readHeader_lengthLine ended rest (by omega), if_pos h,
    readHeader_emptyLine ended n rest (by omega)]

/-- A length that is no 64-bit number is refused, and so is one with too many digits. -/
theorem readHeader_header_of_large (ended : Bool) {n : Nat} (rest : Bytes) (h : ¬ n < 2 ^ 64) :
    ∃ e left, readHeader ended (maxHeaderBytes + 1) none (header n ++ rest) = .failed e left := by
  by_cases fits : (lengthLine n).length + 1 < maxHeaderBytes + 1
  · rw [readHeader_lengthLine ended rest fits, if_neg h]
    exact ⟨_, _, rfl⟩
  · have ascii : ∀ c ∈ (lengthLine n ++ ['\n']).take (maxHeaderBytes + 1), c.toNat < 0x80 := by
      intro c hc
      exact ascii_wholeLine n c (List.mem_of_mem_take hc)
    have length : (Utf8.encode ((lengthLine n ++ ['\n']).take (maxHeaderBytes + 1))).length =
        maxHeaderBytes + 1 := by
      rw [Utf8.length_encode_of_ascii ascii, List.length_take, List.length_append,
        List.length_singleton]
      omega
    have nonempty : Utf8.encode ((lengthLine n ++ ['\n']).take (maxHeaderBytes + 1)) ≠ [] := by
      intro e
      rw [e] at length
      cases length
    exact ⟨_, _, readHeader_of_long (takeLine_header n _ rest) nonempty (by omega)
      (Utf8.decode_encode _)⟩

/-! ## Reading a frame -/

/-- A body that is not too long is read back, and the reader stops right after it. -/
theorem readFrame_frame (ended : Bool) {body : Bytes} (rest : Bytes)
    (h : body.length ≤ maxFrameBytes) :
    readFrame ended (frame body ++ rest) = .frame body rest := by
  have small : body.length < 2 ^ 64 := Nat.lt_of_le_of_lt h (by decide)
  have split : splitBody body.length (body ++ rest) = some (body, rest) := by
    unfold splitBody
    simp
  unfold readFrame frame
  rw [List.append_assoc, readHeader_header ended _ small]
  simp only [if_neg (Nat.not_lt.mpr h), split]

/-- A body that is too long is refused. -/
theorem readFrame_frame_of_long (ended : Bool) {body : Bytes} (rest : Bytes)
    (h : maxFrameBytes < body.length) :
    ∃ e left, readFrame ended (frame body ++ rest) = .failed e left := by
  unfold readFrame frame
  rw [List.append_assoc]
  by_cases small : body.length < 2 ^ 64
  · rw [readHeader_header ended _ small]
    simp only [if_pos h]
    exact ⟨_, _, rfl⟩
  · obtain ⟨e, left, failed⟩ := readHeader_header_of_large ended (body ++ rest) small
    rw [failed]
    exact ⟨e, left, rfl⟩

/-- A stream that ends between frames is done. -/
theorem readFrame_nil : readFrame true [] = .done := by
  have nothing : readHeader true (maxHeaderBytes + 1) none [] = .done := by
    rw [readHeader.eq_def]
    rfl
  unfold readFrame
  rw [nothing]

/-- Nothing is read from a stream that may still grow, as long as nothing is there. -/
theorem readFrame_of_open_nil : readFrame false [] = .more := by
  have nothing : readHeader false (maxHeaderBytes + 1) none [] = .more := by
    rw [readHeader.eq_def]
    rfl
  unfold readFrame
  rw [nothing]

/-! ## Writing and reading many frames -/

/-- Writes bodies as frames, one after the other. -/
def Sink.writeFrames (sink : Sink) (bodies : List Bytes) : Sink :=
  bodies.foldl (fun sink body => (sink.writeFrame body).1) sink

/-- What is left of a stream after `count` reads in a row. -/
def unreadAfter : Nat → Bytes → Bytes
  | 0, input => input
  | count + 1, input => unreadAfter count (readStep input).2

theorem Sink.writeFrame_of_room {sink : Sink} (h : sink.room = none) (body : Bytes) :
    sink.writeFrame body = ({ sink with writes := frame body :: sink.writes }, .ok ()) := by
  have wrote : sink.write (frame body) =
      ({ sink with writes := frame body :: sink.writes }, .ok ()) := by
    unfold Sink.write
    simp only [h]
  have flushed : ({ sink with writes := frame body :: sink.writes } : Sink).flush = .ok () := by
    unfold Sink.flush
    simp [h]
  unfold Sink.writeFrame
  rw [wrote]
  dsimp only
  rw [flushed]
  rfl

theorem Sink.contents_writeFrames {sink : Sink} (h : sink.room = none) (bodies : List Bytes) :
    (sink.writeFrames bodies).contents = sink.contents ++ bodies.flatMap frame := by
  induction bodies generalizing sink with
  | nil => exact (List.append_nil _).symm
  | cons body bodies ih =>
    have first := writeFrame_of_room h body
    have roomy : (sink.writeFrame body).1.room = none := by
      rw [first]
      exact h
    have rest := ih roomy
    show ((sink.writeFrame body).1.writeFrames bodies).contents = _
    rw [rest, first, List.flatMap_cons]
    simp [Sink.contents]

theorem readTimes_frames (bodies : List Bytes) (rest : Bytes)
    (h : ∀ body ∈ bodies, body.length ≤ maxFrameBytes) :
    readTimes bodies.length (bodies.flatMap frame ++ rest) = bodies.map .frame ∧
      unreadAfter bodies.length (bodies.flatMap frame ++ rest) = rest := by
  induction bodies with
  | nil => exact ⟨rfl, rfl⟩
  | cons body bodies ih =>
    have step : readStep ((body :: bodies).flatMap frame ++ rest) =
        (.frame body, bodies.flatMap frame ++ rest) := by
      unfold readStep
      rw [List.flatMap_cons, List.append_assoc, readFrame_frame true _ (h body List.mem_cons_self)]
    obtain ⟨answers, left⟩ := ih fun b hb => h b (List.mem_cons_of_mem _ hb)
    constructor
    · rw [List.length_cons, readTimes, step, List.map_cons]
      simp only [answers]
    · rw [List.length_cons, unreadAfter, step]
      exact left

/-- Frames that were written are read back in order, whatever their bodies look like and
whatever follows them, and the reader stops where they end. A body that is too long is
refused, after all that come before it. -/
theorem written_frames_read_back (bodies : List Bytes) (rest : Bytes) :
    ((∀ body ∈ bodies, body.length ≤ maxFrameBytes) →
      readTimes bodies.length ((Sink.writeFrames {} bodies).contents ++ rest) =
          bodies.map .frame ∧
        unreadAfter bodies.length ((Sink.writeFrames {} bodies).contents ++ rest) = rest ∧
        (rest = [] → readStep rest = (.done, []))) ∧
      ∀ before big after, bodies = before ++ big :: after →
        (∀ body ∈ before, body.length ≤ maxFrameBytes) → maxFrameBytes < big.length →
        readTimes before.length ((Sink.writeFrames {} bodies).contents ++ rest) =
            before.map .frame ∧
          ∃ e, (readStep (unreadAfter before.length
            ((Sink.writeFrames {} bodies).contents ++ rest))).1 = .failed e := by
  have written : (Sink.writeFrames {} bodies).contents = bodies.flatMap frame :=
    Sink.contents_writeFrames rfl bodies
  rw [written]
  constructor
  · intro fits
    obtain ⟨answers, left⟩ := readTimes_frames bodies rest fits
    refine ⟨answers, left, ?_⟩
    intro ended
    rw [ended, readStep, readFrame_nil]
  · intro before big after all fits long
    rw [all, List.flatMap_append, List.append_assoc]
    obtain ⟨answers, left⟩ := readTimes_frames before ((big :: after).flatMap frame ++ rest) fits
    refine ⟨answers, ?_⟩
    rw [left, List.flatMap_cons, List.append_assoc]
    obtain ⟨e, unread, failed⟩ := readFrame_frame_of_long true (after.flatMap frame ++ rest) long
    refine ⟨e, ?_⟩
    unfold readStep
    rw [failed]

/-- An empty body and one that is a header itself are read back, and what follows them is
left; a body with a byte too many is not read. -/
theorem header_read_back_as_body :
    (readTimes 2 ((Sink.writeFrames {} [[], header 3]).contents ++ [0x21]) =
        [.frame [], .frame (header 3)] ∧
      unreadAfter 2 ((Sink.writeFrames {} [[], header 3]).contents ++ [0x21]) = [0x21]) ∧
      ∃ e, (readStep ((Sink.writeFrames {} [List.replicate (maxFrameBytes + 1) 0]).contents ++
        [])).1 = .failed e := by
  constructor
  · have fits : ∀ body ∈ [[], header 3], body.length ≤ maxFrameBytes := by decide
    obtain ⟨answers, left, _⟩ := (written_frames_read_back [[], header 3] [0x21]).1 fits
    exact ⟨answers, left⟩
  · have long : maxFrameBytes < (List.replicate (maxFrameBytes + 1) (0 : UInt8)).length := by
      rw [List.length_replicate]
      exact Nat.lt_succ_self _
    have none : ∀ body ∈ ([] : List Bytes), body.length ≤ maxFrameBytes := by simp
    exact ((written_frames_read_back [List.replicate (maxFrameBytes + 1) 0] []).2 [] _ [] rfl
      none long).2

end LspClient.Framing
