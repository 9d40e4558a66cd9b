import LspClient.Proofs.Framing.Line

/-!
# A header, line by line

`HeaderState` is where the reader of a header stands between two lines, with the bytes it has
used counted up, and `HeaderState.turn` is what it does with one line. `readHeader_eq_turn`
says that reading a header is that, again and again. All that a turn can lead to is said once,
in `turn_cases`; `turn_of_isLine` is the turn that takes a whole line.

A run of turns is `Turns`. As every turn uses up bytes, and only so many may be used, the
reader comes to a decision after a bounded number of them: `exists_turns`.
-/

namespace LspClient.Framing

/-- The reader of a header between two lines. -/
structure HeaderState where
  /-- How many bytes the lines before had. -/
  used : Nat
  /-- The length of the body, as far as those lines gave it. -/
  known : Option Nat
  /-- What is left of the stream. -/
  unread : Bytes

/-- What one line leads to. -/
inductive Turn where
  | goesOn (next : HeaderState)
  | stops (result : HeaderResult)

namespace HeaderState

/-- The reader before the first line. -/
def start (input : Bytes) : HeaderState := ⟨0, none, input⟩

/-- How many bytes of the next line are looked at: one more than the header may still have, so
that a header that is too long is told from one that just fits. -/
def room (s : HeaderState) : Nat := maxHeaderBytes - s.used + 1

/-- The next line, as far as there is room for it. -/
def line (s : HeaderState) : Bytes := (takeLine s.room s.unread).1

/-- What follows the next line. -/
def after (s : HeaderState) : Bytes := (takeLine s.room s.unread).2

/-- Takes one line. -/
def turn (ended : Bool) (s : HeaderState) : Turn :=
  if lineIsOpen ended s.room s.line then .stops .more
  else
    match Utf8.decode s.line with
    | .error fault => .stops (.failed (.headerNotText fault) s.after)
    | .ok text =>
      if s.line = [] then
        if s.used = 0 then .stops .done else .stops (.failed .endInHeader s.after)
      else if maxHeaderBytes < s.used + s.line.length then .stops (.failed .headerTooLong s.after)
      else if s.line.getLast? ≠ some newline then .stops (.failed .endInHeader s.after)
      else
        match stripLineEnd text with
        | [] =>
          match s.known with
          | some n => .stops (.complete n s.after)
          | none => .stops (.failed .missingLength s.after)
        | stripped =>
          match headerLine s.known stripped with
          | .error e => .stops (.failed e s.after)
          | .ok known => .goesOn ⟨s.used + s.line.length, known, s.after⟩

/-- Reads the rest of the header. -/
def read (ended : Bool) (s : HeaderState) : HeaderResult :=
  readHeader ended s.room s.known s.unread

/-- Reading a header is taking one line, and reading on if that does not end it. -/
theorem read_eq_turn (ended : Bool) {s : HeaderState} (h : s.used ≤ maxHeaderBytes) :
    s.read ended =
      match s.turn ended with
      | .goesOn t => t.read ended
      | .stops result => result := by
  have first : s.room = maxHeaderBytes + 1 ↔ s.used = 0 := by
    unfold room
    omega
  have long : s.room ≤ s.line.length ↔ maxHeaderBytes < s.used + s.line.length := by
    unfold room
    omega
  have taken : takeLine s.room s.unread = (s.line, s.after) := rfl
  unfold read turn
  rw [readHeader.eq_def]
  simp only [taken, first, long]
  by_cases open_ : lineIsOpen ended s.room s.line = true
  · simp only [open_, if_true]
  simp only [open_, if_false, Bool.false_eq_true]
  cases Utf8.decode s.line with
  | error fault => rfl
  | ok text =>
    by_cases nothing : s.line = []
    · by_cases fresh : s.used = 0 <;> simp [nothing, fresh]
    by_cases tooLong : maxHeaderBytes < s.used + s.line.length
    · simp [nothing, tooLong]
    by_cases cut : s.line.getLast? = some newline
    · simp only [nothing, tooLong, cut, dite_false, if_false, ne_eq, not_true_eq_false]
      cases stripLineEnd text with
      | nil => cases s.known <;> rfl
      | cons c field =>
        cases headed : headerLine s.known (c :: field) with
        | error e => simp only [headed]
        | ok known =>
          -- the room shrinks by what was used, as that was not too much
          have left : s.room - s.line.length =
              maxHeaderBytes - (s.used + s.line.length) + 1 := by
            unfold room
            omega
          simp only [headed, left]
          rfl
    · simp [nothing, tooLong, cut]

/-! ## What a turn can lead to -/

/-- What a turn can lead to, and what it takes for that. -/
inductive Leads (ended : Bool) (s : HeaderState) : Turn → Prop
  /-- The stream has to grow first. -/
  | waits (open_ : ended = false) : Leads ended s (.stops .more)
  /-- The stream ends where a header would begin. -/
  | done (fresh : s.used = 0) (nothing : s.unread = []) : Leads ended s (.stops .done)
  /-- There is no header here, but something else. -/
  | fails (e : FramingError) (something : s.used = 0 → s.unread ≠ []) :
    Leads ended s (.stops (.failed e s.after))
  /-- The line ends a header that gave a length. -/
  | completes {text : List Char} (n : Nat) (own : s.line = Utf8.encode text) (isLine : IsLine text)
    (isLast : IsLast text) (fits : s.used + s.line.length ≤ maxHeaderBytes)
    (known : s.known = some n) : Leads ended s (.stops (.complete n s.after))
  /-- The line is a field, and the next one follows. -/
  | passes {text : List Char} (known : Option Nat) (own : s.line = Utf8.encode text)
    (isLine : IsLine text) (other : ¬ IsLast text) (fits : s.used + s.line.length ≤ maxHeaderBytes)
    (headed : headerLine s.known (stripLineEnd text) = .ok known) :
    Leads ended s (.goesOn ⟨s.used + s.line.length, known, s.after⟩)

theorem line_eq_nil_iff {s : HeaderState} : s.line = [] ↔ s.unread = [] :=
  takeLine_eq_nil_iff (Nat.succ_pos _)

theorem turn_cases (ended : Bool) (s : HeaderState) : Leads ended s (s.turn ended) := by
  have something (some : s.line ≠ []) : s.used = 0 → s.unread ≠ [] := by
    intro _ nothing
    exact some (line_eq_nil_iff.mpr nothing)
  unfold turn
  split
  · next open_ =>
    refine .waits ?_
    simp only [lineIsOpen, Bool.and_eq_true, Bool.not_eq_true'] at open_
    exact open_.1.1
  cases decoded : Utf8.decode s.line with
  | error fault =>
    refine .fails _ (something ?_)
    intro nothing
    rw [nothing] at decoded
    cases decoded
  | ok text =>
    have own := Utf8.decode_eq_ok_iff.mp decoded
    dsimp only
    split
    · next nothing =>
      split
      · next fresh => exact .done fresh (line_eq_nil_iff.mp nothing)
      · next used => exact .fails _ fun fresh => absurd fresh used
    next some =>
    split
    · exact .fails _ (something some)
    next fits =>
    split
    · exact .fails _ (something some)
    next newline_ =>
    have isLine : IsLine text := by
      rw [ne_eq, Decidable.not_not] at newline_
      obtain ⟨front, parts, single⟩ := takeLine_of_getLast newline_
      exact ⟨front, own.symm.trans parts, single⟩
    have fits := Nat.le_of_not_lt fits
    split
    · next stripped =>
      have isLast := stripLineEnd_eq_nil_iff.mp stripped
      split
      · next n known => exact .completes n own isLine isLast fits known
      · exact .fails _ (something some)
    · next field =>
      have other : ¬ IsLast text := by
        intro isLast
        exact field (stripLineEnd_eq_nil_iff.mpr isLast)
      split
      · exact .fails _ (something some)
      · next known headed => exact .passes known own isLine other fits headed

section

variable {ended : Bool} {s : HeaderState} {text : List Char} {rest : Bytes}

/-- A line at the front of the stream is taken whole. -/
theorem line_of_isLine (isLine : IsLine text) (front : s.unread = Utf8.encode text ++ rest)
    (fits : s.used + (Utf8.encode text).length ≤ maxHeaderBytes) :
    s.line = Utf8.encode text ∧ s.after = rest := by
  have roomy : (Utf8.encode text).length ≤ s.room := by
    unfold room
    omega
  have taken := takeLine_of_isLine isLine roomy rest
  unfold line after
  rw [front, taken]
  exact ⟨rfl, rfl⟩

/-- What a whole line leads to. -/
theorem turn_of_isLine (ended : Bool) (isLine : IsLine text)
    (front : s.unread = Utf8.encode text ++ rest)
    (fits : s.used + (Utf8.encode text).length ≤ maxHeaderBytes) :
    (∀ n, IsLast text → s.known = some n → s.turn ended = .stops (.complete n rest)) ∧
      ∀ known, ¬ IsLast text → headerLine s.known (stripLineEnd text) = .ok known →
        s.turn ended = .goesOn ⟨s.used + (Utf8.encode text).length, known, rest⟩ := by
  obtain ⟨own, left⟩ := line_of_isLine isLine front fits
  have ends := getLast?_of_isLine isLine
  have whole : lineIsOpen ended s.room s.line = false := by simp [lineIsOpen, own, ends]
  have some : Utf8.encode text ≠ [] := by
    intro nothing
    rw [nothing] at ends
    cases ends
  have decoded : Utf8.decode (Utf8.encode text) = .ok text := Utf8.decode_encode text
  have short : ¬ maxHeaderBytes < s.used + (Utf8.encode text).length := Nat.not_lt.mpr fits
  unfold turn
  simp only [own, left] at whole ⊢
  simp only [whole, decoded, some, short, ends, if_false, Bool.false_eq_true, ne_eq,
    not_true_eq_false]
  constructor
  · intro n isLast known
    simp only [stripLineEnd_eq_nil_iff.mpr isLast, known]
  · intro known other headed
    cases stripped : stripLineEnd text with
    | nil => exact absurd (stripLineEnd_eq_nil_iff.mp stripped) other
    | cons c field =>
      rw [stripped] at headed
      simp only [headed]

end

/-! ## Turn after turn -/

/-- So many turns lead from one line to another. -/
inductive Turns (ended : Bool) : Nat → HeaderState → HeaderState → Prop
  | none (s : HeaderState) : Turns ended 0 s s
  | more {n : Nat} {s t u : HeaderState} (first : s.turn ended = .goesOn t)
    (others : Turns ended n t u) : Turns ended (n + 1) s u

section

variable {ended : Bool} {n : Nat} {s t : HeaderState}

/-- The reader goes on after a field, with what the field says and what follows it. -/
theorem exists_of_goesOn (h : s.turn ended = .goesOn t) : ∃ text, IsLine text ∧ ¬ IsLast text ∧
    s.unread = Utf8.encode text ++ t.unread ∧ t.used = s.used + (Utf8.encode text).length ∧
    t.used ≤ maxHeaderBytes ∧ headerLine s.known (stripLineEnd text) = .ok t.known := by
  have leads := turn_cases ended s
  rw [h] at leads
  cases leads with
  | @passes text known own isLine other fits headed =>
    have taken : s.line ++ s.after = s.unread := takeLine_append _ _
    refine ⟨text, isLine, other, ?_, ?_, fits, headed⟩
    · rw [← own]
      exact taken.symm
    · rw [← own]

/-- The reader is done with a header after an empty line, if it knows a length by then. -/
theorem exists_of_completes {n : Nat} {rest : Bytes}
    (h : s.turn ended = .stops (.complete n rest)) : ∃ text, IsLine text ∧ IsLast text ∧
      s.unread = Utf8.encode text ++ rest ∧
      s.used + (Utf8.encode text).length ≤ maxHeaderBytes ∧ s.known = some n := by
  have leads := turn_cases ended s
  rw [h] at leads
  cases leads with
  | @completes text _ own isLine isLast fits known =>
    have taken : s.line ++ s.after = s.unread := takeLine_append _ _
    rw [own] at taken fits
    exact ⟨text, isLine, isLast, taken.symm, fits, known⟩

/-- No turn uses more than a header may have, and every turn uses something. -/
theorem Turns.uses (run : Turns ended n s t) (h : s.used ≤ maxHeaderBytes) :
    s.used + n ≤ t.used ∧ t.used ≤ maxHeaderBytes ∧
      ∃ head, s.unread = head ++ t.unread ∧ t.used = s.used + head.length := by
  induction run with
  | none s => exact ⟨Nat.le_refl _, h, [], rfl, rfl⟩
  | more first others ih =>
    obtain ⟨text, isLine, -, unread, used, fits, -⟩ := exists_of_goesOn first
    obtain ⟨count, bound, head, unread', used'⟩ := ih fits
    have some := length_pos_of_isLine isLine
    refine ⟨by omega, bound, Utf8.encode text ++ head, ?_, ?_⟩
    · rw [unread, unread', List.append_assoc]
    · rw [used', used, List.length_append, Nat.add_assoc]

/-- Reading a header is a run of turns that ends in a decision. -/
theorem exists_turns (ended : Bool) (s : HeaderState) (h : s.used ≤ maxHeaderBytes) :
    ∃ n t, Turns ended n s t ∧ t.turn ended = .stops (s.read ended) := by
  -- every turn leaves less of what may be used
  induction left : maxHeaderBytes - s.used using Nat.strongRecOn generalizing s with
  | ind left ih =>
    have read := read_eq_turn ended h
    cases turned : s.turn ended with
    | stops result =>
      rw [turned] at read
      exact ⟨0, s, .none s, by rw [turned, read]⟩
    | goesOn t =>
      rw [turned] at read
      obtain ⟨text, isLine, -, -, used, fits, -⟩ := exists_of_goesOn turned
      have some := length_pos_of_isLine isLine
      obtain ⟨n, u, run, stops⟩ := ih (maxHeaderBytes - t.used) (by omega) t fits rfl
      exact ⟨n + 1, u, .more turned run, by rw [stops, read]⟩

end

end HeaderState

end LspClient.Framing
