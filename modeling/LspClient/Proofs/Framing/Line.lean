import LspClient.Proofs.Framing.RoundTrip

/-!
# The lines of a header

A line is a text whose bytes have a newline at their end and nowhere else (`IsLine`). The
line that ends a header has nothing but line end characters (`IsLast`); any other has to be a
field, a name and a value with a colon between them. The lines of a header announce the
length of the body together: at least one of them has the name `Content-Length`, and all that
have it say the same (`Announces`). `announces_cons` ties that to the reader, which takes one
line after the other into the length it knows.
-/

namespace LspClient.Framing

/-! ## Taking a line off a stream -/

/-- A text that is one line: its bytes have a newline at their end and nowhere else. -/
def IsLine (line : List Char) : Prop :=
  ∃ front, Utf8.encode line = front ++ [newline] ∧ newline ∉ front

theorem length_takeLine_le (budget : Nat) (input : Bytes) :
    (takeLine budget input).1.length ≤ budget := by
  fun_induction takeLine budget input with
  | case1 => exact Nat.le_refl 0
  | case2 => exact Nat.zero_le _
  | case3 => exact Nat.succ_le_succ (Nat.zero_le _)
  | case4 budget b rest other line left taken ih =>
    rw [taken] at ih
    exact Nat.succ_le_succ ih

/-- Nothing is taken only where nothing is left or allowed. -/
theorem takeLine_eq_nil_iff {budget : Nat} {input : Bytes} (h : 0 < budget) :
    (takeLine budget input).1 = [] ↔ input = [] := by
  fun_cases takeLine budget input with
  | case1 => exact absurd h (Nat.lt_irrefl 0)
  | case2 => simp
  | case3 => simp
  | case4 => simp

/-- What was taken with a newline at its end has no other. -/
theorem takeLine_of_getLast {budget : Nat} {input : Bytes}
    (h : (takeLine budget input).1.getLast? = some newline) :
    ∃ front, (takeLine budget input).1 = front ++ [newline] ∧ newline ∉ front := by
  fun_induction takeLine budget input with
  | case1 | case2 => cases h
  | case3 => exact ⟨[], rfl, List.not_mem_nil⟩
  | case4 budget b rest other line left taken ih =>
    rw [taken] at ih
    cases line with
    | nil =>
      simp at h
      exact absurd h other
    | cons c line =>
      obtain ⟨front, parts, single⟩ := ih (by simpa using h)
      refine ⟨b :: front, ?_, ?_⟩
      · exact congrArg (b :: ·) parts
      · simp only [List.mem_cons, not_or]
        exact ⟨fun same => other same.symm, single⟩

/-- A line that is short enough is taken whole. -/
theorem takeLine_of_isLine {line : List Char} (h : IsLine line) {budget : Nat}
    (fits : (Utf8.encode line).length ≤ budget) (rest : Bytes) :
    takeLine budget (Utf8.encode line ++ rest) = (Utf8.encode line, rest) := by
  obtain ⟨front, parts, single⟩ := h
  rw [parts] at fits ⊢
  rw [List.append_assoc, List.singleton_append, takeLine_newline single,
    List.take_of_length_le fits, List.drop_of_length_le fits, List.nil_append]

theorem getLast?_of_isLine {line : List Char} (h : IsLine line) :
    (Utf8.encode line).getLast? = some newline := by
  obtain ⟨front, parts, -⟩ := h
  rw [parts]
  exact List.getLast?_concat

theorem length_pos_of_isLine {line : List Char} (h : IsLine line) :
    0 < (Utf8.encode line).length := by
  obtain ⟨front, parts, -⟩ := h
  rw [parts, List.length_append]
  exact Nat.succ_pos _

/-! ## Header lines -/

/-- A line that ends the header: nothing but line end characters. -/
def IsLast (line : List Char) : Prop := ∀ c ∈ line, c = '\r' ∨ c = '\n'

/-- A line with a colon: a name before its first colon and a value behind it. -/
def IsField (line name value : List Char) : Prop := line = name ++ ':' :: value ∧ ':' ∉ name

/-- A field whose name, but for case and blanks around it, is `Content-Length`. -/
def IsLengthField (line value : List Char) : Prop :=
  ∃ name, IsField line name value ∧
    (Text.trim name).map Char.toLower = "content-length".toList

theorem stripLineEnd_eq_nil_iff {line : List Char} : stripLineEnd line = [] ↔ IsLast line := by
  unfold stripLineEnd IsLast
  rw [Text.dropEnd_eq_nil_iff]
  simp only [Bool.or_eq_true, decide_eq_true_eq]

theorem isLengthName_iff {name : List Char} : isLengthName name = true ↔
    (Text.trim name).map Char.toLower = "content-length".toList := by
  have lower : lengthName.toList.map Char.toLower = "content-length".toList := by decide
  unfold isLengthName
  rw [decide_eq_true_eq, lower]

theorem splitAtColon_of_not_mem {line : List Char} (h : ':' ∉ line) : splitAtColon line = none := by
  have none : line.dropWhile (· != ':') = [] := by
    rw [List.dropWhile_eq_nil_iff]
    intro c hc
    have other : c ≠ ':' := fun same => h (same ▸ hc)
    simp [other]
  unfold splitAtColon
  rw [none]

theorem splitAtColon_of_isField {line name value : List Char} (h : IsField line name value) :
    splitAtColon line = some (name, value) := by
  obtain ⟨rfl, first⟩ := h
  have front : ∀ c ∈ name, (c != ':') = true := by
    intro c hc
    have other : c ≠ ':' := fun same => first (same ▸ hc)
    simp [other]
  unfold splitAtColon
  rw [List.dropWhile_append_of_pos front, List.takeWhile_append_of_pos front]
  simp

/-- A line has one value at most. -/
theorem IsLengthField.unique {line value value' : List Char} (h : IsLengthField line value)
    (h' : IsLengthField line value') : value = value' := by
  obtain ⟨name, field, -⟩ := h
  obtain ⟨name', field', -⟩ := h'
  have same := (splitAtColon_of_isField field).symm.trans (splitAtColon_of_isField field')
  rw [Option.some.injEq, Prod.mk.injEq] at same
  exact same.2

theorem exists_isField {line : List Char} (h : ':' ∈ line) : ∃ name value, IsField line name value := by
  obtain ⟨name, value, parts, first⟩ := List.eq_append_cons_of_mem h
  exact ⟨name, value, parts, first⟩

/-- The line end belongs to the value. -/
theorem isField_stripLineEnd {line name value : List Char} (h : IsField line name value) :
    IsField (stripLineEnd line) name (stripLineEnd value) := by
  obtain ⟨rfl, first⟩ := h
  refine ⟨?_, first⟩
  unfold stripLineEnd
  rw [Text.dropEnd_append_cons (by decide)]

/-- Line end characters are blanks. -/
theorem trim_stripLineEnd (value : List Char) :
    Text.trim (stripLineEnd value) = Text.trim value := by
  obtain ⟨ends, parts, lineEnds⟩ := Text.exists_dropEnd (fun c => c = '\r' || c = '\n') value
  have blank : ∀ c ∈ ends, Text.isBlank c = true := by
    intro c hc
    have lineEnd := lineEnds c hc
    simp only [Bool.or_eq_true, decide_eq_true_eq] at lineEnd
    rcases lineEnd with rfl | rfl <;> decide
  calc Text.trim (stripLineEnd value)
      = Text.trim (stripLineEnd value ++ ends) := (Text.trim_append blank _).symm
    _ = Text.trim value := congrArg Text.trim parts.symm

/-- A length line has to write a length, and no other than the one that is known. -/
theorem headerLine_of_isLengthField {known known' : Option Nat} {line value : List Char}
    (h : IsLengthField line value) : headerLine known (stripLineEnd line) = .ok known' ↔
      ∃ n, Decimal.Writes (Text.trim value) n ∧ (known = none ∨ known = some n) ∧
        known' = some n := by
  obtain ⟨name, field, named⟩ := h
  have halves := splitAtColon_of_isField (isField_stripLineEnd field)
  rw [← isLengthName_iff] at named
  simp only [← Decimal.natural_eq_ok_iff]
  unfold headerLine
  simp only [halves, named, if_true, trim_stripLineEnd]
  cases Decimal.natural (Text.trim value) with
  | error fault => simp
  | ok n =>
    cases known with
    | none => simp [eq_comm]
    | some m =>
      by_cases same : m = n
      · simp [same, eq_comm]
      · simp [same]

/-- Any other line with a colon is skipped. -/
theorem headerLine_of_other {known : Option Nat} {line : List Char} (colon : ':' ∈ line)
    (other : ∀ value, ¬ IsLengthField line value) :
    headerLine known (stripLineEnd line) = .ok known := by
  obtain ⟨name, value, field⟩ := exists_isField colon
  have unnamed : isLengthName name = false := by
    rw [← Bool.not_eq_true]
    intro named
    exact other value ⟨name, field, isLengthName_iff.mp named⟩
  have halves := splitAtColon_of_isField (isField_stripLineEnd field)
  unfold headerLine
  simp only [halves, unnamed, if_false, Bool.false_eq_true]

/-- A line without a colon is refused. -/
theorem headerLine_of_not_mem {line : List Char} (h : ':' ∉ line) (known : Option Nat) :
    ∃ e, headerLine known (stripLineEnd line) = .error e := by
  obtain ⟨ends, parts, -⟩ := Text.exists_dropEnd (fun c => c = '\r' || c = '\n') line
  have none : splitAtColon (stripLineEnd line) = none := by
    refine splitAtColon_of_not_mem ?_
    intro colon
    apply h
    rw [parts]
    exact List.mem_append_left _ colon
  unfold headerLine
  simp only [none]
  exact ⟨_, rfl⟩

/-! ## What the lines of a header say together -/

/-- The lines say that the body has `n` bytes, if `known` is what the lines before them said. -/
structure Announces (known : Option Nat) (lines : List (List Char)) (n : Nat) : Prop where
  fields : ∀ line ∈ lines, ':' ∈ line
  agree : ∀ line ∈ lines, ∀ value, IsLengthField line value → Decimal.Writes (Text.trim value) n
  before : known = none ∨ known = some n
  given : known = some n ∨ ∃ line ∈ lines, ∃ value, IsLengthField line value

theorem announces_nil {known : Option Nat} {n : Nat} : Announces known [] n ↔ known = some n := by
  constructor
  · intro h
    rcases h.given with known | ⟨line, none, -⟩
    · exact known
    · cases none
  · intro h
    exact ⟨by simp, by simp, .inr h, .inl h⟩

/-- The first line is taken into what is known, and the others go on from there. -/
theorem announces_cons {known : Option Nat} {line : List Char} {lines : List (List Char)} {n : Nat} :
    Announces known (line :: lines) n ↔
      ∃ known', headerLine known (stripLineEnd line) = .ok known' ∧
        Announces known' lines n := by
  constructor
  · intro h
    obtain ⟨colon, fields⟩ := List.forall_mem_cons.mp h.fields
    obtain ⟨own, agree⟩ := List.forall_mem_cons.mp h.agree
    by_cases length : ∃ value, IsLengthField line value
    · obtain ⟨value, field⟩ := length
      refine ⟨some n, ?_, fields, agree, .inr rfl, .inl rfl⟩
      rw [headerLine_of_isLengthField field]
      exact ⟨n, own value field, h.before, rfl⟩
    · have other : ∀ value, ¬ IsLengthField line value := fun value field => length ⟨value, field⟩
      refine ⟨known, headerLine_of_other colon other, fields, agree, h.before, ?_⟩
      rcases h.given with known | ⟨line', member, value, field⟩
      · exact .inl known
      · rcases List.mem_cons.mp member with rfl | later
        · exact absurd field (other value)
        · exact .inr ⟨line', later, value, field⟩
  · rintro ⟨known', taken, h⟩
    have colon : ':' ∈ line := by
      by_cases colon : ':' ∈ line
      · exact colon
      · obtain ⟨e, refused⟩ := headerLine_of_not_mem colon known
        rw [refused] at taken
        cases taken
    by_cases length : ∃ value, IsLengthField line value
    · obtain ⟨value, field⟩ := length
      obtain ⟨m, writes, before, rfl⟩ := (headerLine_of_isLengthField field).mp taken
      obtain rfl : m = n := by
        rcases h.before with none | same
        · cases none
        · exact Option.some.inj same
      refine ⟨List.forall_mem_cons.mpr ⟨colon, h.fields⟩,
        List.forall_mem_cons.mpr ⟨?_, h.agree⟩, before,
        .inr ⟨line, List.mem_cons_self, value, field⟩⟩
      intro value' field'
      rw [field'.unique field]
      exact writes
    · have other : ∀ value, ¬ IsLengthField line value := fun value field => length ⟨value, field⟩
      rw [headerLine_of_other colon other, Except.ok.injEq] at taken
      subst taken
      have own : ∀ value, IsLengthField line value → Decimal.Writes (Text.trim value) n :=
        fun value field => absurd field (other value)
      refine ⟨List.forall_mem_cons.mpr ⟨colon, h.fields⟩, List.forall_mem_cons.mpr ⟨own, h.agree⟩,
        h.before, ?_⟩
      rcases h.given with known | ⟨line', later, given⟩
      · exact .inl known
      · exact .inr ⟨line', List.mem_cons_of_mem _ later, given⟩

end LspClient.Framing
