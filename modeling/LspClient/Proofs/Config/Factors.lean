import Mathlib.Data.List.Infix
import Mathlib.Data.List.TakeWhile
import LspClient.Config.Expansion

/-!
# A text comes apart in one way

`Factors` are the references of a text, each with what stands before it, and what comes after
the last of them. They are proper (`Factors.IsProper`) if every reference begins where it can
for the first time and ends where it can for the first time, and if none is left in what comes
after. Every text has proper factors and no others (`isProper_and_text_iff`): they are found by
collecting the parts that `pieces` takes the text apart into, since the parts of proper factors
are those of their text (`Factors.pieces_text`).
-/

namespace LspClient.Config

/-- What opens a reference: a dollar sign and a brace. -/
def opening : List Char := ['$', '\x7b']

/-- A reference to a variable, with what stands before it. -/
structure Reference where
  before : List Char
  name : List Char
  deriving DecidableEq, Repr

/-- A text as its references and what comes after the last of them. -/
structure Factors where
  references : List Reference
  tail : List Char
  deriving DecidableEq, Repr

/-- A reference as it is written. -/
def Reference.text (r : Reference) : List Char := r.before ++ opening ++ r.name ++ ['\x7d']

/-- A reference with the value of its variable in its place. -/
def Reference.filled (value : List Char → List Char) (r : Reference) : List Char :=
  r.before ++ value r.name

/-- The parts of a reference. -/
def Reference.pieces (r : Reference) : List Piece :=
  r.before.map .plain ++ [.reference r.name]

namespace Factors

/-- The text that has these factors. -/
def text (f : Factors) : List Char := f.references.flatMap Reference.text ++ f.tail

/-- The text with the values of the variables in the places of the references. -/
def filled (value : List Char → List Char) (f : Factors) : List Char :=
  f.references.flatMap (Reference.filled value) ++ f.tail

/-- The parts of the text. -/
def pieces (f : Factors) : List Piece :=
  f.references.flatMap Reference.pieces ++ f.tail.map .plain

/-- Every reference is the first that its text allows, and none is left after the last. -/
structure IsProper (f : Factors) : Prop where
  /-- No reference opens before this one does. -/
  before : ∀ r ∈ f.references, ¬ opening <:+: r.before ++ ['$']
  /-- A name ends at the first closing brace. -/
  name : ∀ r ∈ f.references, '\x7d' ∉ r.name
  /-- What opens a reference after the last one is not closed any more. -/
  tail : ∀ before after, f.tail = before ++ opening ++ after → '\x7d' ∉ after

/-- The factors of a text with one more character in front of it. -/
def cons (c : Char) (f : Factors) : Factors :=
  match f.references with
  | [] => ⟨[], c :: f.tail⟩
  | r :: rest => ⟨{ r with before := c :: r.before } :: rest, f.tail⟩

/-- The factors of a text, collected from its parts. -/
def ofPieces : List Piece → Factors
  | [] => ⟨[], []⟩
  | .plain c :: rest => (ofPieces rest).cons c
  | .reference name :: rest =>
    { ofPieces rest with references := ⟨[], name⟩ :: (ofPieces rest).references }

end Factors

/-! ## Taking a text apart -/

section

variable {c : Char} {rest name : List Char}

/-- A character that opens no reference stands for itself. -/
theorem pieces_cons (h : ¬ opening <+: c :: rest) :
    pieces (c :: rest) = .plain c :: pieces rest := by
  rw [pieces]
  rintro more rfl rfl
  exact h ⟨more, rfl⟩

theorem closesName_iff : closesName c = true ↔ c = '\x7d' := decide_eq_true_iff

private theorem stays_of_not_mem (h : '\x7d' ∉ name) : ∀ c ∈ name, (!closesName c) = true := by
  intro c member
  rw [Bool.not_eq_true', ← Bool.not_eq_true, closesName_iff]
  rintro rfl
  exact h member

/-- A reference goes up to the first closing brace. -/
theorem pieces_reference (h : '\x7d' ∉ name) :
    pieces (opening ++ name ++ '\x7d' :: rest) = .reference name :: pieces rest := by
  have closes : (!closesName '\x7d') = false := rfl
  have taken : (name ++ '\x7d' :: rest).takeWhile (!closesName ·) = name := by
    rw [List.takeWhile_append_of_pos (stays_of_not_mem h), List.takeWhile_cons, closes]
    exact List.append_nil name
  have left : (name ++ '\x7d' :: rest).dropWhile (!closesName ·) = '\x7d' :: rest := by
    rw [List.dropWhile_append_of_pos (stays_of_not_mem h), List.dropWhile_cons, closes]
    rfl
  show pieces ('$' :: '\x7b' :: (name ++ '\x7d' :: rest)) = _
  rw [pieces]
  split
  · next found =>
    rw [left] at found
    cases found
    rw [taken]
  · next none =>
    rw [left] at none
    cases none

/-- Without a closing brace there is no reference. -/
theorem pieces_unclosed (h : '\x7d' ∉ rest) :
    pieces (opening ++ rest) = (opening ++ rest).map .plain := by
  have left : rest.dropWhile (!closesName ·) = [] :=
    List.dropWhile_eq_nil_iff.mpr (stays_of_not_mem h)
  show pieces ('$' :: '\x7b' :: rest) = _
  rw [pieces]
  split
  · next found =>
    rw [left] at found
    cases found
  · rfl

/-- If a reference opens first after some characters, none opens at the first of them. -/
theorem not_opening_of_before {before : List Char} (h : ¬ opening <:+: c :: before ++ ['$'])
    (rest : List Char) :
    ¬ opening <+: c :: (before ++ opening ++ rest) ∧ ¬ opening <:+: before ++ ['$'] := by
  rw [List.cons_append, List.infix_cons_iff, not_or] at h
  refine ⟨?_, h.2⟩
  rintro ⟨more, same⟩
  cases before with
  | nil => cases same
  | cons d before =>
    cases same
    exact h.1 ⟨before ++ ['$'], rfl⟩

/-- Where no reference opens every character stands for itself. -/
theorem pieces_append {before : List Char} (h : ¬ opening <:+: before ++ ['$']) :
    pieces (before ++ opening ++ rest) = before.map .plain ++ pieces (opening ++ rest) := by
  induction before with
  | nil => rfl
  | cons c before ih =>
    obtain ⟨plain, later⟩ := not_opening_of_before h rest
    rw [List.cons_append, List.cons_append, pieces_cons plain, ih later]
    rfl

/-- After the last reference every character stands for itself. -/
theorem pieces_tail {tail : List Char}
    (h : ∀ before after, tail = before ++ opening ++ after → '\x7d' ∉ after) :
    pieces tail = tail.map .plain := by
  induction tail with
  | nil => rw [pieces]; rfl
  | cons c rest ih =>
    by_cases opens : opening <+: c :: rest
    · obtain ⟨after, same⟩ := opens
      rw [← same]
      exact pieces_unclosed (h [] after same.symm)
    · rw [pieces_cons opens, ih fun before after same => h (c :: before) after (by rw [same]; rfl)]
      rfl

end

namespace Factors

variable {f g : Factors} {text : List Char}

/-- A text is taken apart into the parts of its proper factors. -/
theorem pieces_text (h : f.IsProper) : Config.pieces f.text = f.pieces := by
  obtain ⟨references, tail⟩ := f
  induction references with
  | nil => exact pieces_tail h.tail
  | cons r rest ih =>
    have proper : IsProper ⟨rest, tail⟩ :=
      ⟨fun r' member => h.before r' (List.mem_cons_of_mem _ member),
        fun r' member => h.name r' (List.mem_cons_of_mem _ member), h.tail⟩
    have split : text ⟨r :: rest, tail⟩ =
        r.before ++ opening ++ (r.name ++ '\x7d' :: text ⟨rest, tail⟩) := by
      simp [text, Reference.text]
    rw [split, pieces_append (h.before r List.mem_cons_self), ← List.append_assoc,
      pieces_reference (h.name r List.mem_cons_self), ih proper]
    simp [pieces, Reference.pieces]

/-! ## Collecting factors -/

theorem ofPieces_plain (literal : List Char) (rest : List Piece) :
    ofPieces (literal.map .plain ++ rest) = literal.foldr cons (ofPieces rest) := by
  induction literal with
  | nil => rfl
  | cons c literal ih => exact congrArg (cons c) ih

/-- Factors are collected from their own parts. -/
theorem ofPieces_pieces (f : Factors) : ofPieces f.pieces = f := by
  obtain ⟨references, tail⟩ := f
  induction references with
  | nil =>
    have collected : tail.foldr cons ⟨[], []⟩ = ⟨[], tail⟩ := by
      induction tail with
      | nil => rfl
      | cons c tail ih => rw [List.foldr_cons, ih]; rfl
    show ofPieces (tail.map .plain) = _
    rw [← List.append_nil (tail.map Piece.plain), ofPieces_plain]
    exact collected
  | cons r rest ih =>
    have collected (before : List Char) : before.foldr cons ⟨⟨[], r.name⟩ :: rest, tail⟩ =
        ⟨⟨before, r.name⟩ :: rest, tail⟩ := by
      induction before with
      | nil => rfl
      | cons c before ih => rw [List.foldr_cons, ih]; rfl
    have split : pieces ⟨r :: rest, tail⟩ =
        r.before.map .plain ++ .reference r.name :: pieces ⟨rest, tail⟩ := by
      simp [pieces, Reference.pieces]
    rw [split, ofPieces_plain, ofPieces, ih]
    exact collected r.before

/-- A character that is put in front stands in front of the text. -/
theorem text_cons (c : Char) (f : Factors) : (f.cons c).text = c :: f.text := by
  obtain ⟨_ | ⟨r, rest⟩, tail⟩ := f <;> rfl

/-- Without references it is enough that none is left. -/
theorem isProper_tail {tail : List Char}
    (h : ∀ before after, tail = before ++ opening ++ after → '\x7d' ∉ after) :
    IsProper ⟨[], tail⟩ :=
  ⟨fun _ member => absurd member List.not_mem_nil,
    fun _ member => absurd member List.not_mem_nil, h⟩

/-- A reference in front keeps factors proper. -/
theorem IsProper.refer (h : f.IsProper) {name : List Char} (closed : '\x7d' ∉ name) :
    IsProper ⟨⟨[], name⟩ :: f.references, f.tail⟩ := by
  have alone : ¬ opening <:+: [] ++ ['$'] := by decide
  exact ⟨List.forall_mem_cons.mpr ⟨alone, h.before⟩, List.forall_mem_cons.mpr ⟨closed, h.name⟩,
    h.tail⟩

/-- A character in front that opens no reference keeps factors proper. -/
theorem IsProper.cons (h : f.IsProper) {c : Char} (plain : ¬ opening <+: c :: f.text) :
    (f.cons c).IsProper := by
  obtain ⟨references, tail⟩ := f
  cases references with
  | nil =>
    refine isProper_tail fun before after same => ?_
    cases before with
    | nil => exact absurd ⟨after, same.symm⟩ plain
    | cons d before => exact h.tail before after (List.cons.inj same).2
  | cons r rest =>
    obtain ⟨first, others⟩ := List.forall_mem_cons.mp h.before
    refine ⟨List.forall_mem_cons.mpr ⟨?_, others⟩,
      List.forall_mem_cons.mpr (List.forall_mem_cons.mp h.name), h.tail⟩
    -- the new character opens no reference, and there was none before
    rw [List.cons_append, List.infix_cons_iff, not_or]
    refine ⟨fun opens => plain (opens.trans ?_), first⟩
    refine ⟨'\x7b' :: (r.name ++ '\x7d' :: text ⟨rest, tail⟩), ?_⟩
    simp [text, Reference.text, opening]

/-- The factors that are collected from the parts of a text are its proper factors. -/
theorem ofPieces_spec (text : List Char) :
    (ofPieces (Config.pieces text)).IsProper ∧ (ofPieces (Config.pieces text)).text = text := by
  induction text using Config.pieces.induct with
  | case1 =>
    rw [Config.pieces]
    refine ⟨isProper_tail fun before after same => ?_, rfl⟩
    cases before <;> cases same
  | case2 rest closing after found shorter ih =>
    have stops := List.head?_dropWhile_not (!closesName ·) rest
    rw [found] at stops
    have closes : closing = '\x7d' := closesName_iff.mp (by simpa using stops)
    have name : '\x7d' ∉ rest.takeWhile (!closesName ·) := fun member =>
      Bool.false_ne_true (List.mem_takeWhile_imp member)
    have whole : opening ++ rest.takeWhile (!closesName ·) ++ '\x7d' :: after =
        '$' :: '\x7b' :: rest := by
      rw [← closes, ← found, List.append_assoc, List.takeWhile_append_dropWhile]
      rfl
    rw [← whole, pieces_reference name]
    refine ⟨ih.1.refer name, ?_⟩
    show opening ++ rest.takeWhile (!closesName ·) ++ ['\x7d'] ++ _ ++ _ = _
    rw [List.append_assoc, List.append_assoc]
    exact congrArg (opening ++ rest.takeWhile (!closesName ·) ++ '\x7d' :: ·) ih.2
  | case3 rest found =>
    have none : '\x7d' ∉ rest := fun member =>
      Bool.false_ne_true (List.dropWhile_eq_nil_iff.mp found _ member)
    have tail : ofPieces ((opening ++ rest).map .plain) = ⟨[], opening ++ rest⟩ :=
      ofPieces_pieces ⟨[], opening ++ rest⟩
    show (ofPieces (Config.pieces (opening ++ rest))).IsProper ∧
      (ofPieces (Config.pieces (opening ++ rest))).text = opening ++ rest
    rw [pieces_unclosed none, tail]
    refine ⟨isProper_tail fun before after same closes => ?_, rfl⟩
    have member : '\x7d' ∈ opening ++ rest := by
      rw [show opening ++ rest = before ++ opening ++ after from same]
      exact List.mem_append_right _ closes
    rcases List.mem_append.mp member with opens | later
    · exact absurd opens (by decide)
    · exact none later
  | case4 c rest other ih =>
    have plain : ¬ opening <+: c :: rest := by
      rintro ⟨more, same⟩
      cases same
      exact other more rfl rfl
    obtain ⟨proper, same⟩ := ih
    rw [pieces_cons plain]
    refine ⟨proper.cons ?_, ?_⟩
    · rw [same]
      exact plain
    · rw [ofPieces, text_cons, same]

/-- **A text has proper factors, and only these.** -/
theorem isProper_and_text_iff :
    g.IsProper ∧ g.text = text ↔ g = ofPieces (Config.pieces text) := by
  constructor
  · rintro ⟨proper, rfl⟩
    rw [pieces_text proper, ofPieces_pieces]
  · rintro rfl
    exact ofPieces_spec text

end Factors

end LspClient.Config
