import LspClient.CommandLine.Arguments

/-!
# Which command lines there are

A command line is written from parts: an option with its value, which may be any text, or a
language, which begins with no dash and is given at most once (`IsSequence`). What the parts
give is said without reading them one after the other: the language, and for every option the
last of its values (`gathered`). `parse_eq_iff` shows that reading takes such parts as far as
it can and that what stands behind them decides (`Decides`): nothing, an argument that asks for
help, or the first one that fits nowhere. `parses_exactly_grammar` puts the consequences together.
-/

namespace LspClient.CommandLine

/-- How an option is written. -/
def ValueOption.name : ValueOption → String
  | .url => "--url"
  | .tcp => "--tcp"
  | .config => "--config"

/-- A text that begins with a dash. -/
def BeginsWithDash (text : String) : Prop := text.toList.head? = some '-'

instance (text : String) : Decidable (BeginsWithDash text) :=
  inferInstanceAs (Decidable (_ = _))

/-- A part of a command line. -/
inductive Part where
  | option (o : ValueOption) (value : String)
  | language (name : String)
  deriving DecidableEq

namespace Part

/-- The arguments that write a part. -/
def words : Part → List String
  | .option o value => [o.name, value]
  | .language name => [name]

/-- The language that a part names. -/
def language? : Part → Option String
  | .option .. => none
  | .language name => some name

/-- The value that a part gives to this option. -/
def value? (o : ValueOption) : Part → Option String
  | .option given value => if given = o then some value else none
  | .language _ => none

end Part

/-- The arguments that write parts one after another. -/
def written (parts : List Part) : List String := parts.flatMap Part.words

/-- The languages that parts name. -/
def languages (parts : List Part) : List String := parts.filterMap Part.language?

/-- The values that parts give to an option. -/
def values (o : ValueOption) (parts : List Part) : List String := parts.filterMap (Part.value? o)

/-- Parts that make up a command line: no language looks like an option, and there is one at
most. -/
structure IsSequence (parts : List Part) : Prop where
  plain : ∀ name ∈ languages parts, ¬ BeginsWithDash name
  single : (languages parts).length ≤ 1

/-- What parts give: the language, and of every option the last value. -/
def gathered (parts : List Part) : Arguments where
  language? := (languages parts).getLast?
  url? := (values .url parts).getLast?
  tcp? := (values .tcp parts).getLast?
  config? := (values .config parts).getLast?

/-- An argument that fits nowhere after parts that gave `a`, with what follows it: it looks like
an option and is none, it is a second language, or it is an option without a value. -/
inductive Offends (a : Arguments) : String → List String → ArgumentError → Prop
  | unknown {word : String} (rest : List String) (dash : BeginsWithDash word)
      (noHelp : asksForHelp word = false) (noOption : ∀ o : ValueOption, word ≠ o.name) :
    Offends a word rest (.unknownOption word)
  | second {word : String} (rest : List String) (plain : ¬ BeginsWithDash word)
      (taken : a.language?.isSome = true) : Offends a word rest (.unexpected word)
  | noValue (o : ValueOption) : Offends a o.name [] (.noValue o.name)

/-- What comes of the arguments behind parts that gave `a`: without any, what was given; help,
if the first one asks for it, whatever follows; or an error about the first one. -/
inductive Decides (a : Arguments) : List String → Except ArgumentError Command → Prop
  | nothing : Decides a [] (.ok (.run a))
  | help {word : String} (rest : List String) (asks : asksForHelp word = true) :
    Decides a (word :: rest) (.ok .help)
  | refused {word : String} {rest : List String} {e : ArgumentError}
      (offends : Offends a word rest e) : Decides a (word :: rest) (.error e)

/-! ## Words -/

/-- An option is read where it is written. -/
theorem ValueOption.ofArgument?_eq_some_iff {word : String} {o : ValueOption} :
    ofArgument? word = some o ↔ word = o.name := by
  constructor
  · intro h
    unfold ofArgument? at h
    split at h
    · cases h
      rfl
    · cases h
      rfl
    · cases h
      rfl
    · cases h
  · rintro rfl
    cases o <;> rfl

theorem ValueOption.ofArgument?_eq_none_iff {word : String} :
    ofArgument? word = none ↔ ∀ o : ValueOption, word ≠ o.name := by
  rw [Option.eq_none_iff_forall_ne_some]
  exact forall_congr' fun o => not_congr ofArgument?_eq_some_iff

theorem ValueOption.beginsWithDash_name (o : ValueOption) : BeginsWithDash o.name := by
  cases o <;> decide

theorem ValueOption.asksForHelp_name (o : ValueOption) : asksForHelp o.name = false := by
  cases o <;> decide

/-- Who asks for help begins with a dash. -/
theorem beginsWithDash_of_asksForHelp {word : String} (asks : asksForHelp word = true) :
    BeginsWithDash word := by
  unfold asksForHelp at asks
  rw [Bool.or_eq_true, decide_eq_true_eq, decide_eq_true_eq] at asks
  rcases asks with rfl | rfl <;> decide

/-- A text without a dash is no option and asks for no help. -/
theorem fitsNowhere_of_plain {word : String} (plain : ¬ BeginsWithDash word) :
    asksForHelp word = false ∧ ValueOption.ofArgument? word = none := by
  constructor
  · exact Bool.eq_false_iff.mpr fun asks => plain (beginsWithDash_of_asksForHelp asks)
  · refine ValueOption.ofArgument?_eq_none_iff.mpr fun o same => plain ?_
    rw [same]
    exact o.beginsWithDash_name

/-! ## Taking one part after the other -/

/-- The arguments with one more part. -/
def Arguments.add (a : Arguments) : Part → Arguments
  | .option o value => a.set value o
  | .language name => { a with language? := some name }

/-- The value of an option. -/
def Arguments.value? (a : Arguments) : ValueOption → Option String
  | .url => a.url?
  | .tcp => a.tcp?
  | .config => a.config?

theorem Arguments.ext_value {a b : Arguments} (language : a.language? = b.language?)
    (value : ∀ o, a.value? o = b.value? o) : a = b := by
  obtain ⟨_, _, _, _⟩ := a
  obtain ⟨_, _, _, _⟩ := b
  cases language
  cases value .url
  cases value .tcp
  cases value .config
  rfl

theorem Arguments.language?_add (a : Arguments) (part : Part) :
    (a.add part).language? = part.language?.or a.language? := by
  cases part with
  | option given value => cases given <;> rfl
  | language name => rfl

theorem Arguments.value?_add (a : Arguments) (part : Part) (o : ValueOption) :
    (a.add part).value? o = (part.value? o).or (a.value? o) := by
  cases part with
  | option given value => cases given <;> cases o <;> rfl
  | language name => cases o <;> rfl

/-- What is found in a list behind others is found in it, or else before. -/
private theorem getLast?_filterMap_concat {α β : Type} (f : α → Option β) (items : List α) (x : α) :
    ((items ++ [x]).filterMap f).getLast? = (f x).or (items.filterMap f).getLast? := by
  rw [List.filterMap_append, List.getLast?_append]
  cases found : f x <;> simp [found]

/-- Parts that are taken one after the other give what they give together. -/
theorem foldl_add (parts : List Part) : parts.foldl Arguments.add {} = gathered parts := by
  suffices grown : ∀ later before : List Part,
      later.foldl Arguments.add (gathered before) = gathered (before ++ later) from grown parts []
  intro later
  induction later with
  | nil =>
    intro before
    rw [List.append_nil]
    rfl
  | cons part later ih =>
    intro before
    have next : (gathered before).add part = gathered (before ++ [part]) := by
      refine Arguments.ext_value ?_ fun o => ?_
      · rw [Arguments.language?_add]
        exact (getLast?_filterMap_concat Part.language? before part).symm
      · rw [Arguments.value?_add]
        cases o <;> exact (getLast?_filterMap_concat _ before part).symm
    rw [List.foldl_cons, next, ih, List.append_assoc]
    rfl

/-- Whether parts can follow where `a` was given. -/
structure Follows (a : Arguments) (parts : List Part) : Prop where
  plain : ∀ name ∈ languages parts, ¬ BeginsWithDash name
  single : a.language?.toList.length + (languages parts).length ≤ 1

theorem follows_nil (a : Arguments) : Follows a [] where
  plain _ h := absurd h List.not_mem_nil
  single := by cases a.language? <;> simp [languages]

theorem follows_empty_iff {parts : List Part} : Follows {} parts ↔ IsSequence parts := by
  constructor
  · intro h
    exact ⟨h.plain, Nat.le_trans (Nat.le_add_left _ _) h.single⟩
  · intro h
    exact ⟨h.plain, Nat.le_trans (Nat.le_of_eq (Nat.zero_add _)) h.single⟩

theorem follows_option_iff {a : Arguments} {o : ValueOption} {value : String}
    {parts : List Part} : Follows a (.option o value :: parts) ↔ Follows (a.set value o) parts := by
  have same : (a.set value o).language? = a.language? := by cases o <;> rfl
  constructor
  · intro h
    exact ⟨h.plain, by rw [same]; exact h.single⟩
  · intro h
    refine ⟨h.plain, ?_⟩
    have single := h.single
    rw [same] at single
    exact single

theorem follows_language_iff {a : Arguments} {name : String} {parts : List Part} :
    Follows a (.language name :: parts) ↔
      ¬ BeginsWithDash name ∧ a.language? = none ∧
        Follows { a with language? := some name } parts := by
  have all : languages (.language name :: parts) = name :: languages parts := rfl
  constructor
  · intro h
    have single := h.single
    rw [all, List.length_cons] at single
    have free : a.language? = none := by
      cases given : a.language? with
      | none => rfl
      | some other =>
        rw [given, Option.toList_some, List.length_singleton] at single
        omega
    refine ⟨h.plain name (by rw [all]; exact List.mem_cons_self), free, ?_, ?_⟩
    · intro other member
      exact h.plain other (by rw [all]; exact List.mem_cons_of_mem _ member)
    · rw [free] at single
      simpa [Nat.add_comm] using single
  · rintro ⟨plain, free, h⟩
    refine ⟨?_, ?_⟩
    · intro other member
      rw [all] at member
      rcases List.mem_cons.mp member with rfl | later
      · exact plain
      · exact h.plain other later
    · have single := h.single
      rw [all, free]
      simpa [Nat.add_comm] using single

/-- Parts that can follow are taken, and reading goes on behind them. -/
theorem parseFrom_written {a : Arguments} {parts : List Part} (h : Follows a parts)
    (rest : List String) :
    Command.parseFrom a (written parts ++ rest) =
      Command.parseFrom (parts.foldl Arguments.add a) rest := by
  induction parts generalizing a with
  | nil => rfl
  | cons part parts ih =>
    cases part with
    | option o value =>
      have noHelp := o.asksForHelp_name
      have option := ValueOption.ofArgument?_eq_some_iff.mpr (Eq.refl o.name)
      show Command.parseFrom a (o.name :: value :: (written parts ++ rest)) = _
      rw [Command.parseFrom, noHelp]
      simp only [Bool.false_eq_true, if_false, option]
      exact ih (follows_option_iff.mp h)
    | language name =>
      obtain ⟨plain, free, later⟩ := follows_language_iff.mp h
      obtain ⟨noHelp, noOption⟩ := fitsNowhere_of_plain plain
      have noDash : ¬ name.toList.head? = some '-' := plain
      show Command.parseFrom a (name :: (written parts ++ rest)) = _
      rw [Command.parseFrom, noHelp]
      simp only [Bool.false_eq_true, if_false, noOption, noDash, free, Option.isSome_none]
      exact ih later

/-- What stands behind the parts decides. -/
theorem parseFrom_of_decides {a : Arguments} {rest : List String}
    {result : Except ArgumentError Command} (h : Decides a rest result) :
    Command.parseFrom a rest = result := by
  cases h with
  | nothing => rfl
  | help rest asks => rw [Command.parseFrom, if_pos asks]
  | refused offends =>
    cases offends with
    | unknown rest dash noHelp noOption =>
      have dash' : _ = some '-' := dash
      have none := ValueOption.ofArgument?_eq_none_iff.mpr noOption
      rw [Command.parseFrom, noHelp]
      simp only [Bool.false_eq_true, if_false, none, dash', if_true]
    | second rest plain taken =>
      obtain ⟨noHelp, noOption⟩ := fitsNowhere_of_plain plain
      have noDash : ¬ _ = some '-' := plain
      rw [Command.parseFrom, noHelp]
      simp only [Bool.false_eq_true, if_false, noOption, noDash, taken, if_true]
    | noValue o =>
      have option := ValueOption.ofArgument?_eq_some_iff.mpr (Eq.refl o.name)
      rw [Command.parseFrom, o.asksForHelp_name]
      simp only [Bool.false_eq_true, if_false, option]

/-- Every command line begins with parts, behind which something decides. -/
theorem exists_decides (a : Arguments) (args : List String) :
    ∃ parts rest result, args = written parts ++ rest ∧ Follows a parts ∧
      Decides (parts.foldl Arguments.add a) rest result := by
  fun_induction Command.parseFrom a args with
  | case1 a => exact ⟨[], [], _, rfl, follows_nil a, .nothing⟩
  | case2 a word rest asks => exact ⟨[], word :: rest, _, rfl, follows_nil a, .help rest asks⟩
  | case3 a word noHelp o option =>
    have same := ValueOption.ofArgument?_eq_some_iff.mp option
    rw [same]
    exact ⟨[], [o.name], _, rfl, follows_nil a, .refused (.noValue o)⟩
  | case4 a word noHelp o option value rest ih =>
    have same := ValueOption.ofArgument?_eq_some_iff.mp option
    obtain ⟨parts, rest', result, split, follows, decides⟩ := ih
    refine ⟨.option o value :: parts, rest', result, ?_, follows_option_iff.mpr follows, decides⟩
    rw [same, split]
    rfl
  | case5 a word rest noHelp noOption dash =>
    exact ⟨[], word :: rest, _, rfl, follows_nil a, .refused (.unknown rest dash
      (Bool.eq_false_iff.mpr noHelp) (ValueOption.ofArgument?_eq_none_iff.mp noOption))⟩
  | case6 a word rest noHelp noOption plain taken =>
    exact ⟨[], word :: rest, _, rfl, follows_nil a, .refused (.second rest plain taken)⟩
  | case7 a word rest noHelp noOption plain free ih =>
    obtain ⟨parts, rest', result, split, follows, decides⟩ := ih
    have free' : a.language? = none := by simpa using free
    refine ⟨.language word :: parts, rest', result, ?_,
      follows_language_iff.mpr ⟨plain, free', follows⟩, decides⟩
    rw [split]
    rfl

/-- Reading takes the parts of a command line, and what stands behind them decides. -/
theorem parse_eq_iff {args : List String} {result : Except ArgumentError Command} :
    Command.parse args = result ↔ ∃ parts rest, IsSequence parts ∧ args = written parts ++ rest ∧
      Decides (gathered parts) rest result := by
  constructor
  · rintro rfl
    obtain ⟨parts, rest, result, rfl, follows, decides⟩ := exists_decides {} args
    have read : Command.parse (written parts ++ rest) = result := by
      unfold Command.parse
      rw [parseFrom_written follows, parseFrom_of_decides decides]
    rw [foldl_add] at decides
    exact ⟨parts, rest, follows_empty_iff.mp follows, rfl, read ▸ decides⟩
  · rintro ⟨parts, rest, sequence, rfl, decides⟩
    unfold Command.parse
    rw [parseFrom_written (follows_empty_iff.mpr sequence), foldl_add, parseFrom_of_decides decides]

/-- The message of an error shows the argument that fits nowhere. -/
theorem Offends.shown {a : Arguments} {word : String} {rest : List String} {e : ArgumentError}
    (h : Offends a word rest e) : ∃ before after, e.message = before ++ word ++ after := by
  cases h with
  | unknown rest dash noHelp noOption =>
    refine ⟨"unknown option '", "'" ++ "\n" ++ usage, ?_⟩
    show "unknown option '" ++ word ++ "'" ++ "\n" ++ usage = _
    simp only [String.append_assoc]
  | second rest plain taken =>
    refine ⟨"unexpected argument '", "'" ++ "\n" ++ usage, ?_⟩
    show "unexpected argument '" ++ word ++ "'" ++ "\n" ++ usage = _
    simp only [String.append_assoc]
  | noValue o =>
    refine ⟨"", " needs a value" ++ "\n" ++ usage, ?_⟩
    show o.name ++ " needs a value" ++ "\n" ++ usage = _
    simp only [String.append_assoc, String.empty_append]

/-- What the arguments may be, and what comes of them. -/
structure ParsesGrammar (args : List String) : Prop where
  /-- The program runs exactly if they are nothing but parts, and with what those give. -/
  run : ∀ a, Command.parse args = .ok (.run a) ↔
    ∃ parts, IsSequence parts ∧ args = written parts ∧ a = gathered parts
  /-- It shows help exactly if an argument behind parts asks for it, whatever follows. -/
  help : Command.parse args = .ok .help ↔ ∃ parts word rest, IsSequence parts ∧
    args = written parts ++ word :: rest ∧ asksForHelp word = true
  /-- All other arguments are refused, for the first one that fits nowhere. -/
  refused : ∀ e, Command.parse args = .error e ↔ ∃ parts word rest, IsSequence parts ∧
    args = written parts ++ word :: rest ∧ Offends (gathered parts) word rest e
  /-- The message names that argument. -/
  named : ∀ parts word rest e, args = written parts ++ word :: rest →
    Offends (gathered parts) word rest e → ∃ before after, e.message = before ++ word ++ after
  /-- Only among parts of one kind the order counts. -/
  order : ∀ parts others, IsSequence parts → args = written parts →
    languages others = languages parts → (∀ o, values o others = values o parts) →
    Command.parse (written others) = Command.parse args

/-- **The arguments are parsed by their grammar.** -/
theorem parses_exactly_grammar (args : List String) : ParsesGrammar args where
  run a := by
    rw [parse_eq_iff]
    constructor
    · rintro ⟨parts, rest, sequence, split, decides⟩
      cases decides with
      | nothing => exact ⟨parts, sequence, split.trans (List.append_nil _), rfl⟩
    · rintro ⟨parts, sequence, split, rfl⟩
      exact ⟨parts, [], sequence, split.trans (List.append_nil _).symm, .nothing⟩
  help := by
    rw [parse_eq_iff]
    constructor
    · rintro ⟨parts, rest, sequence, split, decides⟩
      cases decides with
      | help rest asks => exact ⟨parts, _, rest, sequence, split, asks⟩
    · rintro ⟨parts, word, rest, sequence, split, asks⟩
      exact ⟨parts, word :: rest, sequence, split, .help rest asks⟩
  refused e := by
    rw [parse_eq_iff]
    constructor
    · rintro ⟨parts, rest, sequence, split, decides⟩
      cases decides with
      | refused offends => exact ⟨parts, _, _, sequence, split, offends⟩
    · rintro ⟨parts, word, rest, sequence, split, offends⟩
      exact ⟨parts, word :: rest, sequence, split, .refused offends⟩
  named _ _ _ _ _ offends := offends.shown
  order parts others sequence split sameLanguages sameValues := by
    have given : gathered others = gathered parts := by
      unfold gathered
      rw [sameLanguages, sameValues, sameValues, sameValues]
    have sequence' : IsSequence others := by
      refine ⟨?_, ?_⟩
      · rw [sameLanguages]
        exact sequence.plain
      · rw [sameLanguages]
        exact sequence.single
    have read : ∀ {given : List Part}, IsSequence given →
        Command.parse (written given) = .ok (.run (gathered given)) := fun {given} h =>
      parse_eq_iff.mpr ⟨given, [], h, (List.append_nil _).symm, .nothing⟩
    rw [split, read sequence, read sequence', given]

/-- The value of an option may look like another one, and the last value counts; behind an
argument that asks for help nothing is looked at. -/
example :
    Command.parse ["--url", "--help", "rust", "--url", "-x"] =
        .ok (.run { language? := some "rust", url? := some "-x" }) ∧
      Command.parse ["rust", "-h", "go", "--tcp"] = .ok .help ∧
      Command.parse ["rust", "go", "--tcp"] = .error (.unexpected "go") :=
  ⟨rfl, rfl, rfl⟩

end LspClient.CommandLine
