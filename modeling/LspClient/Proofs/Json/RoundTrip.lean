import LspClient.Proofs.Json.Members
import LspClient.Proofs.Json.Numeral
import LspClient.Proofs.Json.Strings

/-!
# Written values are read back

A value without doubles is read back from its text, if it nests no deeper than the reader
goes; if it nests deeper, the text is refused for that reason. `ReadsAs` says both at once,
so that one induction over the value settles both: the reader takes the items of a list, or
the members of an object, one after the other, until one of them is too deep.

Doubles are left out, as their text is read back only nearly.
-/

namespace LspClient.Json

/-! ## Values that are read back -/

/-- A value without doubles in which every object has its members in order. -/
inductive Plain : Json → Prop
  | null : Plain .null
  | bool (b : Bool) : Plain (.bool b)
  | int (n : Int) (lower : -2 ^ 63 ≤ n) (upper : n < 2 ^ 64) : Plain (.number (.int n lower upper))
  | string (s : String) : Plain (.string s)
  | array {items : List Json} (all : ∀ x ∈ items, Plain x) : Plain (.array items)
  | object {members : List (String × Json)} (sorted : SortedKeys members)
      (all : ∀ m ∈ members, Plain m.2) : Plain (.object members)

mutual

/-- How deep lists and objects nest in a value. -/
def depth : Json → Nat
  | .array items => itemsDepth items + 1
  | .object members => membersDepth members + 1
  | _ => 0

/-- The depth of the deepest item. -/
def itemsDepth : List Json → Nat
  | [] => 0
  | x :: xs => max (depth x) (itemsDepth xs)

/-- The depth of the deepest member. -/
def membersDepth : List (String × Json) → Nat
  | [] => 0
  | (_, v) :: ms => max (depth v) (membersDepth ms)

end

theorem itemsDepth_le_iff {items : List Json} {d : Nat} :
    itemsDepth items ≤ d ↔ ∀ x ∈ items, x.depth ≤ d := by
  induction items with
  | nil => simp [itemsDepth]
  | cons x xs ih =>
    rw [itemsDepth, Nat.max_le, ih, List.forall_mem_cons]

theorem membersDepth_le_iff {members : List (String × Json)} {d : Nat} :
    membersDepth members ≤ d ↔ ∀ m ∈ members, m.2.depth ≤ d := by
  induction members with
  | nil => simp [membersDepth]
  | cons m ms ih =>
    rw [membersDepth, Nat.max_le, ih, List.forall_mem_cons]

/-! ## What reading leads to -/

/-- Reading gives `x` if it fits, and is refused as too deep if it does not. -/
def ReadsAs (fits : Prop) (x : α) (result : Except Stop α) : Prop :=
  (fits → result = .ok x) ∧ (¬ fits → ∃ stop, result = .error stop ∧ stop.fault = .tooDeep)

namespace ReadsAs

variable {p q : Prop} {x : α} {y : β} {r : Except Stop α} {f : α → Except Stop β}

theorem of_ok (h : r = .ok x) (fits : p) : ReadsAs p x r :=
  ⟨fun _ => h, fun not => absurd fits not⟩

theorem congr (h : ReadsAs p x r) (same : p ↔ q) : ReadsAs q x r :=
  ⟨fun hq => h.1 (same.mpr hq), fun hq => h.2 fun hp => hq (same.mp hp)⟩

/-- Reading one thing after the other gives both if both fit. -/
theorem bind (first : ReadsAs p x r) (second : p → ReadsAs q y (f x)) :
    ReadsAs (p ∧ q) y (r >>= f) := by
  constructor
  · intro ⟨hp, hq⟩
    rw [first.1 hp]
    exact (second hp).1 hq
  · intro not
    by_cases hp : p
    · rw [first.1 hp]
      exact (second hp).2 fun hq => not ⟨hp, hq⟩
    · obtain ⟨stop, failed, deep⟩ := first.2 hp
      rw [failed]
      exact ⟨stop, rfl, deep⟩

theorem bind_ok (first : ReadsAs p x r) (second : f x = .ok y) : ReadsAs p y (r >>= f) :=
  (first.bind (q := True) fun _ => .of_ok second trivial).congr (iff_of_eq (and_true p))

end ReadsAs

/-- What was read is passed on. -/
theorem ok_bind (x : α) (f : α → Except ε β) : (Except.ok x >>= f) = f x := rfl

/-- What comes of reading one thing after the other comes of both. -/
theorem bind_eq_ok_iff {r : Except ε α} {next : α → Except ε β} {y : β} :
    (r >>= next) = .ok y ↔ ∃ x, r = .ok x ∧ next x = .ok y := by
  cases r with
  | error e => simp [bind, Except.bind]
  | ok x => simp [bind, Except.bind]

/-- The text of a value is read as the value where it nests at most `d` deep, and the
reader stops right after it. -/
def Reads (d : Nat) (v : Json) : Prop :=
  ∀ rest, EndsNumeral rest →
    ReadsAs (v.depth ≤ d) (v, rest) (value d (Utf8.encode v.text ++ rest))

/-! ## How texts begin -/

theorem skipBlanks_cons {b : UInt8} (h : isBlank b = false) (rest : Bytes) :
    skipBlanks (b :: rest) = b :: rest := by
  unfold skipBlanks
  rw [List.dropWhile_cons, h]
  rfl

/-- A digit is none of the bytes that are none. -/
theorem ne_of_isDigit {b c : UInt8} (h : isDigit b = true) (hc : isDigit c = false) : b ≠ c := by
  intro same
  rw [same, hc] at h
  cases h

theorem isBlank_of_isDigit {b : UInt8} (h : isDigit b = true) : isBlank b = false := by
  simp [isBlank]
  refine ⟨⟨⟨?_, ?_⟩, ?_⟩, ?_⟩ <;> exact ne_of_isDigit h (by decide)

theorem encode_toDigits_cons (n : Nat) (rest : Bytes) :
    ∃ b more, Utf8.encode (Nat.toDigits 10 n) ++ rest = b :: more ∧ isDigit b = true := by
  have digits : ∀ c ∈ Nat.toDigits 10 n, c.isDigit = true :=
    fun _ => Decimal.isDigit_of_mem_toDigits
  rw [encode_digits digits]
  cases all : Nat.toDigits 10 n with
  | nil => exact absurd all Nat.toDigits_ne_nil
  | cons c more =>
    rw [all] at digits
    exact ⟨_, _, rfl, isDigit_byteOf (digits c List.mem_cons_self)⟩

/-- The text of a value begins with no blank and closes no list. -/
theorem encode_text_cons {v : Json} (h : v.Plain) (rest : Bytes) :
    ∃ b more, Utf8.encode v.text ++ rest = b :: more ∧ isBlank b = false ∧ b ≠ ']'.toUInt8 := by
  cases h with
  | null => exact ⟨_, _, rfl, by decide, by decide⟩
  | bool b =>
    cases b with
    | false => exact ⟨_, _, rfl, by decide, by decide⟩
    | true => exact ⟨_, _, rfl, by decide, by decide⟩
  | int n lower upper =>
    show ∃ b more, Utf8.encode (intText n) ++ rest = b :: more ∧ _
    unfold intText
    by_cases negative : n < 0
    · rw [if_pos negative]
      exact ⟨_, _, rfl, by decide, by decide⟩
    · rw [if_neg negative]
      obtain ⟨b, more, begins, digit⟩ := encode_toDigits_cons n.natAbs rest
      exact ⟨b, more, begins, isBlank_of_isDigit digit, ne_of_isDigit digit (by decide)⟩
  | string s => exact ⟨_, _, rfl, by decide, by decide⟩
  | @array items all =>
    cases items with
    | nil => exact ⟨_, _, rfl, by decide, by decide⟩
    | cons x xs => exact ⟨_, _, rfl, by decide, by decide⟩
  | @object members sorted all =>
    cases members with
    | nil => exact ⟨_, _, rfl, by decide, by decide⟩
    | cons m ms => exact ⟨_, _, rfl, by decide, by decide⟩

/-! ## Lists -/

section

variable {d : Nat} {rest : Bytes}

theorem endsNumeral_cons {b : UInt8} (h : isDigit b = false ∧ b ≠ '.'.toUInt8 ∧
    isExponentMark b = false) (rest : Bytes) : EndsNumeral (b :: rest) := by
  intro c hc
  cases hc
  exact h

theorem endsNumeral_itemsText (xs : List Json) (rest : Bytes) :
    EndsNumeral (Utf8.encode (itemsText xs) ++ rest) := by
  cases xs with
  | nil => exact endsNumeral_cons (by decide) _
  | cons x xs => exact endsNumeral_cons (by decide) _

theorem length_lt_itemsText (xs : List Json) : xs.length < (itemsText xs).length := by
  induction xs with
  | nil => decide
  | cons x xs ih =>
    simp only [itemsText, List.length_cons, List.length_append]
    omega

/-- The items of a list are read one after the other, until one is too deep. -/
theorem listItems_itemsText {x : Json} {xs : List Json} (plain : ∀ y ∈ x :: xs, y.Plain)
    (reads : ∀ y ∈ x :: xs, Reads d y) {fuel : Nat} (enough : xs.length < fuel)
    (done : List Json) (rest : Bytes) :
    ReadsAs (∀ y ∈ x :: xs, y.depth ≤ d) (done.reverse ++ x :: xs, rest)
      (listItems (value d) fuel done (Utf8.encode (x.text ++ itemsText xs) ++ rest)) := by
  induction xs generalizing x fuel done with
  | nil =>
    obtain ⟨fuel, rfl⟩ : ∃ n, fuel = n + 1 := ⟨fuel - 1, by omega⟩
    have first := reads x List.mem_cons_self _ (endsNumeral_itemsText [] rest)
    have closed : skipBlanks (Utf8.encode (itemsText []) ++ rest) = ']'.toUInt8 :: rest :=
      skipBlanks_cons (by decide) rest
    rw [Utf8.encode_append, List.append_assoc, listItems]
    refine (first.bind_ok ?_).congr (by simp)
    simp only [closed, if_true, List.reverse_cons]
  | cons x' xs ih =>
    obtain ⟨fuel, rfl⟩ : ∃ n, fuel = n + 1 := ⟨fuel - 1, by omega⟩
    have first := reads x List.mem_cons_self _ (endsNumeral_itemsText (x' :: xs) rest)
    have enough' : xs.length < fuel := by simpa using enough
    have others := ih (fun y hy => plain y (List.mem_cons_of_mem _ hy))
      (fun y hy => reads y (List.mem_cons_of_mem _ hy)) enough' (x :: done)
    obtain ⟨b, more, begins, solid, open_⟩ :=
      encode_text_cons (plain x' (by simp)) (Utf8.encode (itemsText xs) ++ rest)
    have comma : skipBlanks (Utf8.encode (itemsText (x' :: xs)) ++ rest) =
        ','.toUInt8 :: (Utf8.encode (x'.text ++ itemsText xs) ++ rest) :=
      skipBlanks_cons (by decide) _
    have next : skipBlanks (Utf8.encode (x'.text ++ itemsText xs) ++ rest) = b :: more := by
      rw [Utf8.encode_append, List.append_assoc, begins, skipBlanks_cons solid]
    rw [Utf8.encode_append, List.append_assoc, listItems]
    refine (first.bind (q := ∀ y ∈ x' :: xs, y.depth ≤ d) fun _ => ?_).congr (by simp)
    have noList : ','.toUInt8 ≠ ']'.toUInt8 := by decide
    simp only [comma, noList, if_false, if_true, next, open_]
    rw [Utf8.encode_append, List.append_assoc, begins] at others
    simpa using others

/-- A list is read from after its opening bracket. -/
theorem listBody_itemsText {x : Json} {xs : List Json} (plain : ∀ y ∈ x :: xs, y.Plain)
    (reads : ∀ y ∈ x :: xs, Reads d y) (rest : Bytes) :
    ReadsAs (∀ y ∈ x :: xs, y.depth ≤ d) (.array (x :: xs), rest)
      (listBody (value d) (Utf8.encode (x.text ++ itemsText xs) ++ rest)) := by
  obtain ⟨b, more, begins, solid, open_⟩ :=
    encode_text_cons (plain x (by simp)) (Utf8.encode (itemsText xs) ++ rest)
  have all : Utf8.encode (x.text ++ itemsText xs) ++ rest = b :: more := by
    rw [Utf8.encode_append, List.append_assoc, begins]
  -- every item has a byte of its own, the comma or bracket behind it
  have enough : xs.length < more.length + 1 := by
    have bytes : (b :: more).length =
        (Utf8.encode (x.text ++ itemsText xs)).length + rest.length := by
      rw [← all, List.length_append]
    have characters := Utf8.length_le_encode (x.text ++ itemsText xs)
    have items := length_lt_itemsText xs
    rw [List.length_append] at characters
    rw [List.length_cons] at bytes
    omega
  have items := listItems_itemsText plain reads enough [] rest
  rw [all] at items
  unfold listBody
  rw [all, skipBlanks_cons solid]
  simp only [open_, if_false]
  exact items.bind_ok rfl

/-! ## Objects -/

theorem endsNumeral_membersText (ms : List (String × Json)) (rest : Bytes) :
    EndsNumeral (Utf8.encode (membersText ms) ++ rest) := by
  cases ms with
  | nil => exact endsNumeral_cons (by decide) _
  | cons m ms => exact endsNumeral_cons (by decide) _

theorem length_lt_membersText (ms : List (String × Json)) :
    ms.length < (membersText ms).length := by
  induction ms with
  | nil => decide
  | cons m ms ih =>
    simp only [membersText, List.length_cons, List.length_append]
    omega

/-- A key, the colon behind it, and what follows. -/
theorem encode_member (k : String) (text : List Char) (rest : Bytes) :
    Utf8.encode (stringText k ++ ':' :: text) ++ rest =
      '"'.toUInt8 :: (Utf8.encode (k.toList.flatMap escapeChar ++ ['"']) ++
        ':'.toUInt8 :: (Utf8.encode text ++ rest)) := by
  rw [Utf8.encode_append, List.append_assoc]
  rfl

theorem colon_cons (rest : Bytes) : colon (':'.toUInt8 :: rest) = .ok rest := rfl

/-- The members of an object are read one after the other, until one is too deep. -/
theorem objectMembers_membersText {m : String × Json} {ms : List (String × Json)}
    (reads : ∀ n ∈ m :: ms, Reads d n.2) {fuel : Nat} (enough : ms.length < fuel)
    (done : List (String × Json)) (rest : Bytes) :
    ReadsAs (∀ n ∈ m :: ms, n.2.depth ≤ d) (done.reverse ++ m :: ms, rest)
      (objectMembers (value d) fuel done
        (Utf8.encode (stringText m.1 ++ ':' :: (m.2.text ++ membersText ms)) ++ rest)) := by
  induction ms generalizing m fuel done with
  | nil =>
    obtain ⟨fuel, rfl⟩ : ∃ n, fuel = n + 1 := ⟨fuel - 1, by omega⟩
    have first := reads m List.mem_cons_self _ (endsNumeral_membersText [] rest)
    have closed : skipBlanks (Utf8.encode (membersText []) ++ rest) = '\x7d'.toUInt8 :: rest :=
      skipBlanks_cons (by decide) rest
    rw [encode_member, objectMembers, if_pos rfl, stringBody_escaped]
    simp only [ok_bind, colon_cons]
    rw [Utf8.encode_append, List.append_assoc]
    refine (first.bind_ok ?_).congr (by simp)
    simp only [closed, if_true, List.reverse_cons]
  | cons m' ms ih =>
    obtain ⟨fuel, rfl⟩ : ∃ n, fuel = n + 1 := ⟨fuel - 1, by omega⟩
    have first := reads m List.mem_cons_self _ (endsNumeral_membersText (m' :: ms) rest)
    have enough' : ms.length < fuel := by simpa using enough
    have others := ih (fun n hn => reads n (List.mem_cons_of_mem _ hn)) enough' (m :: done)
    have comma : skipBlanks (Utf8.encode (membersText (m' :: ms)) ++ rest) =
        ','.toUInt8 ::
          (Utf8.encode (stringText m'.1 ++ ':' :: (m'.2.text ++ membersText ms)) ++ rest) :=
      skipBlanks_cons (by decide) _
    have quote : isBlank '"'.toUInt8 = false := by decide
    have noBrace : ','.toUInt8 ≠ '\x7d'.toUInt8 := by decide
    have key : '"'.toUInt8 ≠ '\x7d'.toUInt8 := by decide
    rw [encode_member, objectMembers, if_pos rfl, stringBody_escaped]
    simp only [ok_bind, colon_cons]
    rw [Utf8.encode_append, List.append_assoc]
    refine (first.bind (q := ∀ n ∈ m' :: ms, n.2.depth ≤ d) fun _ => ?_).congr (by simp)
    rw [encode_member] at others
    simp only [comma, noBrace, if_false, if_true, encode_member, skipBlanks_cons quote, key]
    simpa using others

/-- An object is read from after its opening brace, in whatever order its members stand. -/
theorem objectBody_membersText {m : String × Json} {ms : List (String × Json)}
    (reads : ∀ n ∈ m :: ms, Reads d n.2) (rest : Bytes) :
    ReadsAs (∀ n ∈ m :: ms, n.2.depth ≤ d) (ofMembers (m :: ms), rest)
      (objectBody (value d)
        (Utf8.encode (stringText m.1 ++ ':' :: (m.2.text ++ membersText ms)) ++ rest)) := by
  have begins := encode_member m.1 (m.2.text ++ membersText ms) rest
  -- every member has a byte of its own, the comma or brace behind it
  have enough : ms.length < (Utf8.encode (m.1.toList.flatMap escapeChar ++ ['"']) ++
      ':'.toUInt8 :: (Utf8.encode (m.2.text ++ membersText ms) ++ rest)).length + 1 := by
    have characters := Utf8.length_le_encode (m.2.text ++ membersText ms)
    have members := length_lt_membersText ms
    rw [List.length_append] at characters
    simp only [List.length_append, List.length_cons]
    omega
  have members := objectMembers_membersText reads enough [] rest
  have key : '"'.toUInt8 ≠ '\x7d'.toUInt8 := by decide
  unfold objectBody
  rw [begins] at members ⊢
  rw [skipBlanks_cons (by decide)]
  simp only [key, if_false]
  exact members.bind_ok rfl

end

/-! ## Values -/

section

variable {list object : Bytes → Except Stop (Json × Bytes)}

theorem valueWith_string (s : String) (rest : Bytes) :
    valueWith list object (Utf8.encode (stringText s) ++ rest) = .ok (.string s, rest) := by
  show (stringBody (Utf8.encode (s.toList.flatMap escapeChar ++ ['"']) ++ rest) >>= _) = _
  rw [stringBody_escaped]
  rfl

theorem valueWith_int {n : Int} (lower : -2 ^ 63 ≤ n) (upper : n < 2 ^ 64) {rest : Bytes}
    (ends : EndsNumeral rest) :
    valueWith list object (Utf8.encode (intText n) ++ rest) =
      .ok (.number (.int n lower upper), rest) := by
  have fits : n.natAbs < 2 ^ 64 := by omega
  unfold intText
  by_cases negative : n < 0
  · rw [if_pos negative]
    show (numeral true (Utf8.encode (Nat.toDigits 10 n.natAbs) ++ rest) >>= _) = _
    rw [numeral_toDigits true fits ends, wholeNumber_of_neg lower upper negative]
    rfl
  · rw [if_neg negative]
    obtain ⟨b, more, begins, digit⟩ := encode_toDigits_cons n.natAbs rest
    have read := numeral_toDigits false fits ends
    rw [begins] at read ⊢
    unfold valueWith
    rw [skipBlanks_cons (isBlank_of_isDigit digit)]
    have brace : b ≠ '\x7b'.toUInt8 := ne_of_isDigit digit (by decide)
    have bracket : b ≠ '['.toUInt8 := ne_of_isDigit digit (by decide)
    have quote : b ≠ '"'.toUInt8 := ne_of_isDigit digit (by decide)
    have minus : b ≠ '-'.toUInt8 := ne_of_isDigit digit (by decide)
    simp only [brace, bracket, quote, minus, digit, if_false, if_true, read, ok_bind]
    rw [wholeNumber_of_nonneg lower upper negative]

end

/-- What is no list and no object is read the same at every depth. -/
theorem value_eq_valueWith (d : Nat) :
    ∃ list object, ∀ input, value d input = valueWith list object input := by
  cases d with
  | zero =>
    let refuse (at_ : Bytes) : Except Stop (Json × Bytes) := .error (.atNext .tooDeep at_)
    exact ⟨refuse, refuse, fun _ => rfl⟩
  | succ d => exact ⟨_, _, fun _ => rfl⟩

/-- A value without doubles is read back where it nests no deeper than the reader goes. -/
theorem reads_of_plain {v : Json} (h : v.Plain) (d : Nat) : Reads d v := by
  induction h generalizing d with
  | null =>
    intro rest ends
    obtain ⟨list, object, same⟩ := value_eq_valueWith d
    exact .of_ok (same _) (Nat.zero_le d)
  | bool b =>
    intro rest ends
    obtain ⟨list, object, same⟩ := value_eq_valueWith d
    cases b with
    | false => exact .of_ok (same _) (Nat.zero_le d)
    | true => exact .of_ok (same _) (Nat.zero_le d)
  | int n lower upper =>
    intro rest ends
    obtain ⟨list, object, same⟩ := value_eq_valueWith d
    exact .of_ok ((same _).trans (valueWith_int lower upper ends)) (Nat.zero_le d)
  | string s =>
    intro rest ends
    obtain ⟨list, object, same⟩ := value_eq_valueWith d
    exact .of_ok ((same _).trans (valueWith_string s rest)) (Nat.zero_le d)
  | @array items plain ih =>
    intro rest ends
    cases d with
    | zero =>
      refine ⟨fun fits => absurd fits (by simp [depth]), fun _ => ?_⟩
      cases items <;> exact ⟨_, rfl, rfl⟩
    | succ d =>
      cases items with
      | nil => exact .of_ok rfl (by simp [depth, itemsDepth])
      | cons x xs =>
        have body := listBody_itemsText plain (fun y hy => ih y hy d) rest
        refine ReadsAs.congr body ?_
        rw [depth, Nat.succ_le_succ_iff, itemsDepth_le_iff]
  | @object members sorted plain ih =>
    intro rest ends
    cases d with
    | zero =>
      refine ⟨fun fits => absurd fits (by simp [depth]), fun _ => ?_⟩
      cases members <;> exact ⟨_, rfl, rfl⟩
    | succ d =>
      cases members with
      | nil => exact .of_ok rfl (by simp [depth, membersDepth])
      | cons m ms =>
        have body := objectBody_membersText (fun n hn => ih n hn d) rest
        rw [ofMembers_of_sorted sorted] at body
        refine ReadsAs.congr body ?_
        rw [depth, Nat.succ_le_succ_iff, membersDepth_le_iff]

/-! ## Whole texts -/

/-- The text of a value without doubles is parsed as the value, if lists and objects nest
at most `maxDepth` deep in it. -/
theorem parse_bytes {v : Json} (h : v.Plain) (fits : v.depth ≤ maxDepth) :
    parse v.bytes = .ok v := by
  have read := (reads_of_plain h maxDepth [] endsNumeral_nil).1 fits
  rw [List.append_nil] at read
  unfold parse document bytes
  rw [read]
  rfl

/-- Members without doubles that stand in any order are parsed as the object that they make up. -/
theorem parse_members {members : List (String × Json)} (plain : ∀ m ∈ members, m.2.Plain)
    (fits : ∀ m ∈ members, m.2.depth < maxDepth) :
    parse (Utf8.encode (text (.object members))) = .ok (ofMembers members) := by
  cases members with
  | nil => rfl
  | cons m ms =>
    have body := objectBody_membersText (d := maxDepth - 1)
      (fun n hn => reads_of_plain (plain n hn) _) []
    have read := body.1 fun n hn => Nat.le_of_lt_succ (fits n hn)
    rw [List.append_nil] at read
    have document : value maxDepth (Utf8.encode (text (.object (m :: ms)))) =
        .ok (ofMembers (m :: ms), []) := read
    unfold parse Json.document
    rw [document]
    rfl

/-- A text that nests deeper is refused for that. -/
theorem parse_bytes_of_deep {v : Json} (h : v.Plain) (deep : maxDepth < v.depth) :
    ∃ cause, parse v.bytes = .error cause ∧ cause.fault = .tooDeep := by
  obtain ⟨stop, refused, fault⟩ :=
    (reads_of_plain h maxDepth [] endsNumeral_nil).2 (Nat.not_le.mpr deep)
  rw [List.append_nil] at refused
  unfold parse document bytes
  rw [refused]
  exact ⟨stop.locate _, rfl, fault⟩

end LspClient.Json
