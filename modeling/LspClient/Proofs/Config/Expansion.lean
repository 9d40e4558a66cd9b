import LspClient.Proofs.Config.Factors
import LspClient.Proofs.Text.Places

/-!
# What the expansion of a text is

`expands_references` says what becomes of a text: its proper factors are put together again
with the values of the variables in the places of the references. What was put in is not looked
at again.

The text comes as bytes, and to look for its references is to search for bytes and to cut at
their places. `scan?` does that, and it would end without a result if it ever cut inside a
character. It never does (`scan?_text`): what opens and closes a reference are bytes that no
other character has, so that every place that is found is between two characters.
-/

namespace LspClient

/-- What a reference to a variable stands for: nothing if the name is empty, if the variable is
not set, or if its bytes are no text. -/
def Environment.value (env : Environment) (name : List Char) : List Char :=
  if name = [] then []
  else ((env.bytes? (String.ofList name)).bind Utf8.toString?).elim [] String.toList

/-- The same, with the name and the value as bytes. -/
def Environment.valueBytes (env : Environment) (name : Bytes) : Bytes :=
  match Utf8.decode name with
  | .ok name => Utf8.encode (env.value name)
  | .error _ => []

namespace Config

open Utf8

variable {c : Char} {text before rest name : List Char} {f : Factors}

/-! ## Searching for bytes -/

/-- The bytes that open a reference. -/
def openingBytes : Bytes := [0x24, 0x7b]

/-- The byte that closes the name of a reference. -/
def closingByte : UInt8 := 0x7d

/-- The place at which a reference opens first. -/
def firstOpening? : Bytes → Option Nat
  | [] => none
  | b :: rest =>
    if openingBytes.isPrefixOf (b :: rest) then some 0 else (firstOpening? rest).map (· + 1)

/-- What one look at the bytes that are left finds. -/
inductive Finding where
  /-- No reference any more. -/
  | tail (bytes : Bytes)
  | reference (before name after : Bytes)

/-- Looks for the next reference. There is no result if a place at which the bytes are cut is
inside a character. -/
def look? (bytes : Bytes) : Option Finding :=
  match firstOpening? bytes with
  | none => some (.tail bytes)
  | some start =>
    (slice? bytes (start + 2) bytes.length).bind fun inside =>
      match inside.findIdx? (· == closingByte) with
      | none => some (.tail bytes)
      | some length =>
        (slice? bytes 0 start).bind fun before =>
          (slice? bytes (start + 2) (start + 2 + length)).bind fun name =>
            (slice? bytes (start + 2 + length + 1) bytes.length).map fun after =>
              .reference before name after

/-- Less is left after a reference. -/
theorem length_of_look? {bytes before name after : Bytes}
    (h : look? bytes = some (.reference before name after)) : after.length < bytes.length := by
  unfold look? at h
  split at h
  · cases h
  · next start found =>
    obtain ⟨inside, -, h⟩ := Option.bind_eq_some_iff.mp h
    split at h
    · cases h
    · obtain ⟨_, -, h⟩ := Option.bind_eq_some_iff.mp h
      obtain ⟨_, -, h⟩ := Option.bind_eq_some_iff.mp h
      obtain ⟨last, cut, same⟩ := Option.map_eq_some_iff.mp h
      cases same
      unfold slice? at cut
      split at cut
      · next inOrder =>
        cases cut
        rw [List.length_drop, List.take_length]
        omega
      · cases cut

/-- Fills in the values of the variables, from one reference to the next. -/
def scan? (value : Bytes → Bytes) (bytes : Bytes) : Option Bytes :=
  match h : look? bytes with
  | none => none
  | some (.tail rest) => some rest
  | some (.reference before name after) =>
    have : after.length < bytes.length := length_of_look? h
    (scan? value after).map (before ++ value name ++ ·)
termination_by bytes.length

theorem scan?_of_tail {value : Bytes → Bytes} {bytes rest : Bytes}
    (h : look? bytes = some (.tail rest)) : scan? value bytes = some rest := by
  rw [scan?]
  split
  · next none => rw [h] at none; cases none
  · next found => rw [h] at found; cases found; rfl
  · next found => rw [h] at found; cases found

theorem scan?_of_reference {value : Bytes → Bytes} {bytes before name after : Bytes}
    (h : look? bytes = some (.reference before name after)) :
    scan? value bytes = (scan? value after).map (before ++ value name ++ ·) := by
  rw [scan?]
  split
  · next none => rw [h] at none; cases none
  · next found => rw [h] at found; cases found
  · next found => rw [h] at found; cases found; rfl

theorem encode_opening (rest : List Char) :
    encode (opening ++ rest) = openingBytes ++ encode rest := by
  rw [encode_append]
  rfl

/-- The bytes that open a reference stand at the beginning only if a reference opens there. -/
theorem opening_of_encode (h : openingBytes <+: encode text) : opening <+: text := by
  obtain ⟨bytes, same⟩ := h
  obtain ⟨more, rfl, after⟩ := eq_cons_of_encode (c := '$') (by decide) same.symm
  obtain ⟨rest, rfl, -⟩ := eq_cons_of_encode (c := '\x7b') (by decide) after
  exact ⟨rest, rfl⟩

/-- Where no reference opens the search goes on with the next character. -/
theorem firstOpening?_cons (plain : ¬ opening <+: c :: rest) :
    firstOpening? (encode (c :: rest)) =
      (firstOpening? (encode rest)).map (· + (encodeChar c).length) := by
  by_cases ascii : c.toNat < 0x80
  · have elsewhere : ¬ openingBytes <+: UInt8.ofNat c.toNat :: encode rest := by
      intro opens
      refine plain (opening_of_encode ?_)
      rw [encode_cons, encodeChar_of_ascii ascii]
      exact opens
    rw [encode_cons, encodeChar_of_ascii ascii]
    exact if_neg fun opens => elsewhere (List.isPrefixOf_iff_prefix.mp opens)
  · -- none of the bytes of the character is a dollar sign
    have skip (bytes : Bytes) (large : ∀ b ∈ bytes, 0x80 ≤ b.toNat) (more : Bytes) :
        firstOpening? (bytes ++ more) = (firstOpening? more).map (· + bytes.length) := by
      induction bytes with
      | nil => simp
      | cons b bytes ih =>
        have other : openingBytes.isPrefixOf (b :: (bytes ++ more)) = false := by
          have apart : (0x24 == b) = false := by
            rw [beq_eq_false_iff_ne]
            rintro rfl
            exact absurd (large _ List.mem_cons_self) (by decide)
          unfold openingBytes
          rw [List.isPrefixOf, apart]
          rfl
        rw [List.cons_append, firstOpening?, other,
          ih fun b member => large b (List.mem_cons_of_mem _ member)]
        simp [Option.map_map, Function.comp_def, Nat.add_assoc]
    rw [encode_cons]
    exact skip _ (fun b member => le_of_mem_encodeChar ascii member) _

/-- A reference is found where it opens first. -/
theorem firstOpening?_of_before (h : ¬ opening <:+: before ++ ['$']) (rest : List Char) :
    firstOpening? (encode (before ++ opening ++ rest)) = some (encode before).length := by
  induction before with
  | nil =>
    rw [List.nil_append, encode_opening]
    rfl
  | cons c before ih =>
    obtain ⟨plain, later⟩ := not_opening_of_before h rest
    rw [List.cons_append, List.cons_append, firstOpening?_cons plain, ih later, encode_cons,
      List.length_append, Nat.add_comm]
    rfl

/-- Without a reference nothing is found. -/
theorem firstOpening?_eq_none (h : ¬ opening <:+: text) : firstOpening? (encode text) = none := by
  induction text with
  | nil => rfl
  | cons c text ih =>
    rw [List.infix_cons_iff, not_or] at h
    rw [firstOpening?_cons h.1, ih h.2]
    rfl

/-- Of the references that open in a text one opens first. -/
theorem exists_first (h : opening <:+: text) :
    ∃ before rest, text = before ++ opening ++ rest ∧ ¬ opening <:+: before ++ ['$'] := by
  induction text with
  | nil => exact absurd h (by decide)
  | cons c text ih =>
    by_cases here : opening <+: c :: text
    · obtain ⟨rest, same⟩ := here
      exact ⟨[], rest, same.symm, by decide⟩
    · obtain ⟨before, rest, rfl, first⟩ := ih ((List.infix_cons_iff.mp h).resolve_left here)
      refine ⟨c :: before, rest, rfl, ?_⟩
      rw [List.cons_append, List.infix_cons_iff, not_or]
      refine ⟨fun opens => here (opens.trans ?_), first⟩
      exact ⟨'\x7b' :: rest, by simp [opening]⟩

theorem not_closing_of_not_mem (h : '\x7d' ∉ name) :
    ∀ b ∈ encode name, (b == closingByte) = false := by
  intro b member
  rw [beq_eq_false_iff_ne]
  rintro rfl
  exact h ((mem_encode_iff (c := '\x7d') (by decide)).mp member)

/-- The name ends at the first closing brace. -/
theorem findIdx?_closing (h : '\x7d' ∉ name) (rest : List Char) :
    (encode (name ++ '\x7d' :: rest)).findIdx? (· == closingByte) =
      some (encode name).length := by
  have name : (encode name).findIdx? (· == closingByte) = none :=
    List.findIdx?_eq_none_iff.mpr (not_closing_of_not_mem h)
  have closing : (encode ('\x7d' :: rest)).findIdx? (· == closingByte) = some 0 := rfl
  rw [encode_append, List.findIdx?_append, name, closing, Option.none_or, Option.map_some,
    Nat.zero_add]

/-! ## One look, and all of them -/

theorem length_encode_opening (before : List Char) :
    (encode (before ++ opening)).length = (encode before).length + 2 := by
  rw [encode_append, List.length_append]
  rfl

/-- What follows a place between two characters is a text as well. -/
theorem slice?_rest (before rest : List Char) :
    slice? (encode (before ++ rest)) (encode before).length (encode (before ++ rest)).length =
      some (encode rest) := by
  have cut := slice?_encode before rest []
  rw [List.append_nil] at cut
  exact cut

/-- After the last reference nothing is found that is closed. -/
theorem look?_tail (h : ∀ before after, text = before ++ opening ++ after → '\x7d' ∉ after) :
    look? (encode text) = some (.tail (encode text)) := by
  unfold look?
  by_cases opens : opening <:+: text
  · obtain ⟨before, rest, rfl, first⟩ := exists_first opens
    have stays : (encode rest).findIdx? (· == closingByte) = none :=
      List.findIdx?_eq_none_iff.mpr (not_closing_of_not_mem (h before rest rfl))
    rw [firstOpening?_of_before first]
    dsimp only
    rw [← length_encode_opening, slice?_rest, Option.bind_some, stays]
  · rw [firstOpening?_eq_none opens]

/-- The first reference is found with what stands before and after it. -/
theorem look?_reference {r : Reference} (first : ¬ opening <:+: r.before ++ ['$'])
    (closed : '\x7d' ∉ r.name) (rest : List Char) :
    look? (encode (r.text ++ rest)) =
      some (.reference (encode r.before) (encode r.name) (encode rest)) := by
  obtain ⟨before, name⟩ := r
  have text : Reference.text ⟨before, name⟩ ++ rest =
      before ++ opening ++ (name ++ '\x7d' :: rest) := by
    simp [Reference.text]
  have places : (encode (before ++ opening ++ name)).length =
      (encode before).length + 2 + (encode name).length := by
    rw [encode_append, List.length_append, length_encode_opening]
  have last : (encode (before ++ opening ++ name ++ ['\x7d'])).length =
      (encode before).length + 2 + (encode name).length + 1 := by
    rw [encode_append, List.length_append, places]
    rfl
  -- where the text is cut
  have literal : slice? (encode (before ++ opening ++ (name ++ '\x7d' :: rest))) 0
      (encode before).length = some (encode before) := by
    rw [List.append_assoc]
    exact slice?_encode [] before _
  have named := slice?_encode (before ++ opening) name ('\x7d' :: rest)
  have after := slice?_rest (before ++ opening ++ name ++ ['\x7d']) rest
  rw [List.append_assoc _ name, length_encode_opening, places] at named
  rw [List.append_assoc _ ['\x7d'], List.append_assoc _ name, List.singleton_append, last] at after
  unfold look?
  rw [text, firstOpening?_of_before first]
  dsimp only
  rw [← length_encode_opening, slice?_rest, Option.bind_some, findIdx?_closing closed,
    length_encode_opening]
  dsimp only
  rw [literal, Option.bind_some, named, Option.bind_some, after]
  rfl

/-- **The search never cuts inside a character**, and it puts together what the factors say. -/
theorem scan?_text (h : f.IsProper) {value : List Char → List Char} {valueBytes : Bytes → Bytes}
    (same : ∀ name, valueBytes (encode name) = encode (value name)) :
    scan? valueBytes (encode f.text) = some (encode (f.filled value)) := by
  obtain ⟨references, tail⟩ := f
  induction references with
  | nil => exact scan?_of_tail (look?_tail h.tail)
  | cons r rest ih =>
    obtain ⟨first, before⟩ := List.forall_mem_cons.mp h.before
    obtain ⟨closed, name⟩ := List.forall_mem_cons.mp h.name
    have text : Factors.text ⟨r :: rest, tail⟩ = r.text ++ Factors.text ⟨rest, tail⟩ :=
      List.append_assoc ..
    have filled : Factors.filled value ⟨r :: rest, tail⟩ =
        r.before ++ value r.name ++ Factors.filled value ⟨rest, tail⟩ :=
      List.append_assoc ..
    rw [text, scan?_of_reference (look?_reference first closed _), ih ⟨before, name, h.tail⟩,
      filled, encode_append, encode_append, same]
    rfl

/-! ## The expansion -/

/-- What a part stands for, in terms of the variable's value. -/
theorem text_reference (env : Environment) (name : List Char) :
    (Piece.reference name).text env.text? = env.value name := by
  unfold Environment.value
  cases name with
  | nil => rfl
  | cons c name =>
    rw [if_neg (List.cons_ne_nil c name)]
    show ((env.text? (String.ofList (c :: name))).getD "").toList =
      (env.text? (String.ofList (c :: name))).elim [] String.toList
    cases env.text? (String.ofList (c :: name)) <;> rfl

theorem text_pieces (env : Environment) (f : Factors) :
    f.pieces.flatMap (Piece.text env.text?) = f.filled env.value := by
  have literal (text : List Char) :
      (text.map Piece.plain).flatMap (Piece.text env.text?) = text := by
    simp [List.flatMap_map]
  have reference (r : Reference) :
      r.pieces.flatMap (Piece.text env.text?) = r.filled env.value := by
    unfold Reference.pieces Reference.filled
    rw [List.flatMap_append, literal, List.flatMap_singleton, text_reference]
  unfold Factors.pieces Factors.filled
  rw [List.flatMap_append, literal, List.flatMap_assoc]
  simp only [reference]

theorem valueBytes_encode (env : Environment) (name : List Char) :
    env.valueBytes (encode name) = encode (env.value name) := by
  unfold Environment.valueBytes
  rw [decode_encode]

/-- **A text is expanded at its references.** Every text has proper factors, and only these.
In every environment it becomes what they say with the values of the variables put in; and the
search for bytes comes to the same, without cutting inside a character. -/
theorem expands_references (text : String) : ∃ f : Factors,
    (∀ g : Factors, g.IsProper ∧ g.text = text.toList ↔ g = f) ∧
    ∀ env : Environment,
      expand env text = String.ofList (f.filled env.value) ∧
      scan? env.valueBytes (Utf8.ofString text) = some (Utf8.ofString (expand env text)) := by
  let f := Factors.ofPieces (pieces text.toList)
  obtain ⟨proper, whole⟩ : f.IsProper ∧ f.text = text.toList := Factors.ofPieces_spec text.toList
  refine ⟨f, fun g => Factors.isProper_and_text_iff, fun env => ?_⟩
  have expanded : expand env text = String.ofList (f.filled env.value) := by
    unfold expand
    rw [← whole, Factors.pieces_text proper, text_pieces]
  refine ⟨expanded, ?_⟩
  rw [expanded]
  unfold Utf8.ofString
  rw [← whole, String.toList_ofList, scan?_text proper (valueBytes_encode env)]

end Config

end LspClient
