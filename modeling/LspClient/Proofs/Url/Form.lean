import LspClient.Proofs.Text.Utf8
import LspClient.Url.Address
import LspClient.Url.Form

/-!
# Pairs are read back from a query

`formPairs` reads the pairs of a query: the parts between `&`, but for empty ones, each with its
name before the first `=` and its value after that, where `+` stands for a space and `%` with
two digits for a byte.

What was encoded for a pair has no character that divides pairs, or a name from its value, and
is decoded to what it was (`formDecode_formEncode`). So a query with one more pair at its end
has the pairs that it had, and then that one: `formPairs_appendPair`.
-/

namespace LspClient.Url

/-! ## Reading -/

/-- Text with a space for every `+`. -/
def spaced (text : List Char) : List Char := text.map fun c => if c = '+' then ' ' else c

/-- The text that a name or a value in a query stands for. -/
def formDecode (text : List Char) : String :=
  Utf8.display (percentDecode (Utf8.encode (spaced text)))

/-- The name and the value that a part of a query writes. -/
def formPair (part : List Char) : String × String :=
  (formDecode (part.takeWhile (· != '=')), formDecode ((part.dropWhile (· != '=')).drop 1))

/-- The pairs of a query. -/
def formPairs (query : List Char) : List (String × String) :=
  ((splitAt (· = '&') query).filter (!·.isEmpty)).map formPair

/-! ## Percent signs -/

theorem percentDecode_cons_of_ne {b : UInt8} (h : b ≠ 0x25) (rest : Bytes) :
    percentDecode (b :: rest) = b :: percentDecode rest := by
  match rest with
  | [] => rfl
  | [_] => rfl
  | high :: low :: rest =>
    rw [percentDecode]
    split
    · rw [if_neg h]
    · rfl

/-- A hexadecimal digit is an ASCII character and is read as its value. -/
theorem hexValue?_upperDigit {n : Nat} (h : n < 16) :
    (upperDigit n).toNat < 0x80 ∧
      Text.hexValue? (UInt8.ofNat (upperDigit n).toNat) = some n := by
  have all : ∀ n : Fin 16, (upperDigit n).toNat < 0x80 ∧
      Text.hexValue? (UInt8.ofNat (upperDigit n).toNat) = some n.val := by decide
  exact all ⟨n, h⟩

/-- A byte is one of the characters that stand for it. -/
theorem mem_percentByte {b : UInt8} {c : Char} (h : c ∈ percentByte b) :
    c = '%' ∨ ∃ n < 16, c = upperDigit n := by
  have bound := b.toNat_lt
  unfold percentByte at h
  simp only [List.mem_cons, List.not_mem_nil, or_false] at h
  rcases h with rfl | rfl | rfl
  · exact .inl rfl
  · exact .inr ⟨_, by omega, rfl⟩
  · exact .inr ⟨_, by omega, rfl⟩

/-- What holds of the percent sign and of every digit holds of all that stands for bytes. -/
theorem forall_mem_percentBytes {p : Char → Prop} (sign : p '%')
    (digit : ∀ n : Fin 16, p (upperDigit n)) {bytes : Bytes} :
    ∀ c ∈ bytes.flatMap percentByte, p c := by
  intro c hc
  obtain ⟨b, -, member⟩ := List.mem_flatMap.mp hc
  rcases mem_percentByte member with rfl | ⟨n, bound, rfl⟩
  · exact sign
  · exact digit ⟨n, bound⟩

/-- A byte is decoded from the characters that stand for it. -/
theorem percentDecode_percentByte (b : UInt8) (rest : Bytes) :
    percentDecode (Utf8.encode (percentByte b) ++ rest) = b :: percentDecode rest := by
  have bound := b.toNat_lt
  obtain ⟨highAscii, high⟩ := hexValue?_upperDigit (n := b.toNat / 16) (by omega)
  obtain ⟨lowAscii, low⟩ := hexValue?_upperDigit (n := b.toNat % 16) (by omega)
  have bytes : Utf8.encode (percentByte b) =
      [0x25, UInt8.ofNat (upperDigit (b.toNat / 16)).toNat,
        UInt8.ofNat (upperDigit (b.toNat % 16)).toNat] := by
    refine Utf8.encode_of_ascii fun c hc => ?_
    simp only [percentByte, List.mem_cons, List.not_mem_nil, or_false] at hc
    rcases hc with rfl | rfl | rfl
    · decide
    · exact highAscii
    · exact lowAscii
  have whole : b.toNat / 16 * 16 + b.toNat % 16 = b.toNat := by omega
  rw [bytes]
  show percentDecode (0x25 :: _ :: _ :: rest) = _
  rw [percentDecode]
  simp only [high, low, if_true, whole, UInt8.ofNat_toNat]

theorem percentDecode_percentBytes (bytes rest : Bytes) :
    percentDecode (Utf8.encode (bytes.flatMap percentByte) ++ rest) =
      bytes ++ percentDecode rest := by
  induction bytes with
  | nil => rfl
  | cons b bytes ih =>
    rw [List.flatMap_cons, Utf8.encode_append, List.append_assoc, percentDecode_percentByte, ih]
    rfl

/-! ## One name or value -/

/-- A character that stands for itself is in ASCII. -/
theorem ascii_of_isFormPlain {c : Char} (h : isFormPlain c = true) : c.toNat < 0x80 := by
  have ranges : (((decide (65 ≤ c.val ∧ c.val ≤ 90) || 97 ≤ c.val && c.val ≤ 122) ||
      48 ≤ c.val && c.val ≤ 57) || ['*', '-', '.', '_'].contains c) = true := h
  have value : c.toNat = c.val.toNat := rfl
  simp only [Bool.or_eq_true, Bool.and_eq_true, decide_eq_true_eq, List.contains_iff_mem,
    List.mem_cons, List.not_mem_nil, or_false, UInt32.le_iff_toNat_le] at ranges
  rcases ranges with ((⟨-, upper⟩ | ⟨-, lower⟩) | ⟨-, digit⟩) | rfl | rfl | rfl | rfl
  · exact value ▸ Nat.lt_of_le_of_lt upper (by decide)
  · exact value ▸ Nat.lt_of_le_of_lt lower (by decide)
  · exact value ▸ Nat.lt_of_le_of_lt digit (by decide)
  all_goals decide

/-- What holds of those in ASCII holds of all characters that stand for themselves. -/
theorem forall_isFormPlain {p : Char → Prop}
    (h : ∀ n : Fin 0x80, isFormPlain (Char.ofNat n) = true → p (Char.ofNat n)) :
    ∀ c, isFormPlain c = true → p c := by
  intro c itself
  have inAscii := h ⟨c.toNat, ascii_of_isFormPlain itself⟩
  rw [Char.ofNat_toNat] at inAscii
  exact inAscii itself

/-- A character that stands for itself means nothing else. -/
theorem plain_of_isFormPlain : ∀ c, isFormPlain c = true →
    c ≠ '+' ∧ c ≠ '%' ∧ c ≠ '&' ∧ c ≠ '=' :=
  forall_isFormPlain (by decide)

theorem formEncode_cons (c : Char) (text : List Char) :
    formEncode (c :: text) = formEncode [c] ++ formEncode text := by
  unfold formEncode
  rw [List.flatMap_cons, List.flatMap_singleton]

/-- What holds of the plus sign, the percent sign, every digit and every character that
stands for itself holds of all that is encoded. -/
theorem forall_mem_formEncode {p : Char → Prop} (plus : p '+') (sign : p '%')
    (digit : ∀ n : Fin 16, p (upperDigit n)) (plain : ∀ c, isFormPlain c = true → p c)
    {text : List Char} : ∀ c ∈ formEncode text, p c := by
  intro c hc
  obtain ⟨original, -, member⟩ := List.mem_flatMap.mp hc
  split at member
  · exact List.mem_singleton.mp member ▸ plus
  · split at member
    · next itself => exact List.mem_singleton.mp member ▸ plain original itself
    · exact forall_mem_percentBytes sign digit c member

/-- What is encoded has no character that divides pairs, or a name from its value. -/
theorem undivided_formEncode (text : List Char) :
    ∀ c ∈ formEncode text, c ≠ '&' ∧ c ≠ '=' :=
  forall_mem_formEncode (by decide) (by decide) (by decide) fun _ itself =>
    (plain_of_isFormPlain _ itself).2.2

theorem spaced_append (text more : List Char) :
    spaced (text ++ more) = spaced text ++ spaced more :=
  List.map_append

theorem spaced_of_forall_ne {text : List Char} (h : ∀ c ∈ text, c ≠ '+') : spaced text = text :=
  (List.map_congr_left fun c hc => if_neg (h c hc)).trans (List.map_id text)

/-- A character is decoded from what was encoded for it. -/
theorem percentDecode_formEncode_singleton (c : Char) (rest : Bytes) :
    percentDecode (Utf8.encode (spaced (formEncode [c])) ++ rest) =
      Utf8.encodeChar c ++ percentDecode rest := by
  unfold formEncode
  rw [List.flatMap_singleton]
  split
  · next space =>
    subst space
    exact percentDecode_cons_of_ne (by decide) rest
  · split
    · next itself =>
      have ascii := ascii_of_isFormPlain itself
      obtain ⟨notPlus, notSign, -⟩ := plain_of_isFormPlain c itself
      rw [spaced_of_forall_ne (by simpa using notPlus), Utf8.encode_cons,
        Utf8.encodeChar_of_ascii ascii]
      refine percentDecode_cons_of_ne (fun same => notSign ?_) rest
      -- its byte is that of the percent sign only if it is one
      have number : c.toNat = 0x25 := by
        have := congrArg UInt8.toNat same
        rwa [Utf8.toNat_ofNat_of_lt (by omega)] at this
      rw [← Char.ofNat_toNat c, number]
    -- a plus sign is itself encoded, so that no space comes of it
    · rw [spaced_of_forall_ne (forall_mem_percentBytes (by decide) (by decide)),
        percentDecode_percentBytes]

theorem percentDecode_formEncode (text : List Char) :
    percentDecode (Utf8.encode (spaced (formEncode text))) = Utf8.encode text := by
  induction text with
  | nil => rfl
  | cons c text ih =>
    rw [formEncode_cons, spaced_append, Utf8.encode_append, percentDecode_formEncode_singleton,
      ih, Utf8.encode_cons]

/-- Text is decoded from what was encoded for it. -/
theorem formDecode_formEncode (text : List Char) :
    formDecode (formEncode text) = String.ofList text := by
  unfold formDecode
  rw [percentDecode_formEncode]
  unfold Utf8.display
  rw [Utf8.decodeLossyFrom, Utf8.decode_encode]

/-- Different texts are encoded differently. -/
theorem formEncode_inj {text other : List Char} (h : formEncode text = formEncode other) :
    text = other := by
  have same := congrArg formDecode h
  rw [formDecode_formEncode, formDecode_formEncode] at same
  exact String.ofList_injective same

/-! ## Pairs -/

theorem splitAt_ne_nil (p : Char → Bool) (text : List Char) : splitAt p text ≠ [] := by
  cases text with
  | nil => exact List.cons_ne_nil _ _
  | cons c rest =>
    rw [splitAt]
    split
    · exact List.cons_ne_nil _ _
    · split <;> exact List.cons_ne_nil _ _

/-- The parts on both sides of a place where the text is divided. -/
theorem splitAt_append_cons {p : Char → Bool} {c : Char} (h : p c = true)
    (text rest : List Char) :
    splitAt p (text ++ c :: rest) = splitAt p text ++ splitAt p rest := by
  induction text with
  | nil => exact if_pos h
  | cons first text ih =>
    rw [List.cons_append, splitAt, splitAt, ih]
    split
    · rfl
    · cases parts : splitAt p text with
      | nil => exact absurd parts (splitAt_ne_nil p text)
      | cons part others => rfl

/-- Text that is divided nowhere is one part. -/
theorem splitAt_of_forall {p : Char → Bool} {text : List Char} (h : ∀ c ∈ text, p c = false) :
    splitAt p text = [text] := by
  induction text with
  | nil => rfl
  | cons c rest ih =>
    rw [List.forall_mem_cons] at h
    rw [splitAt, if_neg (by rw [h.1]; exact Bool.false_ne_true), ih h.2]

/-- A pair as it is written. -/
def pairText (name value : List Char) : List Char := formEncode name ++ '=' :: formEncode value

theorem formPair_pairText (name value : List Char) :
    formPair (pairText name value) = (String.ofList name, String.ofList value) := by
  have undivided : ∀ c ∈ formEncode name, (c != '=') = true := fun c hc =>
    bne_iff_ne.mpr (undivided_formEncode name c hc).2
  unfold formPair pairText
  rw [List.takeWhile_append_of_pos undivided, List.dropWhile_append_of_pos undivided]
  show (formDecode (formEncode name ++ []), formDecode (formEncode value)) = _
  rw [List.append_nil, formDecode_formEncode, formDecode_formEncode]

theorem formPairs_pairText (name value : List Char) :
    formPairs (pairText name value) = [(String.ofList name, String.ofList value)] := by
  have whole : splitAt (· = '&') (pairText name value) = [pairText name value] := by
    refine splitAt_of_forall fun c hc => decide_eq_false ?_
    unfold pairText at hc
    rcases List.mem_append.mp hc with inName | inRest
    · exact (undivided_formEncode name c inName).1
    · rcases List.mem_cons.mp inRest with rfl | inValue
      · decide
      · exact (undivided_formEncode value c inValue).1
  have written : (pairText name value).isEmpty = false := by
    unfold pairText
    cases formEncode name <;> rfl
  unfold formPairs
  rw [whole]
  simp only [List.filter_cons, written, Bool.not_false, if_true, List.filter_nil,
    List.map_singleton, formPair_pairText]

/-- A query with a pair at its end has the pairs that it had, and then that one. -/
theorem formPairs_appendPair (query name value : List Char) :
    formPairs (appendPair query name value) =
      formPairs query ++ [(String.ofList name, String.ofList value)] := by
  cases query with
  | nil => exact formPairs_pairText name value
  | cons c query =>
    have shape : appendPair (c :: query) name value =
        (c :: query) ++ '&' :: pairText name value := by
      unfold appendPair pairText
      simp
    rw [shape, ← formPairs_pairText]
    unfold formPairs
    rw [splitAt_append_cons (by decide), List.filter_append, List.map_append]

end LspClient.Url
