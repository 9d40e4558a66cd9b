import LspClient.Proofs.Text.Utf8

/-!
# Places between characters

A text can be cut at a place of its bytes if no character goes across it: `slice?` gives what
stands between two such places. `slice?_encode` says that a part of a text is what stands
between its two ends.

The bytes of ASCII occur in no other character (`mem_encode_iff`), so that such a character is
found by its byte.
-/

namespace LspClient.Utf8

variable {c : Char} {text more : List Char} {bytes : Bytes}

/-- Whether a character begins at this place of a text, or the text ends there. -/
def isBoundary (bytes : Bytes) (place : Nat) : Bool :=
  match bytes[place]? with
  | some b => !isContinuation b
  | none => place == bytes.length

/-- What stands between two places of a text, provided that neither is inside a character. -/
def slice? (bytes : Bytes) (first last : Nat) : Option Bytes :=
  if first ≤ last ∧ isBoundary bytes first ∧ isBoundary bytes last then
    some ((bytes.take last).drop first)
  else none

/-- The first byte of a character continues none. -/
theorem exists_lead (c : Char) :
    ∃ lead rest, encodeChar c = lead :: rest ∧ isContinuation lead = false := by
  have range := toNat_range c
  have leads {n : Nat} (small : n < 256) (other : n < 0x80 ∨ 0xC0 ≤ n) :
      isContinuation (UInt8.ofNat n) = false := by
    rw [← Bool.not_eq_true, isContinuation_ofNat small]
    omega
  unfold encodeChar
  dsimp only
  split
  · exact ⟨_, _, rfl, leads (by omega) (by omega)⟩
  split
  · exact ⟨_, _, rfl, leads (by omega) (by omega)⟩
  split
  · exact ⟨_, _, rfl, leads (by omega) (by omega)⟩
  · exact ⟨_, _, rfl, leads (by omega) (by omega)⟩

/-- Between two parts of a text no character is cut. -/
theorem isBoundary_encode (text more : List Char) :
    isBoundary (encode text ++ encode more) (encode text).length = true := by
  unfold isBoundary
  rw [List.getElem?_append_right (Nat.le_refl _), Nat.sub_self]
  cases more with
  | nil =>
    show ((encode text).length == (encode text ++ []).length) = true
    rw [List.append_nil]
    exact beq_self_eq_true _
  | cons c more =>
    obtain ⟨lead, rest, bytes, leads⟩ := exists_lead c
    rw [encode_cons, bytes]
    show (!isContinuation lead) = true
    rw [leads]
    rfl

/-- A part of a text is what stands between its ends. -/
theorem slice?_encode (before part after : List Char) :
    slice? (encode (before ++ part ++ after)) (encode before).length
      (encode (before ++ part)).length = some (encode part) := by
  have first : isBoundary (encode (before ++ part ++ after)) (encode before).length = true := by
    rw [List.append_assoc, encode_append]
    exact isBoundary_encode before (part ++ after)
  have last : isBoundary (encode (before ++ part ++ after))
      (encode (before ++ part)).length = true := by
    rw [encode_append]
    exact isBoundary_encode (before ++ part) after
  have inOrder : (encode before).length ≤ (encode (before ++ part)).length := by
    rw [encode_append, List.length_append]
    exact Nat.le_add_right ..
  unfold slice?
  rw [if_pos ⟨inOrder, first, last⟩, encode_append (before ++ part), List.take_left,
    encode_append before, List.drop_left]

/-! ## Bytes that only one character has -/

/-- A byte that ASCII has as well is the character itself. -/
theorem mem_encode_iff (ascii : c.toNat < 0x80) :
    UInt8.ofNat c.toNat ∈ encode text ↔ c ∈ text := by
  unfold encode
  rw [List.mem_flatMap]
  constructor
  · rintro ⟨d, member, byte⟩
    by_cases plain : d.toNat < 0x80
    · rw [encodeChar_of_ascii plain, List.mem_singleton,
        ofNat_inj_of_lt (by omega) (by omega)] at byte
      rw [Char.toNat_inj.mp byte]
      exact member
    · have large := le_of_mem_encodeChar plain byte
      rw [toNat_ofNat_of_lt (by omega)] at large
      omega
  · intro member
    refine ⟨c, member, ?_⟩
    rw [encodeChar_of_ascii ascii]
    exact List.mem_singleton_self _

/-- Such a byte stands at the beginning only if the character does. -/
theorem eq_cons_of_encode (ascii : c.toNat < 0x80)
    (h : encode text = UInt8.ofNat c.toNat :: bytes) :
    ∃ rest, text = c :: rest ∧ encode rest = bytes := by
  cases text with
  | nil => cases h
  | cons d rest =>
    have byte : UInt8.ofNat c.toNat ∈ encode [d] := by
      obtain ⟨lead, others, split, -⟩ := exists_lead d
      rw [encode_cons, split] at h
      rw [encode_cons, split, ← (List.cons.inj h).1]
      exact List.mem_cons_self
    cases List.mem_singleton.mp ((mem_encode_iff ascii).mp byte)
    rw [encode_cons, encodeChar_of_ascii ascii] at h
    exact ⟨rest, rfl, (List.cons.inj h).2⟩

end LspClient.Utf8
