import LspClient.Json.Parser
import LspClient.Json.Printer
import LspClient.Proofs.Text.Utf8

/-!
# Strings in JSON text are read back

`stringBytes_escapeChar` takes the reader over one written character: one of the short
escapes, a control character in hexadecimal, or the bytes of the character itself. A whole
string is then an induction over its characters, `stringBody_escaped`.
-/

namespace LspClient.Json

/-- A byte that stands for itself inside a string. -/
def IsPlainByte (b : UInt8) : Prop := b ≠ '"'.toUInt8 ∧ b ≠ '\\'.toUInt8 ∧ ¬ b < 0x20

theorem stringBytes_cons {b : UInt8} (h : IsPlainByte b) (done rest : Bytes) :
    stringBytes done (b :: rest) = stringBytes (b :: done) rest := by
  obtain ⟨quote, slash, control⟩ := h
  rw [stringBytes.eq_def]
  simp only [quote, slash, control, if_false]

theorem stringBytes_append {plain : Bytes} (h : ∀ b ∈ plain, IsPlainByte b) (done rest : Bytes) :
    stringBytes done (plain ++ rest) = stringBytes (plain.reverse ++ done) rest := by
  induction plain generalizing done with
  | nil => rfl
  | cons b plain ih =>
    rw [List.cons_append, stringBytes_cons (h b List.mem_cons_self),
      ih fun c hc => h c (List.mem_cons_of_mem _ hc)]
    simp

/-- A short escape stands for its character. -/
theorem stringBytes_short {e c : UInt8} (h : shortEscape? e = some c) (done rest : Bytes) :
    stringBytes done ('\\'.toUInt8 :: e :: rest) = stringBytes (c :: done) rest := by
  have quote : '\\'.toUInt8 ≠ '"'.toUInt8 := by decide
  rw [stringBytes.eq_def]
  simp only [quote, if_false, if_true, h]

/-- An escape with four digits stands for the character they write, if that is no
surrogate. -/
theorem stringBytes_hex {h1 h2 h3 h4 : UInt8} {n : Nat} (h : hexQuad? h1 h2 h3 h4 = some n)
    (low : isLowSurrogate n = false) (high : isHighSurrogate n = false) (done rest : Bytes) :
    stringBytes done ('\\'.toUInt8 :: 'u'.toUInt8 :: h1 :: h2 :: h3 :: h4 :: rest) =
      stringBytes (pushCodePoint n done) rest := by
  have quote : '\\'.toUInt8 ≠ '"'.toUInt8 := by decide
  have long : shortEscape? 'u'.toUInt8 = none := by decide
  rw [stringBytes.eq_def]
  simp only [quote, if_false, if_true, long, h, low, high, Bool.false_eq_true]

/-- The two digits of a control character write its number. -/
theorem hexQuad?_hexPair : ∀ n < 0x20,
    Utf8.encode (hexPair n) =
        [(Nat.digitChar (n / 16)).toUInt8, (Nat.digitChar (n % 16)).toUInt8] ∧
      hexQuad? '0'.toUInt8 '0'.toUInt8 (Nat.digitChar (n / 16)).toUInt8
        (Nat.digitChar (n % 16)).toUInt8 = some n := by
  decide

/-- The bytes of a character that is not escaped stand for themselves. -/
theorem isPlainByte_of_mem_encodeChar {c : Char} (quote : c ≠ '"') (slash : c ≠ '\\')
    (control : ¬ c.toNat < 0x20) {b : UInt8} (hb : b ∈ Utf8.encodeChar c) : IsPlainByte b := by
  by_cases ascii : c.toNat < 0x80
  · rw [Utf8.encodeChar_of_ascii ascii, List.mem_singleton] at hb
    have other {d : Char} (hd : d.toNat < 0x80) (h : c ≠ d) : b ≠ UInt8.ofNat d.toNat := by
      rw [hb, ne_eq, Utf8.ofNat_inj_of_lt (by omega) (by omega)]
      intro same
      exact h (Char.toNat_inj.mp same)
    have least : UInt8.ofNat c.toNat < 0x20 ↔ c.toNat < 0x20 :=
      Utf8.ofNat_lt_iff (by omega) (by decide)
    refine ⟨other (d := '"') (by decide) quote, other (d := '\\') (by decide) slash, ?_⟩
    rw [hb, least]
    exact control
  · have large : 0x80 ≤ b.toNat := Utf8.le_of_mem_encodeChar ascii hb
    refine ⟨?_, ?_, ?_⟩
    · intro same
      rw [same] at large
      exact absurd large (by decide)
    · intro same
      rw [same] at large
      exact absurd large (by decide)
    · rw [UInt8.lt_iff_toNat_lt]
      show ¬ b.toNat < 0x20
      omega

/-- A written character is read back, whatever follows it. -/
theorem stringBytes_escapeChar (c : Char) (done rest : Bytes) :
    stringBytes done (Utf8.encode (escapeChar c) ++ rest) =
      stringBytes ((Utf8.encodeChar c).reverse ++ done) rest := by
  unfold escapeChar
  by_cases quote : c = '"'
  · rw [if_pos quote, quote]
    exact stringBytes_short (c := '"'.toUInt8) (by decide) done rest
  rw [if_neg quote]
  by_cases slash : c = '\\'
  · rw [if_pos slash, slash]
    exact stringBytes_short (c := '\\'.toUInt8) (by decide) done rest
  rw [if_neg slash]
  by_cases backspace : c = '\x08'
  · rw [if_pos backspace, backspace]
    exact stringBytes_short (c := 0x08) (by decide) done rest
  rw [if_neg backspace]
  by_cases formFeed : c = '\x0c'
  · rw [if_pos formFeed, formFeed]
    exact stringBytes_short (c := 0x0C) (by decide) done rest
  rw [if_neg formFeed]
  by_cases lineFeed : c = '\n'
  · rw [if_pos lineFeed, lineFeed]
    exact stringBytes_short (c := 0x0A) (by decide) done rest
  rw [if_neg lineFeed]
  by_cases return_ : c = '\r'
  · rw [if_pos return_, return_]
    exact stringBytes_short (c := 0x0D) (by decide) done rest
  rw [if_neg return_]
  by_cases tab : c = '\t'
  · rw [if_pos tab, tab]
    exact stringBytes_short (c := 0x09) (by decide) done rest
  rw [if_neg tab]
  by_cases control : c.toNat < 0x20
  · rw [if_pos control]
    obtain ⟨digits, value⟩ := hexQuad?_hexPair c.toNat control
    have written : Utf8.encode ('\\' :: 'u' :: '0' :: '0' :: hexPair c.toNat) =
        '\\'.toUInt8 :: 'u'.toUInt8 :: '0'.toUInt8 :: '0'.toUInt8 ::
          Utf8.encode (hexPair c.toNat) := rfl
    have low : isLowSurrogate c.toNat = false := by
      simp [isLowSurrogate]
      omega
    have high : isHighSurrogate c.toNat = false := by
      simp [isHighSurrogate]
      omega
    rw [written, digits]
    show stringBytes done (_ :: _ :: _ :: _ :: _ :: _ :: rest) = _
    rw [stringBytes_hex value low high, pushCodePoint, Char.ofNat_toNat]
  · rw [if_neg control]
    have single : Utf8.encode [c] = Utf8.encodeChar c := by
      rw [Utf8.encode_cons]
      exact List.append_nil _
    rw [single]
    exact stringBytes_append (fun _ => isPlainByte_of_mem_encodeChar quote slash control) done rest

theorem stringBytes_escaped (text : List Char) (done rest : Bytes) :
    stringBytes done (Utf8.encode (text.flatMap escapeChar) ++ '"'.toUInt8 :: rest) =
      .ok (done.reverse ++ Utf8.encode text, rest) := by
  induction text generalizing done with
  | nil =>
    show stringBytes done ('"'.toUInt8 :: rest) = .ok (done.reverse ++ [], rest)
    rw [stringBytes.eq_def, List.append_nil]
    simp only [if_true]
  | cons c text ih =>
    rw [List.flatMap_cons, Utf8.encode_append, List.append_assoc, stringBytes_escapeChar, ih,
      Utf8.encode_cons]
    simp

/-- A written string is read back from after its opening quote. -/
theorem stringBody_escaped (s : String) (rest : Bytes) :
    stringBody (Utf8.encode (s.toList.flatMap escapeChar ++ ['"']) ++ rest) = .ok (s, rest) := by
  have bytes : Utf8.encode (s.toList.flatMap escapeChar ++ ['"']) ++ rest =
      Utf8.encode (s.toList.flatMap escapeChar) ++ '"'.toUInt8 :: rest := by
    rw [Utf8.encode_append, List.append_assoc]
    rfl
  unfold stringBody
  rw [bytes, stringBytes_escaped]
  dsimp only [bind, Except.bind]
  rw [List.reverse_nil, List.nil_append, Utf8.decode_encode]
  show Except.ok (String.ofList s.toList, rest) = _
  rw [String.ofList_toList]

end LspClient.Json
