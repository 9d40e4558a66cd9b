import LspClient.Text.Utf8

/-!
# Text survives its bytes

`decode_encode`: what was encoded is decoded again, whatever the text. Reading a character
back needs its first byte to tell how many bytes follow (`width_ofNat`), the second one to
be admitted after the first (`admitsSecond_ofNat`), and the payloads to make up the code
point again. Bytes are compared as numbers for that. Nothing else is decoded: each sequence
that the decoder takes is that of the character it stands for (`encodeChar_one` to
`encodeChar_four`), so bytes are decoded as a text only if they are its bytes,
`decode_eq_ok_iff`.

Readers that look at single bytes want to know which bytes a character can have:
`encodeChar_of_ascii` gives the one byte of an ASCII character, and
`le_of_mem_encodeChar` says that all bytes of any other character are 128 and above.
-/

namespace LspClient.Utf8

/-! ## Bytes as numbers -/

theorem toNat_ofNat_of_lt {n : Nat} (h : n < 256) : (UInt8.ofNat n).toNat = n := by
  rw [UInt8.toNat_ofNat']
  omega

theorem ofNat_lt_iff {n m : Nat} (hn : n < 256) (hm : m < 256) :
    UInt8.ofNat n < UInt8.ofNat m ↔ n < m := by
  rw [UInt8.lt_iff_toNat_lt, toNat_ofNat_of_lt hn, toNat_ofNat_of_lt hm]

theorem ofNat_le_iff {n m : Nat} (hn : n < 256) (hm : m < 256) :
    UInt8.ofNat n ≤ UInt8.ofNat m ↔ n ≤ m := by
  rw [UInt8.le_iff_toNat_le, toNat_ofNat_of_lt hn, toNat_ofNat_of_lt hm]

theorem ofNat_inj_of_lt {n m : Nat} (hn : n < 256) (hm : m < 256) :
    UInt8.ofNat n = UInt8.ofNat m ↔ n = m := by
  rw [← UInt8.toNat_inj, toNat_ofNat_of_lt hn, toNat_ofNat_of_lt hm]

theorem width_ofNat {n : Nat} (h : n < 256) : width (UInt8.ofNat n) =
    if n < 0x80 then 1 else if n < 0xC2 then 0 else if n < 0xE0 then 2
    else if n < 0xF0 then 3 else if n < 0xF5 then 4 else 0 := by
  have h1 : UInt8.ofNat n < 0x80 ↔ n < 0x80 := ofNat_lt_iff h (by decide)
  have h2 : UInt8.ofNat n < 0xC2 ↔ n < 0xC2 := ofNat_lt_iff h (by decide)
  have h3 : UInt8.ofNat n < 0xE0 ↔ n < 0xE0 := ofNat_lt_iff h (by decide)
  have h4 : UInt8.ofNat n < 0xF0 ↔ n < 0xF0 := ofNat_lt_iff h (by decide)
  have h5 : UInt8.ofNat n < 0xF5 ↔ n < 0xF5 := ofNat_lt_iff h (by decide)
  unfold width
  simp only [h1, h2, h3, h4, h5]

theorem isContinuation_ofNat {n : Nat} (h : n < 256) :
    isContinuation (UInt8.ofNat n) = true ↔ 0x80 ≤ n ∧ n < 0xC0 := by
  have h1 : 0x80 ≤ UInt8.ofNat n ↔ 0x80 ≤ n := ofNat_le_iff (by decide) h
  have h2 : UInt8.ofNat n < 0xC0 ↔ n < 0xC0 := ofNat_lt_iff h (by decide)
  unfold isContinuation
  simp only [Bool.and_eq_true, decide_eq_true_eq, h1, h2]

theorem admitsSecond_ofNat {lead second : Nat} (hl : lead < 256) (hs : second < 256) :
    admitsSecond (UInt8.ofNat lead) (UInt8.ofNat second) = true ↔
      (0x80 ≤ second ∧ second < 0xC0) ∧ (lead = 0xE0 → 0xA0 ≤ second) ∧
        (lead = 0xED → second < 0xA0) ∧ (lead = 0xF0 → 0x90 ≤ second) ∧
        (lead = 0xF4 → second < 0x90) := by
  have e0 : UInt8.ofNat lead = 0xE0 ↔ lead = 0xE0 := ofNat_inj_of_lt hl (by decide)
  have ed : UInt8.ofNat lead = 0xED ↔ lead = 0xED := ofNat_inj_of_lt hl (by decide)
  have f0 : UInt8.ofNat lead = 0xF0 ↔ lead = 0xF0 := ofNat_inj_of_lt hl (by decide)
  have f4 : UInt8.ofNat lead = 0xF4 ↔ lead = 0xF4 := ofNat_inj_of_lt hl (by decide)
  have a0 : 0xA0 ≤ UInt8.ofNat second ↔ 0xA0 ≤ second := ofNat_le_iff (by decide) hs
  have a0' : UInt8.ofNat second < 0xA0 ↔ second < 0xA0 := ofNat_lt_iff hs (by decide)
  have b0 : 0x90 ≤ UInt8.ofNat second ↔ 0x90 ≤ second := ofNat_le_iff (by decide) hs
  have b0' : UInt8.ofNat second < 0x90 ↔ second < 0x90 := ofNat_lt_iff hs (by decide)
  unfold admitsSecond
  simp only [Bool.and_eq_true, Bool.or_eq_true, isContinuation_ofNat hs, bne_iff_ne, ne_eq,
    decide_eq_true_eq, e0, ed, f0, f4, a0, a0', b0, b0']
  omega

theorem low_ofNat {n : Nat} (h : n < 256) : low (UInt8.ofNat n) = n % 64 := by
  unfold low
  rw [toNat_ofNat_of_lt h]

/-! ## Sequences of one to four bytes -/

section

variable {valid : Nat} {done : List Char} {b0 b1 b2 b3 : UInt8} {rest : Bytes}

theorem decodeFrom_one (wide : width b0 = 1) : decodeFrom valid done (b0 :: rest) =
    decodeFrom (valid + 1) (Char.ofNat b0.toNat :: done) rest := by
  rw [decodeFrom.eq_def]
  simp only [wide]

theorem decodeFrom_two (wide : width b0 = 2) (second : admitsSecond b0 b1 = true) :
    decodeFrom valid done (b0 :: b1 :: rest) =
      decodeFrom (valid + 2) (Char.ofNat (b0.toNat % 32 * 64 + low b1) :: done) rest := by
  rw [decodeFrom.eq_def]
  simp only [wide, second, if_true]

theorem decodeFrom_three (wide : width b0 = 3) (second : admitsSecond b0 b1 = true)
    (third : isContinuation b2 = true) : decodeFrom valid done (b0 :: b1 :: b2 :: rest) =
      decodeFrom (valid + 3)
        (Char.ofNat ((b0.toNat % 16 * 64 + low b1) * 64 + low b2) :: done) rest := by
  rw [decodeFrom.eq_def]
  simp only [wide, second, third, if_true]

theorem decodeFrom_four (wide : width b0 = 4) (second : admitsSecond b0 b1 = true)
    (third : isContinuation b2 = true) (fourth : isContinuation b3 = true) :
    decodeFrom valid done (b0 :: b1 :: b2 :: b3 :: rest) =
      decodeFrom (valid + 4)
        (Char.ofNat (((b0.toNat % 8 * 64 + low b1) * 64 + low b2) * 64 + low b3) :: done)
        rest := by
  rw [decodeFrom.eq_def]
  simp only [wide, second, third, fourth, if_true]

end

/-! ## One character -/

/-- Code points are surrogates nowhere and end at `0x10FFFF`. -/
theorem toNat_range (c : Char) : c.toNat < 0xD800 ∨ 0xDFFF < c.toNat ∧ c.toNat < 0x110000 :=
  c.valid

theorem ofNat_eq_of_toNat {c : Char} {n : Nat} (h : n = c.toNat) : Char.ofNat n = c := by
  rw [h, Char.ofNat_toNat]

/-- A character that was encoded is read back, whatever follows it. -/
theorem decodeFrom_encodeChar_append (valid : Nat) (done : List Char) (c : Char) (rest : Bytes) :
    decodeFrom valid done (encodeChar c ++ rest) =
      decodeFrom (valid + (encodeChar c).length) (c :: done) rest := by
  have range := toNat_range c
  -- a byte after the first one carries six bits, whichever they are
  have goesOn (n : Nat) : isContinuation (UInt8.ofNat (0x80 + n % 64)) = true :=
    (isContinuation_ofNat (by omega)).mpr (by omega)
  unfold encodeChar
  dsimp only
  by_cases one : c.toNat < 0x80
  · rw [if_pos one]
    have wide : width (UInt8.ofNat c.toNat) = 1 := by
      rw [width_ofNat (by omega), if_pos one]
    show decodeFrom valid done (_ :: rest) = decodeFrom (valid + 1) _ rest
    rw [decodeFrom_one wide, toNat_ofNat_of_lt (by omega), Char.ofNat_toNat]
  rw [if_neg one]
  by_cases two : c.toNat < 0x800
  · rw [if_pos two]
    have wide : width (UInt8.ofNat (0xC0 + c.toNat / 64)) = 2 := by
      rw [width_ofNat (by omega), if_neg (by omega), if_neg (by omega), if_pos (by omega)]
    have second : admitsSecond (UInt8.ofNat (0xC0 + c.toNat / 64))
        (UInt8.ofNat (0x80 + c.toNat % 64)) = true :=
      (admitsSecond_ofNat (by omega) (by omega)).mpr (by omega)
    show decodeFrom valid done (_ :: _ :: rest) = decodeFrom (valid + 2) _ rest
    rw [decodeFrom_two wide second, low_ofNat (by omega), toNat_ofNat_of_lt (by omega),
      ofNat_eq_of_toNat (c := c) (by omega)]
  rw [if_neg two]
  by_cases three : c.toNat < 0x10000
  · rw [if_pos three]
    have wide : width (UInt8.ofNat (0xE0 + c.toNat / 4096)) = 3 := by
      rw [width_ofNat (by omega), if_neg (by omega), if_neg (by omega), if_neg (by omega),
        if_pos (by omega)]
    have second : admitsSecond (UInt8.ofNat (0xE0 + c.toNat / 4096))
        (UInt8.ofNat (0x80 + c.toNat / 64 % 64)) = true :=
      (admitsSecond_ofNat (by omega) (by omega)).mpr (by omega)
    show decodeFrom valid done (_ :: _ :: _ :: rest) = decodeFrom (valid + 3) _ rest
    rw [decodeFrom_three wide second (goesOn _), low_ofNat (by omega), low_ofNat (by omega),
      toNat_ofNat_of_lt (by omega), ofNat_eq_of_toNat (c := c) (by omega)]
  · rw [if_neg three]
    have wide : width (UInt8.ofNat (0xF0 + c.toNat / 262144)) = 4 := by
      rw [width_ofNat (by omega), if_neg (by omega), if_neg (by omega), if_neg (by omega),
        if_neg (by omega), if_pos (by omega)]
    have second : admitsSecond (UInt8.ofNat (0xF0 + c.toNat / 262144))
        (UInt8.ofNat (0x80 + c.toNat / 4096 % 64)) = true :=
      (admitsSecond_ofNat (by omega) (by omega)).mpr (by omega)
    show decodeFrom valid done (_ :: _ :: _ :: _ :: rest) = decodeFrom (valid + 4) _ rest
    rw [decodeFrom_four wide second (goesOn _) (goesOn _), low_ofNat (by omega),
      low_ofNat (by omega), low_ofNat (by omega), toNat_ofNat_of_lt (by omega),
      ofNat_eq_of_toNat (c := c) (by omega)]

/-! ## Whole texts -/

theorem encode_cons (c : Char) (text : List Char) :
    encode (c :: text) = encodeChar c ++ encode text :=
  List.flatMap_cons

theorem encode_append (text more : List Char) :
    encode (text ++ more) = encode text ++ encode more :=
  List.flatMap_append

theorem decodeFrom_encode (valid : Nat) (done text : List Char) :
    decodeFrom valid done (encode text) = .ok (done.reverse ++ text) := by
  induction text generalizing valid done with
  | nil =>
    rw [List.append_nil]
    rfl
  | cons c text ih =>
    rw [encode_cons, decodeFrom_encodeChar_append, ih, List.reverse_cons, List.append_assoc]
    rfl

/-- What was encoded is decoded again. -/
theorem decode_encode (text : List Char) : decode (encode text) = .ok text :=
  decodeFrom_encode 0 [] text

/-! ## What is decoded was encoded -/

/-- Every byte is a number below 256. -/
theorem exists_eq_ofNat (b : UInt8) : ∃ n, n < 256 ∧ b = UInt8.ofNat n :=
  ⟨b.toNat, b.toNat_lt, UInt8.ofNat_toNat.symm⟩

theorem toNat_ofNat_of_valid {n : Nat} (h : n < 0xD800 ∨ 0xDFFF < n ∧ n < 0x110000) :
    (Char.ofNat n).toNat = n := by
  have valid : n.isValidChar := h
  unfold Char.ofNat
  rw [dif_pos valid]
  rfl

/-- The first byte of a sequence shows how many bytes it has. -/
theorem range_of_width {n : Nat} (h : n < 256) :
    (width (UInt8.ofNat n) = 1 → n < 0x80) ∧
      (width (UInt8.ofNat n) = 2 → 0xC2 ≤ n ∧ n < 0xE0) ∧
      (width (UInt8.ofNat n) = 3 → 0xE0 ≤ n ∧ n < 0xF0) ∧
      (width (UInt8.ofNat n) = 4 → 0xF0 ≤ n ∧ n < 0xF5) := by
  rw [width_ofNat h]
  split
  · omega
  split
  · omega
  split
  · omega
  split
  · omega
  split <;> omega

section

variable {b0 b1 b2 b3 : UInt8}

/-- A sequence of one byte is that of an ASCII character. -/
theorem encodeChar_one (wide : width b0 = 1) : encodeChar (Char.ofNat b0.toNat) = [b0] := by
  obtain ⟨n0, h0, rfl⟩ := exists_eq_ofNat b0
  have lead := (range_of_width h0).1 wide
  unfold encodeChar
  rw [toNat_ofNat_of_lt h0, toNat_ofNat_of_valid (by omega)]
  dsimp only
  rw [if_pos lead]

/-- A sequence of two bytes is that of the character it stands for. -/
theorem encodeChar_two (wide : width b0 = 2) (second : admitsSecond b0 b1 = true) :
    encodeChar (Char.ofNat (b0.toNat % 32 * 64 + low b1)) = [b0, b1] := by
  obtain ⟨n0, h0, rfl⟩ := exists_eq_ofNat b0
  obtain ⟨n1, h1, rfl⟩ := exists_eq_ofNat b1
  have lead := (range_of_width h0).2.1 wide
  have tail := (admitsSecond_ofNat h0 h1).mp second
  rw [toNat_ofNat_of_lt h0, low_ofNat h1]
  unfold encodeChar
  rw [toNat_ofNat_of_valid (by omega)]
  dsimp only
  rw [if_neg (by omega), if_pos (by omega)]
  have e0 : 0xC0 + (n0 % 32 * 64 + n1 % 64) / 64 = n0 := by omega
  have e1 : 0x80 + (n0 % 32 * 64 + n1 % 64) % 64 = n1 := by omega
  rw [e0, e1]

/-- So is one of three. -/
theorem encodeChar_three (wide : width b0 = 3) (second : admitsSecond b0 b1 = true)
    (third : isContinuation b2 = true) :
    encodeChar (Char.ofNat ((b0.toNat % 16 * 64 + low b1) * 64 + low b2)) = [b0, b1, b2] := by
  obtain ⟨n0, h0, rfl⟩ := exists_eq_ofNat b0
  obtain ⟨n1, h1, rfl⟩ := exists_eq_ofNat b1
  obtain ⟨n2, h2, rfl⟩ := exists_eq_ofNat b2
  have lead := (range_of_width h0).2.2.1 wide
  have tail := (admitsSecond_ofNat h0 h1).mp second
  have tail' := (isContinuation_ofNat h2).mp third
  rw [toNat_ofNat_of_lt h0, low_ofNat h1, low_ofNat h2]
  generalize point : (n0 % 16 * 64 + n1 % 64) * 64 + n2 % 64 = n
  unfold encodeChar
  rw [toNat_ofNat_of_valid (by omega)]
  dsimp only
  rw [if_neg (by omega), if_neg (by omega), if_pos (by omega)]
  have e0 : 0xE0 + n / 4096 = n0 := by omega
  have e1 : 0x80 + n / 64 % 64 = n1 := by omega
  have e2 : 0x80 + n % 64 = n2 := by omega
  rw [e0, e1, e2]

/-- So is one of four. -/
theorem encodeChar_four (wide : width b0 = 4) (second : admitsSecond b0 b1 = true)
    (third : isContinuation b2 = true) (fourth : isContinuation b3 = true) :
    encodeChar (Char.ofNat (((b0.toNat % 8 * 64 + low b1) * 64 + low b2) * 64 + low b3)) =
      [b0, b1, b2, b3] := by
  obtain ⟨n0, h0, rfl⟩ := exists_eq_ofNat b0
  obtain ⟨n1, h1, rfl⟩ := exists_eq_ofNat b1
  obtain ⟨n2, h2, rfl⟩ := exists_eq_ofNat b2
  obtain ⟨n3, h3, rfl⟩ := exists_eq_ofNat b3
  have lead := (range_of_width h0).2.2.2 wide
  have tail := (admitsSecond_ofNat h0 h1).mp second
  have tail' := (isContinuation_ofNat h2).mp third
  have tail'' := (isContinuation_ofNat h3).mp fourth
  rw [toNat_ofNat_of_lt h0, low_ofNat h1, low_ofNat h2, low_ofNat h3]
  generalize point : ((n0 % 8 * 64 + n1 % 64) * 64 + n2 % 64) * 64 + n3 % 64 = n
  unfold encodeChar
  rw [toNat_ofNat_of_valid (by omega)]
  dsimp only
  rw [if_neg (by omega), if_neg (by omega), if_neg (by omega)]
  have e0 : 0xF0 + n / 262144 = n0 := by omega
  have e1 : 0x80 + n / 4096 % 64 = n1 := by omega
  have e2 : 0x80 + n / 64 % 64 = n2 := by omega
  have e3 : 0x80 + n % 64 = n3 := by omega
  rw [e0, e1, e2, e3]

end

/-- The characters that were decoded encode the bytes that were read. -/
theorem encode_of_decodeFrom {valid : Nat} {done : List Char} {bytes : Bytes} {text : List Char}
    (h : decodeFrom valid done bytes = .ok text) :
    encode text = encode done.reverse ++ bytes := by
  -- one character more is done, and its bytes fewer are left
  have grow {c : Char} {done : List Char} {read rest : Bytes} (own : encodeChar c = read)
      (ih : encode text = encode (c :: done).reverse ++ rest) :
      encode text = encode done.reverse ++ (read ++ rest) := by
    rw [ih, List.reverse_cons, encode_append, encode_cons, own]
    simp [encode]
  fun_induction decodeFrom valid done bytes with
  | case1 valid done =>
    cases h
    exact (List.append_nil _).symm
  | case2 valid done b0 rest0 wide ih => exact grow (encodeChar_one wide) (ih h)
  | case4 valid done b0 wide b1 rest1 second ih => exact grow (encodeChar_two wide second) (ih h)
  | case8 valid done b0 wide b1 second b2 rest2 third n ih =>
    exact grow (encodeChar_three wide second third) (ih h)
  | case14 valid done b0 wide b1 second b2 third b3 rest3 fourth n ih =>
    exact grow (encodeChar_four wide second third fourth) (ih h)
  | _ => cases h

/-- Bytes are decoded as a text exactly if they are the bytes of it. -/
theorem decode_eq_ok_iff {bytes : Bytes} {text : List Char} :
    decode bytes = .ok text ↔ bytes = encode text := by
  constructor
  · intro h
    exact (encode_of_decodeFrom h).symm
  · intro h
    rw [h, decode_encode]

/-! ## Which bytes there are -/

theorem encodeChar_of_ascii {c : Char} (h : c.toNat < 0x80) :
    encodeChar c = [UInt8.ofNat c.toNat] :=
  if_pos h

/-- An ASCII text has one byte for each character. -/
theorem encode_of_ascii {text : List Char} (h : ∀ c ∈ text, c.toNat < 0x80) :
    encode text = text.map (fun c => UInt8.ofNat c.toNat) := by
  induction text with
  | nil => rfl
  | cons c text ih =>
    rw [encode_cons, encodeChar_of_ascii (h c List.mem_cons_self),
      ih (fun d hd => h d (List.mem_cons_of_mem _ hd))]
    rfl

theorem length_encode_of_ascii {text : List Char} (h : ∀ c ∈ text, c.toNat < 0x80) :
    (encode text).length = text.length := by
  rw [encode_of_ascii h, List.length_map]

theorem encode_take {text : List Char} (h : ∀ c ∈ text, c.toNat < 0x80) (n : Nat) :
    encode (text.take n) = (encode text).take n := by
  rw [encode_of_ascii h, encode_of_ascii fun c hc => h c (List.mem_of_mem_take hc), List.map_take]

/-- Every byte of a character outside ASCII is one that ASCII does not have. -/
theorem le_of_mem_encodeChar {c : Char} (h : ¬ c.toNat < 0x80) {b : UInt8}
    (hb : b ∈ encodeChar c) : 0x80 ≤ b.toNat := by
  have range := toNat_range c
  unfold encodeChar at hb
  dsimp only at hb
  rw [if_neg h] at hb
  by_cases two : c.toNat < 0x800
  · rw [if_pos two] at hb
    simp only [List.mem_cons, List.not_mem_nil, or_false] at hb
    rcases hb with rfl | rfl <;> rw [toNat_ofNat_of_lt (by omega)] <;> omega
  rw [if_neg two] at hb
  by_cases three : c.toNat < 0x10000
  · rw [if_pos three] at hb
    simp only [List.mem_cons, List.not_mem_nil, or_false] at hb
    rcases hb with rfl | rfl | rfl <;> rw [toNat_ofNat_of_lt (by omega)] <;> omega
  · rw [if_neg three] at hb
    simp only [List.mem_cons, List.not_mem_nil, or_false] at hb
    rcases hb with rfl | rfl | rfl | rfl <;> rw [toNat_ofNat_of_lt (by omega)] <;> omega

/-- A text has no more characters than bytes. -/
theorem length_le_encode (text : List Char) : text.length ≤ (encode text).length := by
  induction text with
  | nil => exact Nat.le_refl 0
  | cons c text ih =>
    have some : 0 < (encodeChar c).length := by
      unfold encodeChar
      dsimp only
      split
      · exact Nat.zero_lt_succ _
      split
      · exact Nat.zero_lt_succ _
      split <;> exact Nat.zero_lt_succ _
    rw [encode_cons, List.length_cons, List.length_append]
    omega

end LspClient.Utf8
