import LspClient.Decimal.Natural

/-!
# The decimal text of a number is read back

`natural_toDigits`: the digits of a number are read as that number if it fits 64 bits, and
refused as too large if not. `natural_eq_ok_iff` says which texts are read at all: those
that write a number, `Writes`, with or without a plus sign and with any zeros in front.
-/

namespace LspClient.Decimal

/-- A digit is one of ten characters. -/
theorem isDigit_range {c : Char} (h : c.isDigit = true) : 48 ≤ c.toNat ∧ c.toNat ≤ 57 := by
  simp only [Char.isDigit, Bool.and_eq_true, decide_eq_true_eq] at h
  exact h

theorem isDigit_of_mem_toDigits {c : Char} {n : Nat} (h : c ∈ Nat.toDigits 10 n) :
    c.isDigit = true :=
  Nat.isDigit_of_mem_toDigits (by decide) (by decide) h

/-- Further digits make a number no smaller. -/
theorem le_ofDigitChars (digits : List Char) (n : Nat) : n ≤ Nat.ofDigitChars 10 digits n := by
  induction digits generalizing n with
  | nil => exact Nat.le_refl n
  | cons c digits ih =>
    rw [Nat.ofDigitChars_cons]
    have rest := ih (10 * n + (c.toNat - '0'.toNat))
    omega

/-- Digits are read as their value, unless that is too large. -/
theorem naturalDigits_eq {digits : List Char} (h : ∀ c ∈ digits, c.isDigit = true) {n : Nat}
    (hn : n < 2 ^ 64) : naturalDigits n digits =
      if Nat.ofDigitChars 10 digits n < 2 ^ 64 then .ok (Nat.ofDigitChars 10 digits n)
      else .error .tooLarge := by
  induction digits generalizing n with
  | nil =>
    rw [Nat.ofDigitChars_nil, if_pos hn]
    rfl
  | cons c digits ih =>
    rw [Nat.ofDigitChars_cons, naturalDigits, if_pos (h c List.mem_cons_self), Nat.mul_comm n 10]
    dsimp only
    by_cases fits : 10 * n + (c.toNat - '0'.toNat) < 2 ^ 64
    · rw [if_pos fits]
      exact ih (fun d hd => h d (List.mem_cons_of_mem _ hd)) fits
    · rw [if_neg fits, if_neg]
      have more := le_ofDigitChars digits (10 * n + (c.toNat - '0'.toNat))
      omega

/-- The digits of a number are read as that number. -/
theorem natural_toDigits (n : Nat) :
    natural (Nat.toDigits 10 n) = if n < 2 ^ 64 then .ok n else .error .tooLarge := by
  have digits : ∀ c ∈ Nat.toDigits 10 n, c.isDigit = true := fun _ => isDigit_of_mem_toDigits
  have value : naturalDigits 0 (Nat.toDigits 10 n) = _ := naturalDigits_eq digits (by omega)
  rw [Nat.ofDigitChars_ten_toDigits] at value
  rw [← value]
  cases all : Nat.toDigits 10 n with
  | nil => exact absurd all Nat.toDigits_ne_nil
  | cons c rest =>
    -- a digit is no sign
    have lead : c ≠ '+' := by
      intro plus
      have range := isDigit_range (digits c (by rw [all]; exact List.mem_cons_self))
      exact absurd (plus ▸ range) (by decide)
    unfold natural
    split
    · next h => cases h
    · next h => exact absurd (List.cons.inj h).1 lead
    · next h => exact absurd (List.cons.inj h).1 lead
    · rfl

/-! ## Which texts are numbers -/

/-- A text that writes `n` in decimal: digits, with a plus sign before them or without, whose
value fits 64 bits. -/
def Writes (text : List Char) (n : Nat) : Prop :=
  ∃ digits, (text = digits ∨ text = '+' :: digits) ∧ digits ≠ [] ∧
    (∀ c ∈ digits, c.isDigit = true) ∧ Nat.ofDigitChars 10 digits 0 = n ∧ n < 2 ^ 64

theorem naturalDigits_eq_ok_iff {digits : List Char} {m n : Nat} (hm : m < 2 ^ 64) :
    naturalDigits m digits = .ok n ↔
      (∀ c ∈ digits, c.isDigit = true) ∧ Nat.ofDigitChars 10 digits m = n ∧ n < 2 ^ 64 := by
  constructor
  · intro h
    have digit : ∀ c ∈ digits, c.isDigit = true := by
      fun_induction naturalDigits m digits with
      | case1 => simp
      | case2 m c rest lead k fits ih =>
        exact List.forall_mem_cons.mpr ⟨lead, ih fits h⟩
      | case3 | case4 => cases h
    rw [naturalDigits_eq digit hm] at h
    split at h
    · next fits =>
      cases h
      exact ⟨digit, rfl, fits⟩
    · cases h
  · rintro ⟨digit, rfl, fits⟩
    rw [naturalDigits_eq digit hm, if_pos fits]

theorem natural_eq_ok_iff {text : List Char} {n : Nat} :
    natural text = .ok n ↔ Writes text n := by
  have zero : 0 < 2 ^ 64 := by decide
  -- a plus sign is no digit, so the two ways of writing exclude each other
  have sign : ('+' : Char).isDigit = false := rfl
  unfold natural Writes
  split
  · simp
  · simp [sign]
  · next digits some =>
    rw [naturalDigits_eq_ok_iff zero]
    constructor
    · rintro ⟨digit, value, fits⟩
      exact ⟨digits, .inr rfl, some, digit, value, fits⟩
    · rintro ⟨read, rfl | same, -, digit, value, fits⟩
      · exact absurd (digit '+' List.mem_cons_self) (by rw [sign]; decide)
      · cases same
        exact ⟨digit, value, fits⟩
  · next some _ unsigned =>
    rw [naturalDigits_eq_ok_iff zero]
    constructor
    · rintro ⟨digit, value, fits⟩
      exact ⟨text, .inl rfl, some, digit, value, fits⟩
    · rintro ⟨read, rfl | same, -, digit, value, fits⟩
      · exact ⟨digit, value, fits⟩
      · exact absurd same (unsigned read)

end LspClient.Decimal
