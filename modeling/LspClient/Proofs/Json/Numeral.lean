import LspClient.Json.Numeral
import LspClient.Json.Printer
import LspClient.Proofs.Decimal.Natural
import LspClient.Proofs.Text.Utf8

/-!
# Integers in JSON text are read back

`numeral_toDigits`: the digits of a number below `2 ^ 64` are read as that number, if what
follows them cannot belong to a numeral. The reader refuses digits after a leading zero, so
it matters that a number is written without one: `zero_not_leading`.
-/

namespace LspClient.Json

open Decimal (isDigit_range isDigit_of_mem_toDigits le_ofDigitChars)

/-- A number has a leading zero only if it is zero. -/
theorem zero_not_leading {n : Nat} {more : List Char} (h : Nat.toDigits 10 n = '0' :: more) :
    more = [] := by
  induction n using Nat.strongRecOn generalizing more with
  | ind n ih =>
    by_cases small : n < 10
    · rw [Nat.toDigits_of_lt_base small] at h
      exact (List.cons.inj h).2.symm
    · -- the leading digit is that of `n / 10`, which is not zero
      rw [Nat.toDigits_of_base_le (by omega) (by omega)] at h
      cases front : Nat.toDigits 10 (n / 10) with
      | nil => exact absurd front Nat.toDigits_ne_nil
      | cons c rest =>
        rw [front] at h
        have zero : c = '0' := (List.cons.inj h).1
        rw [zero] at front
        have alone : rest = [] := ih (n / 10) (by omega) front
        have value := Nat.ofDigitChars_ten_toDigits (n := n / 10)
        rw [front, alone] at value
        have none : n / 10 = 0 := value.symm
        omega

/-! ## Digits as bytes -/

/-- The byte of an ASCII character. -/
def byteOf (c : Char) : UInt8 := UInt8.ofNat c.toNat

theorem toNat_byteOf {c : Char} (h : c.isDigit = true) : (byteOf c).toNat = c.toNat := by
  have range := isDigit_range h
  exact Utf8.toNat_ofNat_of_lt (by omega)

theorem encode_digits {digits : List Char} (h : ∀ c ∈ digits, c.isDigit = true) :
    Utf8.encode digits = digits.map byteOf := by
  refine Utf8.encode_of_ascii ?_
  intro c hc
  have range := isDigit_range (h c hc)
  omega

theorem isDigit_byteOf {c : Char} (h : c.isDigit = true) : isDigit (byteOf c) = true := by
  have range := isDigit_range h
  have lower : 0x30 ≤ byteOf c ↔ 0x30 ≤ c.toNat := Utf8.ofNat_le_iff (by decide) (by omega)
  have upper : byteOf c ≤ 0x39 ↔ c.toNat ≤ 0x39 := Utf8.ofNat_le_iff (by omega) (by decide)
  simp only [isDigit, Bool.and_eq_true, decide_eq_true_eq, lower, upper]
  omega

theorem digitValue_byteOf {c : Char} (h : c.isDigit = true) :
    digitValue (byteOf c) = c.toNat - '0'.toNat := by
  unfold digitValue
  rw [toNat_byteOf h]
  rfl

/-- Digits are taken all, if their value fits. -/
theorem takeDigits_map {digits : List Char} (h : ∀ c ∈ digits, c.isDigit = true) {n : Nat}
    (fits : Nat.ofDigitChars 10 digits n < 2 ^ 64) :
    takeDigits n (digits.map byteOf) = (Nat.ofDigitChars 10 digits n, []) := by
  induction digits generalizing n with
  | nil => rfl
  | cons c digits ih =>
    rw [Nat.ofDigitChars_cons] at fits ⊢
    have least := le_ofDigitChars digits (10 * n + (c.toNat - '0'.toNat))
    rw [List.map_cons, takeDigits, digitValue_byteOf (h c List.mem_cons_self), Nat.mul_comm n 10,
      if_pos (by omega)]
    exact ih (fun d hd => h d (List.mem_cons_of_mem _ hd)) fits

/-! ## A numeral and what follows it -/

/-- What cannot belong to the numeral before it. -/
def EndsNumeral (rest : Bytes) : Prop :=
  ∀ b, rest.head? = some b → isDigit b = false ∧ b ≠ '.'.toUInt8 ∧ isExponentMark b = false

theorem endsNumeral_nil : EndsNumeral [] := by
  intro b h
  cases h

section

variable {digits : List Char} {rest : Bytes}

theorem isDigit_of_mem_map (h : ∀ c ∈ digits, c.isDigit = true) :
    ∀ b ∈ digits.map byteOf, isDigit b = true := by
  intro b hb
  obtain ⟨c, hc, same⟩ := List.mem_map.mp hb
  rw [← same]
  exact isDigit_byteOf (h c hc)

theorem takeWhile_digits (h : ∀ c ∈ digits, c.isDigit = true) (ends : EndsNumeral rest) :
    (digits.map byteOf ++ rest).takeWhile isDigit = digits.map byteOf := by
  rw [List.takeWhile_append_of_pos (isDigit_of_mem_map h)]
  cases rest with
  | nil => simp
  | cons b rest => simp [(ends b rfl).1]

theorem dropWhile_digits (h : ∀ c ∈ digits, c.isDigit = true) (ends : EndsNumeral rest) :
    (digits.map byteOf ++ rest).dropWhile isDigit = rest := by
  rw [List.dropWhile_append_of_pos (isDigit_of_mem_map h)]
  cases rest with
  | nil => rfl
  | cons b rest => simp [(ends b rfl).1]

end

/-- The digits of a number below `2 ^ 64` are read as that number. -/
theorem numeral_toDigits (negative : Bool) {n : Nat} {rest : Bytes} (h : n < 2 ^ 64)
    (ends : EndsNumeral rest) :
    numeral negative (Utf8.encode (Nat.toDigits 10 n) ++ rest) =
      .ok (wholeNumber negative n, rest) := by
  have digits : ∀ c ∈ Nat.toDigits 10 n, c.isDigit = true := fun _ => isDigit_of_mem_toDigits
  have value := Nat.ofDigitChars_ten_toDigits (n := n)
  have taken : takeDigits 0 ((Nat.toDigits 10 n).map byteOf) = (n, []) := by
    rw [takeDigits_map digits (by rw [value]; exact h), value]
  have front := takeWhile_digits digits ends
  have back := dropWhile_digits digits ends
  rw [encode_digits digits]
  cases all : Nat.toDigits 10 n with
  | nil => exact absurd all Nat.toDigits_ne_nil
  | cons c more =>
    rw [all] at front back taken digits
    have lead : isDigit (byteOf c) = true := isDigit_byteOf (digits c List.mem_cons_self)
    have noZero : ¬ (byteOf c = '0'.toUInt8 ∧
        ((more.map byteOf ++ rest).head?.any isDigit) = true) := by
      intro ⟨zero, digit⟩
      have same : c = '0' := by
        have := toNat_byteOf (digits c List.mem_cons_self)
        rw [zero] at this
        exact Char.toNat_inj.mp this.symm
      rw [same] at all
      rw [zero_not_leading all] at digit
      cases rest with
      | nil => cases digit
      | cons b rest =>
        have other := (ends b rfl).1
        rw [List.map_nil, List.nil_append, List.head?_cons, Option.any_some, other] at digit
        cases digit
    unfold numeral
    rw [List.map_cons, List.cons_append]
    simp only [List.map_cons, List.cons_append] at front back taken
    simp only [lead, Bool.not_true, Bool.false_eq_true, if_false, noZero, front, back, taken]
    cases rest with
    | nil => rfl
    | cons b rest =>
      obtain ⟨_, point, mark⟩ := ends b rfl
      simp only [point, mark, if_false, Bool.false_eq_true]
      rfl

/-! ## Integers of 64 bits -/

theorem wholeNumber_of_nonneg {n : Int} (lower : -2 ^ 63 ≤ n) (upper : n < 2 ^ 64) (h : ¬ n < 0) :
    wholeNumber false n.natAbs = .int n lower upper := by
  have fits : n.natAbs < 2 ^ 64 := by omega
  have same : (n.natAbs : Int) = n := by omega
  unfold wholeNumber
  rw [dif_neg (by decide), dif_pos fits]
  congr

theorem wholeNumber_of_neg {n : Int} (lower : -2 ^ 63 ≤ n) (upper : n < 2 ^ 64) (h : n < 0) :
    wholeNumber true n.natAbs = .int n lower upper := by
  have fits : 0 < n.natAbs ∧ n.natAbs ≤ 2 ^ 63 := by omega
  have same : -(n.natAbs : Int) = n := by omega
  unfold wholeNumber
  rw [dif_pos rfl, dif_pos fits]
  congr

end LspClient.Json
