import LspClient.Arithmetic

/-!
# Natural numbers in text

Reads the decimal text of an unsigned 64-bit number. A plus sign may stand before the
digits. Of several faults the first one in reading order counts.
-/

namespace LspClient.Decimal

/-- Why a text is no unsigned 64-bit number. -/
inductive NaturalFault where
  | empty
  | invalidDigit
  | tooLarge
  deriving DecidableEq, Repr

/-- The wording of the fault. -/
def NaturalFault.message : NaturalFault → String
  | .empty => "cannot parse integer from empty string"
  | .invalidDigit => "invalid digit found in string"
  | .tooLarge => "number too large to fit in target type"

/-- Reads on from the value `n` of the digits before. -/
def naturalDigits (n : Nat) : List Char → Except NaturalFault Nat
  | [] => .ok n
  | c :: rest =>
    if c.isDigit then
      let m := n * 10 + (c.toNat - '0'.toNat)
      if m < 2 ^ 64 then naturalDigits m rest else .error .tooLarge
    else .error .invalidDigit

/-- Reads an unsigned 64-bit number. -/
def natural : List Char → Except NaturalFault Nat
  | [] => .error .empty
  | ['+'] => .error .invalidDigit
  | '+' :: digits => naturalDigits 0 digits
  | digits => naturalDigits 0 digits

end LspClient.Decimal
