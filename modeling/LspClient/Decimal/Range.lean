import LspClient.Decimal.Shortest

/-!
# The range of doubles

A decimal is rounded to the nearest double. The greatest finite double is
`2 ^ 1024 - 2 ^ 971`; what lies half a step or more above it has no finite double.
-/

namespace LspClient.Decimal

/-- The least number that is not rounded to a finite double. -/
def overflowBound : Nat := 2 ^ 1024 - 2 ^ 970

/-- How many digits the bound has before the point. -/
def overflowDigits : Int := 309

/-- Whether the nearest double is finite. The number of digits before the point decides
unless it is that of the bound. -/
def Scientific.isFinite (s : Scientific) : Bool :=
  let size : Int := (Nat.toDigits 10 s.digits).length + s.exponent
  if s.digits = 0 || size < overflowDigits then true
  else if overflowDigits < size then false
  else if 0 ≤ s.exponent then s.digits * 10 ^ s.exponent.toNat < overflowBound
  else s.digits < overflowBound * 10 ^ (-s.exponent).toNat

end LspClient.Decimal
