import LspClient.Decimal.Shortest

/-!
# Decimal text

A decimal with its digits, written with a point in its place or with an exponent. Which
of the two it is, is decided by the exponent of the leading digit.
-/

namespace LspClient.Decimal

/-- The exponents of the leading digit for which a number is written without an
exponent; an absent bound does not bound. -/
structure Style where
  least : Option Int
  most : Option Int

/-- Every number is written without an exponent. -/
def Style.plain : Style := ⟨none, none⟩

/-- Whether the style writes a leading digit of this exponent positionally. -/
def Style.isPositional (style : Style) (exponent : Int) : Bool :=
  style.least.all (fun bound => decide (bound ≤ exponent)) &&
    style.most.all (fun bound => decide (exponent ≤ bound))

/-- The exponent of the leading digit. -/
def Scientific.leading (s : Scientific) : Int :=
  ((Nat.toDigits 10 s.digits).length : Int) - 1 + s.exponent

/-- The number with its point in place, and `.0` if there is nothing after the point. -/
def Scientific.positional (s : Scientific) : List Char :=
  let digits := Nat.toDigits 10 s.digits
  if 0 ≤ s.exponent then digits ++ List.replicate s.exponent.toNat '0' ++ ['.', '0']
  else
    let places := (-s.exponent).toNat
    if places < digits.length then
      digits.take (digits.length - places) ++ '.' :: digits.drop (digits.length - places)
    else '0' :: '.' :: (List.replicate (places - digits.length) '0' ++ digits)

/-- The number with one digit before the point and an exponent with its sign. -/
def Scientific.withExponent (s : Scientific) : List Char :=
  let mantissa : List Char :=
    match Nat.toDigits 10 s.digits with
    | [] => []
    | [lead] => [lead]
    | lead :: more => lead :: '.' :: more
  let sign := if s.leading < 0 then '-' else '+'
  mantissa ++ 'e' :: sign :: Nat.toDigits 10 s.leading.natAbs

/-- A nonnegative decimal in the given style. -/
def Scientific.text (style : Style) (s : Scientific) : List Char :=
  if style.isPositional s.leading then s.positional else s.withExponent

/-- A finite double in the given style; a negative one, minus zero included, has a sign. -/
def floatText (style : Style) (value : Float) : List Char :=
  let bits := value.toBits
  let magnitude := (Binary.ofBits bits).shortest.text style
  if 2 ^ 63 ≤ bits.toNat then '-' :: magnitude else magnitude

end LspClient.Decimal
