import LspClient.Arithmetic

/-!
# Shortest decimals

The decimal text of a finite double: the fewest digits that read back as the same
double and, of those, the digits nearest to it.

A positive finite double is `mantissa * 2 ^ exponent`. Every real number strictly inside
the interval halfway to its two neighbours rounds to it; the ends do so exactly if the
mantissa is even. For one, two, … seventeen digits the two neighbours of the value on
that decimal grid are tried in exact arithmetic, and the first grid that has a hit wins.
-/

namespace LspClient.Decimal

/-- A positive finite double, `mantissa * 2 ^ exponent`. -/
structure Binary where
  mantissa : Nat
  exponent : Int
  deriving Repr, DecidableEq

/-- The value `digits * 10 ^ exponent`. -/
structure Scientific where
  digits : Nat
  exponent : Int
  deriving Repr, DecidableEq

/-- The magnitude of the double with the pattern `bits`. -/
def Binary.ofBits (bits : UInt64) : Binary :=
  let fraction : Nat := bits.toNat % 2 ^ 52
  let biased : Nat := bits.toNat / 2 ^ 52 % 2 ^ 11
  if biased = 0 then ⟨fraction, -1074⟩ else ⟨2 ^ 52 + fraction, (biased : Int) - 1075⟩

/-- A fraction of two naturals. -/
structure Fraction where
  num : Nat
  den : Nat

/-- `factor * 2 ^ exponent` as a fraction. -/
def Fraction.scaled (factor : Nat) (exponent : Int) : Fraction :=
  if 0 ≤ exponent then ⟨factor * 2 ^ exponent.toNat, 1⟩ else ⟨factor, 2 ^ (-exponent).toNat⟩

/-- The numbers that round to a double: from `low` to `high`, the ends included or not. -/
structure Interval where
  low : Fraction
  high : Fraction
  closed : Bool

/-- The interval of `b`. Below a power of two the neighbour is only half as far away. -/
def Binary.interval (b : Binary) : Interval where
  low :=
    let nearer := b.mantissa = 2 ^ 52 ∧ -1074 < b.exponent
    .scaled (4 * b.mantissa - if nearer then 1 else 2) (b.exponent - 2)
  high := .scaled (4 * b.mantissa + 2) (b.exponent - 2)
  closed := b.mantissa % 2 = 0

/-- The value of `b` as a fraction. -/
def Binary.value (b : Binary) : Fraction := .scaled b.mantissa b.exponent

/-- Whether `digits * 10 ^ exponent` lies below the fraction, and whether it equals it. -/
def Fraction.compareTo (f : Fraction) (digits : Nat) (exponent : Int) : Ordering :=
  if 0 ≤ exponent then compare (digits * 10 ^ exponent.toNat * f.den) f.num
  else compare (digits * f.den) (f.num * 10 ^ (-exponent).toNat)

/-- Whether `digits * 10 ^ exponent` rounds to the double. -/
def Interval.contains (i : Interval) (digits : Nat) (exponent : Int) : Bool :=
  match i.low.compareTo digits exponent, i.high.compareTo digits exponent with
  | .gt, .lt => true
  | .eq, _ => i.closed
  | _, .eq => i.closed
  | _, _ => false

/-- The greatest `e` with `10 ^ e` at most the (positive) fraction. -/
def Fraction.magnitude (f : Fraction) : Int :=
  if f.den ≤ f.num then ((Nat.toDigits 10 (f.num / f.den)).length : Int) - 1
  else
    let places := (Nat.toDigits 10 (f.den / f.num)).length
    if f.num * 10 ^ (places - 1) = f.den then 1 - (places : Int) else -(places : Int)

/-- `f / 10 ^ exponent` as the numerator and denominator of a fraction. -/
def Fraction.over (f : Fraction) (exponent : Int) : Fraction :=
  if 0 ≤ exponent then ⟨f.num, f.den * 10 ^ exponent.toNat⟩
  else ⟨f.num * 10 ^ (-exponent).toNat, f.den⟩

/-- The neighbour of the value on the grid of `10 ^ exponent` that lies in the interval,
if there is one; of two, the nearer one, and of two equally near the even one. -/
def Binary.onGrid? (b : Binary) (exponent : Int) : Option Nat :=
  let f := b.value.over exponent
  let below := f.num / f.den
  let rest := f.num % f.den
  let interval := b.interval
  match interval.contains below exponent, interval.contains (below + 1) exponent with
  | true, false => some below
  | false, true => some (below + 1)
  | false, false => none
  | true, true =>
    match compare (2 * rest) f.den with
    | .lt => some below
    | .gt => some (below + 1)
    | .eq => some (if below % 2 = 0 then below else below + 1)

/-- Tries the grids with `places` fewer digits than the finest one, then finer ones. -/
def Binary.search (b : Binary) (finest : Int) : Nat → Scientific
  | 0 => ⟨(b.onGrid? finest).getD 0, finest⟩
  | places + 1 =>
    match b.onGrid? (finest + (places + 1)) with
    | some digits => ⟨digits, finest + (places + 1)⟩
    | none => b.search finest places

/-- Moves the zeros at the end of `digits` into the exponent; `fuel` bounds their number. -/
def dropZeros : Nat → Scientific → Scientific
  | 0, s => s
  | fuel + 1, s =>
    if s.digits % 10 = 0 ∧ s.digits ≠ 0 then dropZeros fuel ⟨s.digits / 10, s.exponent + 1⟩ else s

/-- The shortest decimal that reads back as `b`, nearest to it among the shortest. -/
def Binary.shortest (b : Binary) : Scientific :=
  if b.mantissa = 0 then ⟨0, 0⟩
  else dropZeros 20 (b.search (b.value.magnitude - 16) 16)

end LspClient.Decimal
