import LspClient.Json.Syntax
import LspClient.Json.Value

/-!
# Numbers in JSON text

A numeral without fraction and exponent is an integer if it fits 64 bits. Everything
else is a double, which is computed from a 64-bit significand and a decimal exponent:
digits are taken as long as the significand does not overflow, and the result is not
correctly rounded in every case.
-/

namespace LspClient.Json

/-- A digit `0` to `9`. -/
def isDigit (b : UInt8) : Bool := 0x30 ≤ b && b ≤ 0x39

/-- The value of a digit. -/
def digitValue (b : UInt8) : Nat := b.toNat - 0x30

/-- Takes digits into the significand `s` as long as it stays below `2 ^ 64`. Gives the
significand and the digits not taken. -/
def takeDigits (s : Nat) : Bytes → Nat × Bytes
  | [] => (s, [])
  | d :: ds =>
    if s * 10 + digitValue d < 2 ^ 64 then takeDigits (s * 10 + digitValue d) ds else (s, d :: ds)

/-- `10 ^ n` as a double. -/
def powerOfTen (n : Nat) : Float := Float.ofScientific 1 false n

/-- `x / 10 ^ n`, in steps that each are a division by a finite double. -/
def scaleDown (x : Float) (n : Nat) : Float :=
  if n ≤ 308 then x / powerOfTen n
  else if x == 0 then x
  else scaleDown (x / powerOfTen 308) (n - 308)
termination_by n

/-- `significand * 10 ^ exponent` as a double, if it is finite. -/
def floatOfParts (significand : Nat) (exponent : Int) : Option Float :=
  let x := (UInt64.ofNat significand).toFloat
  if exponent < 0 then some (scaleDown x exponent.natAbs)
  else if exponent ≤ 308 then
    let y := x * powerOfTen exponent.natAbs
    if y.isInf then none else some y
  else if x == 0 then some x
  else none

/-- A double with its sign; `unread` is what follows the numeral. -/
def signedFloat (negative : Bool) (significand : Nat) (exponent : Int) (unread : Bytes) :
    Except Stop (JsonNumber × Bytes) :=
  match floatOfParts significand exponent with
  | none => .error (.here .numberOutOfRange unread)
  | some x => .ok (.float (if negative then -x else x), unread)

/-- The greatest exponent that a numeral may write. -/
def maxExponent : Nat := 2 ^ 31 - 1

/-- Reads the digits of an exponent after the first ones, which gave `e`. An exponent
that is too large gives the input from where it is so. -/
def exponentDigits (e : Nat) : Bytes → Except Bytes (Nat × Bytes)
  | [] => .ok (e, [])
  | b :: rest =>
    if isDigit b then
      if e * 10 + digitValue b ≤ maxExponent then exponentDigits (e * 10 + digitValue b) rest
      else .error rest
    else .ok (e, b :: rest)

/-- Reads an exponent after its mark and completes the number. -/
def exponentPart (negative : Bool) (significand : Nat) (scale : Int) (input : Bytes) :
    Except Stop (JsonNumber × Bytes) :=
  let (down, digits) :=
    match input with
    | [] => (false, [])
    | b :: rest =>
      if b = '-'.toUInt8 then (true, rest)
      else if b = '+'.toUInt8 then (false, rest)
      else (false, b :: rest)
  match digits with
  | [] => .error (.here .endInValue [])
  | b :: rest =>
    if isDigit b then
      match exponentDigits (digitValue b) rest with
      | .ok (e, unread) => signedFloat negative significand (if down then scale - e else scale + e) unread
      | .error unread =>
        if significand ≠ 0 ∧ down = false then .error (.here .numberOutOfRange unread)
        else .ok (.float (if negative then -0.0 else 0.0), unread.dropWhile isDigit)
    else .error (.here .invalidNumber rest)

/-- A mark that starts an exponent. -/
def isExponentMark (b : UInt8) : Bool := b == 'e'.toUInt8 || b == 'E'.toUInt8

/-- Completes a number after its digits, with an exponent or without. -/
def exponentOrEnd (negative : Bool) (significand : Nat) (scale : Int) (input : Bytes) :
    Except Stop (JsonNumber × Bytes) :=
  match input with
  | b :: rest =>
    if isExponentMark b then exponentPart negative significand scale rest
    else signedFloat negative significand scale input
  | [] => signedFloat negative significand scale input

/-- Reads a fraction after its point and completes the number. -/
def fractionPart (negative : Bool) (significand : Nat) (scale : Int) (input : Bytes) :
    Except Stop (JsonNumber × Bytes) :=
  match input with
  | [] => .error (.atNext .endInValue [])
  | b :: _ =>
    if isDigit b then
      let digits := input.takeWhile isDigit
      let (taken, left) := takeDigits significand digits
      exponentOrEnd negative taken (scale - (digits.length - left.length : Nat))
        (input.dropWhile isDigit)
    else .error (.atNext .invalidNumber input)

/-- A numeral without fraction and exponent: an integer if it fits 64 bits. Minus zero
is a double. -/
def wholeNumber (negative : Bool) (n : Nat) : JsonNumber :=
  if h : negative = true then
    if h' : 0 < n ∧ n ≤ 2 ^ 63 then .int (-n) (by omega) (by omega)
    else .float (-(UInt64.ofNat n).toFloat)
  else if h' : n < 2 ^ 64 then .int n (by omega) (by omega)
  else .float (UInt64.ofNat n).toFloat

/-- Reads a number after its sign. -/
def numeral (negative : Bool) (input : Bytes) : Except Stop (JsonNumber × Bytes) :=
  match input with
  | [] => .error (.here .endInValue [])
  | lead :: more =>
    if !isDigit lead then .error (.here .invalidNumber more)
    else if lead = '0'.toUInt8 ∧ (more.head?.any isDigit) then .error (.atNext .invalidNumber more)
    else
      let digits := input.takeWhile isDigit
      let unread := input.dropWhile isDigit
      let (taken, left) := takeDigits 0 digits
      match unread with
      | b :: rest =>
        if b = '.'.toUInt8 then fractionPart negative taken left.length rest
        else if isExponentMark b then exponentPart negative taken left.length rest
        else if left.isEmpty then .ok (wholeNumber negative taken, unread)
        else signedFloat negative taken left.length unread
      | [] =>
        if left.isEmpty then .ok (wholeNumber negative taken, unread)
        else signedFloat negative taken left.length unread

end LspClient.Json
