import LspClient.Decimal.Range
import LspClient.Text.Hexadecimal
import LspClient.Toml.Value

/-!
# Numbers, truth values and dates

A value that is neither quoted nor in brackets is one run of characters, whose form tells
what it is. Underscores may stand between digits, and a decimal number has no needless
zeros in front.
-/

namespace LspClient.Toml

/-! ## Numbers -/

/-- The digits of a run in which single underscores may stand between digits. -/
def digitRun? (isDigit : Char → Bool) : List Char → Option (List Char)
  | [] => none
  | [c] => if isDigit c then some [c] else none
  | c :: '_' :: rest => if isDigit c then (digitRun? isDigit rest).map (c :: ·) else none
  | c :: rest => if isDigit c then (digitRun? isDigit rest).map (c :: ·) else none

/-- A sign, if there is one, and what follows it. -/
def splitSign : List Char → Bool × List Char
  | '-' :: rest => (true, rest)
  | '+' :: rest => (false, rest)
  | rest => (false, rest)

/-- The digits of a decimal number without needless zeros. -/
def decimalDigits? (text : List Char) : Option (List Char) :=
  (digitRun? Char.isDigit text).bind fun digits =>
    match digits with
    | '0' :: _ :: _ => none
    | _ => some digits

/-- The digits of a number with a base, which is named in front. -/
def basedNumber? (base : Nat) (text : List Char) : Option Nat :=
  let isDigit (c : Char) : Bool := (Text.numberIn? base [c]).isSome
  (digitRun? isDigit text).bind (Text.numberIn? base)

/-- The integer that a run of characters writes. -/
def integer? (text : List Char) : Option Int :=
  match text with
  | '0' :: 'x' :: digits => (basedNumber? 16 digits).map Int.ofNat
  | '0' :: 'o' :: digits => (basedNumber? 8 digits).map Int.ofNat
  | '0' :: 'b' :: digits => (basedNumber? 2 digits).map Int.ofNat
  | text => do
    let (isNegative, rest) := splitSign text
    let n ← Text.numberIn? 10 (← decimalDigits? rest)
    return if isNegative then -(n : Int) else n

/-- An integer of at most 128 bits, with or without sign; no reader takes greater ones. -/
def isReadable (n : Int) : Bool := -2 ^ 127 ≤ n && n < 2 ^ 128

/-- The exponent after its mark. -/
def exponent? (text : List Char) : Option Int := do
  let (isNegative, rest) := splitSign text
  let n ← Text.numberIn? 10 (← digitRun? Char.isDigit rest)
  return if isNegative then -(n : Int) else n

/-- The mark of an exponent. -/
def isExponentMark (c : Char) : Bool := c = 'e' || c = 'E'

/-- The digits after a point, and the exponent, which is zero if there is no mark. -/
def fraction? (text : List Char) : Option (List Char × Int) := do
  let digits ← digitRun? Char.isDigit (text.takeWhile (!isExponentMark ·))
  match text.dropWhile (!isExponentMark ·) with
  | [] => return (digits, 0)
  | _ :: rest => return (digits, ← exponent? rest)

/-- The magnitude of the float that a run of characters writes in digits. -/
def magnitude? (text : List Char) : Option Decimal.Scientific := do
  let isBreak (c : Char) : Bool := c = '.' || isExponentMark c
  let whole ← decimalDigits? (text.takeWhile (!isBreak ·))
  let (fraction, exponent) ←
    match text.dropWhile (!isBreak ·) with
    | [] => none
    | '.' :: rest => fraction? rest
    | _ :: rest => (exponent? rest).map fun exponent => ([], exponent)
  let digits ← Text.numberIn? 10 (whole ++ fraction)
  return ⟨digits, exponent - fraction.length⟩

/-- The float that a run of characters writes. -/
def float? (text : List Char) : Option Value :=
  let rest := (splitSign text).2
  if ["inf", "nan"].contains (String.ofList rest) then some .float
  else (magnitude? rest).map fun m => if m.isFinite then .float else .excessive

/-! ## Dates and times -/

/-- The number of a fixed count of digits, and what follows them. -/
def fixedDigits? (count : Nat) (text : List Char) : Option (Nat × List Char) :=
  let digits := text.take count
  if digits.length = count && digits.all Char.isDigit then
    (Text.numberIn? 10 digits).map fun n => (n, text.drop count)
  else none

/-- How many days a month has. -/
def daysIn (year month : Nat) : Nat :=
  if [4, 6, 9, 11].contains month then 30
  else if month = 2 then
    if year % 4 = 0 && (year % 100 != 0 || year % 400 = 0) then 29 else 28
  else 31

/-- What follows a date. -/
def afterDate? (text : List Char) : Option (List Char) := do
  let (year, rest) ← fixedDigits? 4 text
  let '-' :: rest := rest | none
  let (month, rest) ← fixedDigits? 2 rest
  let '-' :: rest := rest | none
  let (day, rest) ← fixedDigits? 2 rest
  if 1 ≤ month && month ≤ 12 && 1 ≤ day && day ≤ daysIn year month then some rest else none

/-- What follows an hour and a minute. -/
def afterHourMinute? (text : List Char) : Option (List Char) := do
  let (hour, rest) ← fixedDigits? 2 text
  let ':' :: rest := rest | none
  let (minute, rest) ← fixedDigits? 2 rest
  if hour ≤ 23 && minute ≤ 59 then some rest else none

/-- What follows a time; seconds and parts of a second may be missing. -/
def afterTime? (text : List Char) : Option (List Char) := do
  let rest ← afterHourMinute? text
  match rest with
  | ':' :: rest =>
    let (second, rest) ← fixedDigits? 2 rest
    if 60 < second then none
    else
      match rest with
      | '.' :: rest =>
        if (rest.takeWhile Char.isDigit).isEmpty then none
        else some (rest.dropWhile Char.isDigit)
      | rest => some rest
  | rest => some rest

/-- Whether a text is the offset of a time zone, or none. -/
def isOffset (text : List Char) : Bool :=
  match text with
  | [] | ['Z'] | ['z'] => true
  | sign :: rest => (sign = '+' || sign = '-') && afterHourMinute? rest = some []

/-- Whether a run of characters is a date, a time, or both. -/
def isDateTime (text : List Char) : Bool :=
  match afterDate? text with
  | none => afterTime? text = some []
  | some [] => true
  | some (mark :: time) =>
    ['T', 't', ' '].contains mark && (afterTime? time).any isOffset

/-! ## Any of them -/

/-- A character of a value without quotes and brackets. -/
def isScalarChar (c : Char) : Bool := c.isAlphanum || ['+', '-', '_', '.', ':'].contains c

/-- The characters of such a value, and what follows them. A space may stand between a date
and a time. -/
def splitScalar (input : List Char) : List Char × List Char :=
  let text := input.takeWhile isScalarChar
  let rest := input.dropWhile isScalarChar
  match rest with
  | ' ' :: digit :: more =>
    if digit.isDigit && afterDate? text = some [] then
      (text ++ ' ' :: (digit :: more).takeWhile isScalarChar, (digit :: more).dropWhile isScalarChar)
    else (text, rest)
  | _ => (text, rest)

/-- The value that a run of characters writes. -/
def scalar? (text : List Char) : Option Value :=
  match String.ofList text with
  | "true" => some (.boolean true)
  | "false" => some (.boolean false)
  | _ =>
    match integer? text with
    | some n => some (if isReadable n then .integer n else .excessive)
    | none =>
      match float? text with
      | some value => some value
      | none => if isDateTime text then some .dateTime else none

end LspClient.Toml
