import LspClient.Arithmetic

/-!
# Punycode

Punycode writes a text in ASCII. Its ASCII characters come first; a number for every
other character tells where to put it in. The characters are put in by their codes, and
those of one code from left to right, so that the numbers are differences: how many
places and codes lie between one insertion and the next. A number is written in digits of
base 36, the least one first; which digit ends it depends on a bias that adapts to the
numbers seen before.
-/

namespace LspClient.Url.Punycode

/-- The base of the digits. -/
def base : Nat := 36

/-- The first code that is put in. -/
def firstCode : Nat := 0x80

/-- The bias before the first number. -/
def firstBias : Nat := 72

/-- A number may have 32 bits. -/
def numberBound : Nat := 2 ^ 32

/-- Stands between the ASCII characters and the numbers. -/
def delimiter : Char := '-'

/-- The digit at a place ends a number if it is less than this. -/
def threshold (bias place : Nat) : Nat := max 1 (min 26 (place * base - bias))

theorem threshold_pos (bias place : Nat) : 0 < threshold bias place := by
  unfold threshold; omega

/-- How often a number has to be divided to get small, and what is left of it. -/
def shrink (n : Nat) : Nat × Nat :=
  if 455 < n then
    let (times, left) := shrink (n / 35)
    (times + 1, left)
  else (0, n)
termination_by n
decreasing_by omega

/-- The bias after a number, at which the text has `length` characters. -/
def adapt (number length : Nat) (isFirst : Bool) : Nat :=
  let scaled := number / if isFirst then 700 else 2
  let (times, left) := shrink (scaled + scaled / length)
  times * base + base * left / (left + 38)

/-! ## Writing -/

/-- A digit below 36. -/
def digit (d : Nat) : Char := Char.ofNat (if d < 26 then 'a'.toNat + d else '0'.toNat + (d - 26))

/-- The digits of a number from a place on. -/
def digits (bias place n : Nat) : List Char :=
  let t := threshold bias place
  if n < t then [digit n]
  else digit (t + (n - t) % (base - t)) :: digits bias (place + 1) ((n - t) / (base - t))
termination_by n
decreasing_by
  have h := threshold_pos bias place
  have h' := Nat.div_le_self (n - threshold bias place) (base - threshold bias place)
  omega

/-- A text that is being written: the number to write next, the bias, how many characters
are written, and the digits so far. -/
structure Pen where
  number : Nat := 0
  bias : Nat := firstBias
  written : Nat
  isFirst : Bool := true
  output : List Char := []

/-- Goes over one character while the characters with code `code` are put in. -/
def Pen.pass (code : Nat) (p : Pen) (c : Char) : Pen :=
  if c.toNat < code then { p with number := p.number + 1 }
  else if c.toNat = code then
    { number := 0
      bias := adapt p.number (p.written + 1) p.isFirst
      written := p.written + 1
      isFirst := false
      output := p.output ++ digits p.bias 1 p.number }
  else p

/-- Puts in the characters of each code, in increasing order. `next` is the first code
that was not looked at. -/
def Pen.write (text : List Char) : List Nat → Nat → Pen → Pen
  | [], _, p => p
  | code :: codes, next, p =>
    let p := { p with number := p.number + (code - next) * (p.written + 1) }
    let p := text.foldl (Pen.pass code) p
    Pen.write text codes (code + 1) { p with number := p.number + 1 }

/-- A character of ASCII. -/
def isAscii (c : Char) : Bool := c.toNat < firstCode

/-- Writes a text in ASCII. -/
def encode (text : List Char) : List Char :=
  let basic := text.filter isAscii
  let codes := (((text.filter fun c => !isAscii c).map Char.toNat).mergeSort).eraseDups
  basic ++ (if basic.isEmpty then [] else [delimiter]) ++
    (Pen.write text codes firstCode { written := basic.length }).output

/-! ## Reading -/

/-- The value of a digit. -/
def digitValue? (c : Char) : Option Nat :=
  if c.isLower then some (c.toNat - 'a'.toNat)
  else if c.isUpper then some (c.toNat - 'A'.toNat)
  else if c.isDigit then some (c.toNat - '0'.toNat + 26)
  else none

/-- Reads the rest of a number whose digits so far gave `n`; the digit at `place` counts
`weight`. Gives the number and what follows it. -/
def number? (bias place weight n : Nat) : List Char → Option (Nat × List Char)
  | [] => none
  | c :: rest =>
    match digitValue? c with
    | none => none
    | some d =>
      let t := threshold bias place
      if numberBound ≤ n + d * weight then none
      else if d < t then some (n + d * weight, rest)
      else if numberBound ≤ weight * (base - t) then none
      else number? bias (place + 1) (weight * (base - t)) (n + d * weight) rest

/-- A number has a digit at least. -/
theorem length_lt_of_number? {bias place weight n value : Nat} {input rest : List Char}
    (h : number? bias place weight n input = some (value, rest)) :
    rest.length < input.length := by
  fun_induction number? bias place weight n input with
  | case1 => contradiction
  | case2 => contradiction
  | case3 => contradiction
  | case4 => simp_all
  | case5 => contradiction
  | case6 =>
    rename_i ih
    have := ih h
    simp
    omega

/-- Puts in the characters that numbers tell. The next number counts from `position` in
the text so far and from `code`. -/
def insert? (text : List Char) (code position bias : Nat) (input : List Char) :
    Option (List Char) :=
  if input.isEmpty then some text
  else
    match _h : number? bias 1 1 0 input with
    | none => none
    | some (n, rest) =>
      let length := text.length + 1
      let code := code + (position + n) / length
      let place := (position + n) % length
      if numberBound ≤ position + n || !code.isValidChar then none
      else
        insert? (text.insertIdx place (Char.ofNat code)) code (place + 1)
          (adapt n length (text.all isAscii)) rest
termination_by input.length
decreasing_by exact length_lt_of_number? _h

/-- Reads a text that was written in ASCII. -/
def decode? (input : List Char) : Option (List Char) :=
  let numbers := (input.reverse.takeWhile (· != delimiter)).reverse
  match input.take (input.length - numbers.length - 1) with
  | [] => insert? [] firstCode 0 firstBias input
  | basic =>
    if basic.all isAscii then insert? basic firstCode 0 firstBias numbers else none

end LspClient.Url.Punycode
