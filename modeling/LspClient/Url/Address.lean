import LspClient.Arithmetic
import LspClient.Url.Percent

/-!
# Addresses in numbers

A host that ends in a number is an IPv4 address: up to four numbers, each decimal, octal
(after `0`) or hexadecimal (after `0x`), the last of which fills all bytes that are left.
A host in brackets is an IPv6 address: eight pieces, of which one run of zeros may be left
out, and of which the last two may be written as an IPv4 address.
-/

namespace LspClient.Url

/-- The parts of a list between the places where `p` holds; always at least one. -/
def splitAt (p : Char → Bool) : List Char → List (List Char)
  | [] => [[]]
  | c :: rest =>
    if p c then [] :: splitAt p rest
    else
      match splitAt p rest with
      | part :: parts => (c :: part) :: parts
      | [] => [[c]]

/-! ## IPv4 -/

/-- The number that a part of an IPv4 address writes. -/
def ipv4Number? : List Char → Option Nat
  | [] => none
  | '0' :: 'x' :: digits => Text.numberIn? 16 digits
  | '0' :: 'X' :: digits => Text.numberIn? 16 digits
  | '0' :: c :: digits => Text.numberIn? 8 (c :: digits)
  | digits => Text.numberIn? 10 digits

/-- The parts of a host between dots, without the empty one after a dot at the end. -/
def dotParts (host : List Char) : List (List Char) :=
  let parts := splitAt (· = '.') host
  match parts.reverse with
  | [] :: others@(_ :: _) => others.reverse
  | _ => parts

/-- Whether a host has to be an IPv4 address. -/
def endsInNumber (host : List Char) : Bool :=
  match (dotParts host).getLast? with
  | none => false
  | some last => (!last.isEmpty && last.all Char.isDigit) || (ipv4Number? last).isSome

/-- The address that numbers write: all but the last are bytes, and the last fills the
bytes that are left. -/
def ipv4OfNumbers? (numbers : List Nat) : Option Nat :=
  match numbers.reverse with
  | [] => none
  | last :: bytes =>
    let places := numbers.length - 1
    if 4 < numbers.length || bytes.any (255 < ·) || 256 ^ (4 - places) ≤ last then none
    else some (bytes.reverse.foldl (fun n b => n * 256 + b) 0 * 256 ^ (4 - places) + last)

/-- The IPv4 address that a host writes. -/
def ipv4? (host : List Char) : Option Nat := ((dotParts host).mapM ipv4Number?).bind ipv4OfNumbers?

/-- The four bytes of an IPv4 address with dots. -/
def ipv4Text (address : Nat) : List Char :=
  let byte (n : Nat) := Nat.toDigits 10 (address / 256 ^ n % 256)
  byte 3 ++ '.' :: byte 2 ++ '.' :: byte 1 ++ '.' :: byte 0

/-! ## IPv6 -/

/-- A byte in decimal, without needless zeros. -/
def decimalByte? (digits : List Char) : Option Nat :=
  match digits with
  | [] => none
  | '0' :: _ :: _ => none
  | digits => (Text.numberIn? 10 digits).bind fun n => if n ≤ 255 then some n else none

/-- The two pieces that an IPv4 address at the end stands for. -/
def embeddedIpv4? (text : List Char) : Option (List Nat) :=
  match (splitAt (· = '.') text).mapM decimalByte? with
  | some [a, b, c, d] => some [a * 256 + b, c * 256 + d]
  | _ => none

/-- A piece: one to four hexadecimal digits. -/
def ipv6Piece? (text : List Char) : Option Nat :=
  if text.isEmpty || 4 < text.length then none else Text.numberIn? 16 text

/-- Reads the groups between colons. `seen` are the pieces so far, and `gap?` tells after
how many of them zeros may have been left out; a gap itself stands for one zero at least. -/
def ipv6Groups? (afterGap : Bool) (seen : List Nat) (gap? : Option Nat) :
    List (List Char) → Option (List Nat × Option Nat)
  | [] => none
  | [[]] => if afterGap then some (seen, gap?) else none
  | [last] =>
    match ipv6Piece? last, embeddedIpv4? last with
    | some piece, _ => if seen.length < 8 then some (seen ++ [piece], gap?) else none
    | none, some pieces => if seen.length ≤ 6 then some (seen ++ pieces, gap?) else none
    | none, none => none
  | [] :: rest =>
    if gap?.isSome || 8 ≤ seen.length then none
    else ipv6Groups? true (seen ++ [0]) (some (seen.length + 1)) rest
  | group :: rest =>
    match ipv6Piece? group with
    | some piece =>
      if seen.length < 8 then ipv6Groups? false (seen ++ [piece]) gap? rest else none
    | none => none

/-- Eight pieces, with zeros filled in at the gap. -/
def fillGap? (seen : List Nat) : Option Nat → Option (List Nat)
  | none => if seen.length = 8 then some seen else none
  | some gap => some (seen.take gap ++ List.replicate (8 - seen.length) 0 ++ seen.drop gap)

/-- The pieces of the IPv6 address that the text in brackets writes. -/
def ipv6? (text : List Char) : Option (List Nat) :=
  let groups :=
    match splitAt (· = ':') text with
    | [] :: [] :: rest => ipv6Groups? true [0] (some 1) rest
    | [] :: _ => none
    | groups => ipv6Groups? false [] none groups
  groups.bind fun (seen, gap?) => fillGap? seen gap?

/-- How many zeros a list starts with. -/
def leadingZeros (pieces : List Nat) : Nat := (pieces.takeWhile (· = 0)).length

/-- The longest run of zeros, the first of several: where it starts and how long it is. A
single zero is no run. -/
def longestZeros (pieces : List Nat) : Option (Nat × Nat) :=
  let runs := (List.range pieces.length).map fun i => (i, leadingZeros (pieces.drop i))
  runs.foldl
    (fun best run =>
      if run.2 < 2 then best
      else
        match best with
        | some found => if found.2 < run.2 then some run else best
        | none => some run)
    none

/-- Pieces in hexadecimal with colons between them. -/
def piecesText (pieces : List Nat) : List Char :=
  [':'].intercalate (pieces.map (Nat.toDigits 16))

/-- An IPv6 address, with its longest run of zeros left out. -/
def ipv6Text (pieces : List Nat) : List Char :=
  match longestZeros pieces with
  | none => piecesText pieces
  | some (start, length) =>
    piecesText (pieces.take start) ++ ':' :: ':' :: piecesText (pieces.drop (start + length))

end LspClient.Url
