/-!
# UTF-8

Text as bytes and back. Bytes are a `List UInt8` throughout the library, so that a
statement about a stream is a statement about lists.

* `encode` writes each character as one to four bytes.
* `decode` reads bytes as characters or names the first fault: how many bytes before
  it are valid, and whether the fault is a wrong sequence (with its length) or a
  sequence that the end of the input cuts short.
-/

namespace LspClient

/-- A run of bytes: a frame body, a header line, a stream. -/
abbrev Bytes := List UInt8

namespace Utf8

/-- What is wrong at the first byte that does not continue valid text. -/
inductive FaultKind where
  /-- The sequence is wrong after `length` bytes, whatever may follow. -/
  | invalid (length : Nat)
  /-- The input ends before the sequence does. -/
  | incomplete
  deriving Repr, DecidableEq

/-- The first fault of a byte string, after `valid` bytes of valid text. -/
structure Fault where
  valid : Nat
  kind : FaultKind
  deriving Repr, DecidableEq

/-- The text that reports a fault. -/
def Fault.message (fault : Fault) : String :=
  match fault.kind with
  | .invalid length =>
    "invalid utf-8 sequence of " ++ toString length ++ " bytes from index " ++ toString fault.valid
  | .incomplete => "incomplete utf-8 byte sequence from index " ++ toString fault.valid

/-- The bytes of one character. -/
def encodeChar (c : Char) : Bytes :=
  let n := c.toNat
  if n < 0x80 then [UInt8.ofNat n]
  else if n < 0x800 then [UInt8.ofNat (0xC0 + n / 64), UInt8.ofNat (0x80 + n % 64)]
  else if n < 0x10000 then
    [UInt8.ofNat (0xE0 + n / 4096), UInt8.ofNat (0x80 + n / 64 % 64), UInt8.ofNat (0x80 + n % 64)]
  else
    [UInt8.ofNat (0xF0 + n / 262144), UInt8.ofNat (0x80 + n / 4096 % 64),
      UInt8.ofNat (0x80 + n / 64 % 64), UInt8.ofNat (0x80 + n % 64)]

/-- The bytes of a text, character by character. -/
def encode (text : List Char) : Bytes := text.flatMap encodeChar

/-- A byte `10xxxxxx`, which continues a sequence. -/
def isContinuation (b : UInt8) : Bool := 0x80 ≤ b && b < 0xC0

/-- How many bytes the sequence has that starts with `lead`; zero if none starts so. -/
def width (lead : UInt8) : Nat :=
  if lead < 0x80 then 1
  else if lead < 0xC2 then 0
  else if lead < 0xE0 then 2
  else if lead < 0xF0 then 3
  else if lead < 0xF5 then 4
  else 0

/-- Whether `second` may follow `lead`: a continuation byte that makes the sequence
neither overlong, nor a surrogate, nor past the last code point. -/
def admitsSecond (lead second : UInt8) : Bool :=
  isContinuation second &&
    (lead != 0xE0 || 0xA0 ≤ second) && (lead != 0xED || second < 0xA0) &&
    (lead != 0xF0 || 0x90 ≤ second) && (lead != 0xF4 || second < 0x90)

/-- The payload of a continuation byte. -/
def low (b : UInt8) : Nat := b.toNat % 64

/-- Reads on after `valid` bytes, which gave the characters `done`, the last one first. -/
def decodeFrom (valid : Nat) (done : List Char) : Bytes → Except Fault (List Char)
  | [] => .ok done.reverse
  | b0 :: rest0 =>
    match width b0 with
    | 1 => decodeFrom (valid + 1) (Char.ofNat b0.toNat :: done) rest0
    | 2 =>
      match rest0 with
      | [] => .error ⟨valid, .incomplete⟩
      | b1 :: rest1 =>
        if admitsSecond b0 b1 then
          decodeFrom (valid + 2) (Char.ofNat (b0.toNat % 32 * 64 + low b1) :: done) rest1
        else .error ⟨valid, .invalid 1⟩
    | 3 =>
      match rest0 with
      | [] => .error ⟨valid, .incomplete⟩
      | b1 :: rest1 =>
        if admitsSecond b0 b1 then
          match rest1 with
          | [] => .error ⟨valid, .incomplete⟩
          | b2 :: rest2 =>
            if isContinuation b2 then
              let n := (b0.toNat % 16 * 64 + low b1) * 64 + low b2
              decodeFrom (valid + 3) (Char.ofNat n :: done) rest2
            else .error ⟨valid, .invalid 2⟩
        else .error ⟨valid, .invalid 1⟩
    | 4 =>
      match rest0 with
      | [] => .error ⟨valid, .incomplete⟩
      | b1 :: rest1 =>
        if admitsSecond b0 b1 then
          match rest1 with
          | [] => .error ⟨valid, .incomplete⟩
          | b2 :: rest2 =>
            if isContinuation b2 then
              match rest2 with
              | [] => .error ⟨valid, .incomplete⟩
              | b3 :: rest3 =>
                if isContinuation b3 then
                  let n := ((b0.toNat % 8 * 64 + low b1) * 64 + low b2) * 64 + low b3
                  decodeFrom (valid + 4) (Char.ofNat n :: done) rest3
                else .error ⟨valid, .invalid 3⟩
            else .error ⟨valid, .invalid 2⟩
        else .error ⟨valid, .invalid 1⟩
    | _ => .error ⟨valid, .invalid 1⟩

/-- The characters that `bytes` encode, or the first fault. -/
def decode (bytes : Bytes) : Except Fault (List Char) := decodeFrom 0 [] bytes

/-- The bytes of a string. -/
def ofString (text : String) : Bytes := encode text.toList

/-- The string that `bytes` encode, if they are valid. -/
def toString? (bytes : Bytes) : Option String :=
  match decode bytes with
  | .ok text => some (String.ofList text)
  | .error _ => none

/-- How many bytes stand for one replacement character at a fault. -/
def Fault.skipped (fault : Fault) (bytes : Bytes) : Nat :=
  match fault.kind with
  | .invalid length => fault.valid + max length 1
  | .incomplete => bytes.length

/-- What stands for bytes that are no text. -/
def replacement : Char := Char.ofNat 0xFFFD

/-- The characters that `bytes` encode, with a replacement character for every fault; the
first argument bounds how many faults are looked for. -/
def decodeLossyFrom : Nat → Bytes → List Char
  | 0, _ => []
  | fuel + 1, bytes =>
    match decode bytes with
    | .ok text => text
    | .error fault =>
      (match decode (bytes.take fault.valid) with
        | .ok text => text
        | .error _ => []) ++
        replacement :: decodeLossyFrom fuel (bytes.drop (fault.skipped bytes))

/-- The text of `bytes` as it is shown when it need not be valid. A fault uses up at least
one byte, so there are no more faults than bytes. -/
def display (bytes : Bytes) : String := String.ofList (decodeLossyFrom (bytes.length + 1) bytes)

end Utf8

end LspClient
