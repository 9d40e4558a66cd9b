import LspClient.Decimal.Positional
import LspClient.Json.Value
import LspClient.Text.Utf8

/-!
# JSON text

The one compact text of a value: no blanks, members in the order of their keys, and in
strings only those characters escaped that JSON does not admit as they are.
-/

namespace LspClient.Json

/-- A double is written without an exponent from `0.00001` up to sixteen integer digits. -/
def floatStyle : Decimal.Style := ⟨some (-5), some 15⟩

/-- The two lower hexadecimal digits of an escaped control character. -/
def hexPair (n : Nat) : List Char := [Nat.digitChar (n / 16), Nat.digitChar (n % 16)]

/-- A character inside a string. -/
def escapeChar (c : Char) : List Char :=
  if c = '"' then ['\\', '"']
  else if c = '\\' then ['\\', '\\']
  else if c = '\x08' then ['\\', 'b']
  else if c = '\x0c' then ['\\', 'f']
  else if c = '\n' then ['\\', 'n']
  else if c = '\r' then ['\\', 'r']
  else if c = '\t' then ['\\', 't']
  else if c.toNat < 0x20 then '\\' :: 'u' :: '0' :: '0' :: hexPair c.toNat
  else [c]

/-- A string with its quotes. -/
def stringText (s : String) : List Char := '"' :: (s.toList.flatMap escapeChar ++ ['"'])

/-- An integer in decimal. -/
def intText (n : Int) : List Char :=
  if n < 0 then '-' :: Nat.toDigits 10 n.natAbs else Nat.toDigits 10 n.natAbs

/-- A number; a double always has a point or an exponent. -/
def numberText : JsonNumber → List Char
  | .int n _ _ => intText n
  | .float x => Decimal.floatText floatStyle x

mutual

/-- The text of a value. -/
def text : Json → List Char
  | .null => ['n', 'u', 'l', 'l']
  | .bool true => ['t', 'r', 'u', 'e']
  | .bool false => ['f', 'a', 'l', 's', 'e']
  | .number n => numberText n
  | .string s => stringText s
  | .array [] => ['[', ']']
  | .array (x :: xs) => '[' :: (text x ++ itemsText xs)
  | .object [] => ['\x7b', '\x7d']
  | .object ((k, v) :: ms) => '\x7b' :: (stringText k ++ ':' :: (text v ++ membersText ms))

/-- The items after the first one, and the closing bracket. -/
def itemsText : List Json → List Char
  | [] => [']']
  | x :: xs => ',' :: (text x ++ itemsText xs)

/-- The members after the first one, and the closing brace. -/
def membersText : List (String × Json) → List Char
  | [] => ['\x7d']
  | (k, v) :: ms => ',' :: (stringText k ++ ':' :: (text v ++ membersText ms))

end

/-- The text of a value as a string. -/
def render (value : Json) : String := String.ofList value.text

/-- The text of a value as bytes. -/
def bytes (value : Json) : Bytes := Utf8.encode value.text

end LspClient.Json
