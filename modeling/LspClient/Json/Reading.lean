import LspClient.Json.Printer
import LspClient.Text.Quoted

/-!
# Reading records from JSON values

A record is read from an object or from an array of its fields in their declared order.
The members of an object are visited in the order of their keys, so the first bad member
in that order is the one reported; a missing field is reported only after all members
that are present could be read. Members the record does not know are skipped.
-/

namespace LspClient.Json

/-- What a place in a record asks for. -/
inductive Wanted where
  | int64
  | uint64
  | uint32
  | string
  | record (name : String)
  deriving Repr, DecidableEq

/-- How a message names what was asked for. -/
def Wanted.text : Wanted → String
  | .int64 => "i64"
  | .uint64 => "u64"
  | .uint32 => "u32"
  | .string => "a string"
  | .record name => "struct " ++ name

/-- Why a value is not the record it should be. -/
inductive ReadError where
  | wrongType (found : Json) (wanted : Wanted)
  | outOfRange (value : Int) (wanted : Wanted)
  | missingField (field : String)
  | tooFew (count : Nat) (record : String) (fields : Nat)
  | tooMany (count : Nat)

/-- How a message names what was found. -/
def describe : Json → String
  | .null => "null"
  | .bool b => "boolean `" ++ toString b ++ "`"
  | .number n@(.int ..) => "integer `" ++ String.ofList (numberText n) ++ "`"
  | .number n@(.float _) => "floating point `" ++ String.ofList (numberText n) ++ "`"
  | .string s => "string " ++ Text.quote s
  | .array _ => "sequence"
  | .object _ => "map"

/-- The wording of a read error. -/
def ReadError.message : ReadError → String
  | .wrongType found wanted => "invalid type: " ++ describe found ++ ", expected " ++ wanted.text
  | .outOfRange value wanted =>
    "invalid value: integer `" ++ toString value ++ "`, expected " ++ wanted.text
  | .missingField field => "missing field `" ++ field ++ "`"
  | .tooFew count record fields =>
    "invalid length " ++ toString count ++ ", expected " ++ (Wanted.record record).text ++ " with " ++
      toString fields ++ " elements"
  | .tooMany count => "invalid length " ++ toString count ++ ", expected fewer elements in array"

/-- Reads an integer of signed 64 bits. -/
def readInt64 : Json → Except ReadError Int64
  | .number (.int n _ _) =>
    if n < 2 ^ 63 then .ok (Int64.ofInt n) else .error (.outOfRange n .int64)
  | found => .error (.wrongType found .int64)

/-- Reads an integer of unsigned 64 bits. -/
def readUInt64 : Json → Except ReadError UInt64
  | .number (.int n _ _) =>
    if 0 ≤ n then .ok (UInt64.ofNat n.toNat) else .error (.outOfRange n .uint64)
  | found => .error (.wrongType found .uint64)

/-- Reads an integer of unsigned 32 bits. -/
def readUInt32 : Json → Except ReadError UInt32
  | .number (.int n _ _) =>
    if 0 ≤ n ∧ n < 2 ^ 32 then .ok (UInt32.ofNat n.toNat) else .error (.outOfRange n .uint32)
  | found => .error (.wrongType found .uint32)

/-- Reads a string. -/
def readString : Json → Except ReadError String
  | .string s => .ok s
  | found => .error (.wrongType found .string)

end LspClient.Json
