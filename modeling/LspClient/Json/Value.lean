import LspClient.Arithmetic

/-!
# JSON values

The values a peer and a configuration exchange. An object keeps its members in
increasing order of their keys, each key once, so that two objects with the same
members are the same value: `insertMember` is the only way to build one, and
`SortedKeys` states what it keeps.

A number is an integer of at most 64 bits, with or without sign, or a double.
-/

namespace LspClient

/-- A number: an integer that fits 64 bits with or without sign, or a double. -/
inductive JsonNumber where
  | int (value : Int) (lower : -2 ^ 63 ≤ value) (upper : value < 2 ^ 64)
  | float (value : Float)

/-- A JSON value. -/
inductive Json where
  | null
  | bool (value : Bool)
  | number (value : JsonNumber)
  | string (value : String)
  | array (items : List Json)
  | object (members : List (String × Json))

/-- Equal as numbers of one kind; an integer never equals a double. -/
def JsonNumber.beq : JsonNumber → JsonNumber → Bool
  | .int a _ _, .int b _ _ => a == b
  | .float a, .float b => a == b
  | _, _ => false

instance : BEq JsonNumber := ⟨JsonNumber.beq⟩

namespace Json

mutual

/-- Equality of values, with doubles compared as numbers. -/
def beq : Json → Json → Bool
  | .null, .null => true
  | .bool a, .bool b => a == b
  | .number a, .number b => a == b
  | .string a, .string b => a == b
  | .array xs, .array ys => beqItems xs ys
  | .object xs, .object ys => beqMembers xs ys
  | _, _ => false

/-- Equality of lists of values. -/
def beqItems : List Json → List Json → Bool
  | [], [] => true
  | x :: xs, y :: ys => beq x y && beqItems xs ys
  | _, _ => false

/-- Equality of lists of members. -/
def beqMembers : List (String × Json) → List (String × Json) → Bool
  | [], [] => true
  | (j, x) :: xs, (k, y) :: ys => j == k && beq x y && beqMembers xs ys
  | _, _ => false

end

instance : BEq Json := ⟨beq⟩

instance : Inhabited Json := ⟨.null⟩

/-- The number `n`, if it fits 64 bits with or without sign. -/
def ofInt? (n : Int) : Option Json :=
  if h : -2 ^ 63 ≤ n ∧ n < 2 ^ 64 then some (.number (.int n h.1 h.2)) else none

/-- A signed 64-bit integer as a number. -/
def ofInt64 (n : Int64) : Json :=
  .number (.int n.toInt (Int64.le_toInt n) (by have := Int64.toInt_lt n; omega))

/-- A natural number below `2 ^ 64` as a number. -/
def ofUInt64 (n : UInt64) : Json :=
  .number (.int n.toNat (by omega) (by have := n.toNat_lt; omega))

/-! ## Members -/

/-- Puts a member in its place; a member with the same key is replaced. -/
def insertMember (key : String) (value : Json) : List (String × Json) → List (String × Json)
  | [] => [(key, value)]
  | (k, v) :: rest =>
    if key < k then (key, value) :: (k, v) :: rest
    else if key = k then (key, value) :: rest
    else (k, v) :: insertMember key value rest

/-- The object with these members; of two with the same key the later one counts. -/
def ofMembers (members : List (String × Json)) : Json :=
  .object (members.foldl (fun acc m => insertMember m.1 m.2 acc) [])

/-- The members for those fields that have a value, in the same order. -/
def presentMembers (fields : List (String × Option Json)) : List (String × Json) :=
  fields.filterMap fun field => field.2.map (field.1, ·)

/-- An object with one more member, which replaces one with the same key. -/
def withMember (object : Json) (key : String) (value : Json) : Json :=
  match object with
  | .object members => .object (insertMember key value members)
  | other => other

/-- Keys in increasing order, each once. -/
def SortedKeys (members : List (String × Json)) : Prop :=
  (members.map Prod.fst).Pairwise (· < ·)

/-- The value of the member with this key. -/
def findMember? (key : String) (members : List (String × Json)) : Option Json :=
  (members.find? (·.1 = key)).map Prod.snd

/-- The member of an object; anything else has none. -/
def member? (key : String) : Json → Option Json
  | .object members => findMember? key members
  | _ => none

/-! ## Views -/

/-- The text of a string. -/
def string? : Json → Option String
  | .string s => some s
  | _ => none

/-- The items of an array. -/
def array? : Json → Option (List Json)
  | .array items => some items
  | _ => none

/-- An integer of signed 64 bits; doubles do not count. -/
def int64? : Json → Option Int64
  | .number (.int n _ _) => if n < 2 ^ 63 then some (Int64.ofInt n) else none
  | _ => none

/-- An integer of unsigned 64 bits; doubles do not count. -/
def uint64? : Json → Option UInt64
  | .number (.int n _ _) => if 0 ≤ n then some (UInt64.ofNat n.toNat) else none
  | _ => none

end Json

end LspClient
