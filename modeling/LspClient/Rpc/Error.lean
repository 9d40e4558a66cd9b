import LspClient.Json.Reading

/-!
# Error objects

The `error` member of a response: a code, a message, and data that may be absent. Data
that is present and null is not absent data.
-/

namespace LspClient

/-- The error that a peer answers a request with. -/
structure RpcError where
  code : Int64
  message : String
  data : Option Json := none

namespace RpcError

/-- The code for a request whose method nobody handles. -/
def methodNotFoundCode : Int64 := -32601

/-- The code for a failure inside the peer. -/
def internalCode : Int64 := -32603

/-- Nobody handles `method`. -/
def methodNotFound (method : String) : RpcError :=
  ⟨methodNotFoundCode, "Method not found: " ++ method, none⟩

/-- A failure inside the peer. -/
def internal (message : String) : RpcError := ⟨internalCode, message, none⟩

/-- The error as a message shows it. -/
def text (e : RpcError) : String :=
  "JSON-RPC error " ++ toString e.code.toInt ++ ": " ++ e.message

instance : BEq RpcError :=
  ⟨fun a b => a.code == b.code && a.message == b.message && a.data == b.data⟩

/-! ## Writing -/

/-- The members of an error object in the order code, message, data. -/
def members (e : RpcError) : List (String × Json) :=
  [("code", Json.ofInt64 e.code), ("message", .string e.message)] ++
    (e.data.map (("data", ·))).toList

/-- The error object. -/
def toJson (e : RpcError) : Json := Json.ofMembers e.members

/-- The fields of the record in declared order; data that is absent has no value. -/
def fields (e : RpcError) : List (String × Option Json) :=
  [("code", some (Json.ofInt64 e.code)), ("message", some (.string e.message)), ("data", e.data)]

/-- The text of the record with its fields in declared order, not in the order of their
keys. -/
def declaredText (e : RpcError) : List Char :=
  Json.text (.object (Json.presentMembers e.fields))

/-! ## Reading -/

/-- The fields of an error that were read so far. -/
structure Draft where
  code : Option Int64 := none
  message : Option String := none
  data : Option Json := none

/-- Reads one member into the draft; a member that an error does not have is skipped. -/
def Draft.visit (draft : Draft) (member : String × Json) : Except Json.ReadError Draft :=
  match member.1 with
  | "code" => return { draft with code := some (← Json.readInt64 member.2) }
  | "message" => return { draft with message := some (← Json.readString member.2) }
  | "data" => return { draft with data := some member.2 }
  | _ => return draft

/-- The error of a finished draft; code and message must be there. -/
def Draft.finish (draft : Draft) : Except Json.ReadError RpcError :=
  match draft.code, draft.message with
  | none, _ => .error (.missingField "code")
  | some _, none => .error (.missingField "message")
  | some code, some message => .ok ⟨code, message, draft.data⟩

/-- How messages name the record. -/
def recordName : String := "RpcError"

/-- Reads an error object, or the array of its fields. -/
def ofJson : Json → Except Json.ReadError RpcError
  | .object members => do (← members.foldlM Draft.visit {}).finish
  | .array [] => .error (.tooFew 0 recordName 3)
  | .array [code] => do
    let _ ← Json.readInt64 code
    .error (.tooFew 1 recordName 3)
  | .array [code, message] => return ⟨← Json.readInt64 code, ← Json.readString message, none⟩
  | .array (code :: message :: data :: more) => do
    let code ← Json.readInt64 code
    let message ← Json.readString message
    if more.isEmpty then .ok ⟨code, message, some data⟩ else .error (.tooMany (more.length + 3))
  | found => .error (.wrongType found (.record recordName))

end RpcError

end LspClient
