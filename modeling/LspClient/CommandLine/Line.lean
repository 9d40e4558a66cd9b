import LspClient.Error
import LspClient.Json.Parser
import LspClient.Text.Blank

/-!
# Lines between the user and the server

Each input line is one JSON object. With a member `id` it is a request, and its outcome is
printed with that same `id`, whatever value it is; without one it is a notification.
`readLine` reads an input line, `replyJson` is the line that answers it.
-/

namespace LspClient.CommandLine

/-- What an input line asks to send. -/
inductive Outgoing where
  | request (echo : Json) (method : String) (params : Option Json)
  | notification (method : String) (params : Option Json)

/-- Why an input line cannot be sent. -/
inductive LineError where
  | invalidJson (cause : Json.SyntaxError)
  | notAnObject
  | noMethod
  deriving Repr, DecidableEq

/-- The wording of a line error. -/
def LineError.message : LineError → String
  | .invalidJson cause => "input is not valid JSON: " ++ cause.message
  | .notAnObject => "input must be a JSON object"
  | .noMethod => "input needs a string \"method\""

/-- What a JSON value asks to send. -/
def Outgoing.ofJson (value : Json) : Except LineError Outgoing :=
  match value with
  | .object members =>
    let find (key : String) := Json.findMember? key members
    match find "method" with
    | some (.string method) =>
      match find "id" with
      | some echo => .ok (.request echo method (find "params"))
      | none => .ok (.notification method (find "params"))
    | _ => .error .noMethod
  | _ => .error .notAnObject

/-- Reads an input line; a blank line asks for nothing. -/
def readLine (line : List Char) : Except LineError (Option Outgoing) :=
  match Text.trim line with
  | [] => .ok none
  | text =>
    match Json.parse (Utf8.encode text) with
    | .error cause => .error (.invalidJson cause)
    | .ok value => (Outgoing.ofJson value).map some

/-- The server's error as the user sees it: code and message, and the data if there is any. -/
def errorBody (e : RpcError) : Json :=
  let body := Json.ofMembers [("code", Json.ofInt64 e.code), ("message", .string e.message)]
  match e.data with
  | some data => body.withMember "data" data
  | none => body

/-- The member that tells of an outcome: the result, the server's error as it came, or the
message of any other error. -/
def outcomeMember : Outcome → String × Json
  | .ok result => ("result", result)
  | .error (.rpc e) => ("error", errorBody e)
  | .error e => ("error", Json.ofMembers [("message", .string e.message)])

/-- The line that answers a request. -/
def replyJson (echo : Json) (outcome : Outcome) : Json :=
  Json.ofMembers [("id", echo), outcomeMember outcome]

end LspClient.CommandLine
