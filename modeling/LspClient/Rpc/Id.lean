import LspClient.Json.Printer
import LspClient.Text.Quoted

/-!
# Request ids

An id is a signed 64-bit integer or a string. The two kinds never meet: the number `1`
and the string `"1"` are different ids, on the wire and in messages.
-/

namespace LspClient

/-- The id that ties a response to its request. -/
inductive RequestId where
  | number (value : Int64)
  | string (value : String)
  deriving DecidableEq, Repr

namespace RequestId

/-- The id that a JSON value writes. Doubles, integers out of range and structured values
are no ids, and neither is null. -/
def ofJson? : Json → Option RequestId
  | .number n => (Json.number n).int64?.map .number
  | .string s => some (.string s)
  | _ => none

/-- The JSON value of an id. -/
def toJson : RequestId → Json
  | .number n => Json.ofInt64 n
  | .string s => .string s

/-- The id as a message shows it: a string is quoted, so that kinds can be told apart. -/
def text : RequestId → String
  | .number n => toString n.toInt
  | .string s => Text.quote s

/-- The id as a description shows it, with its kind. -/
def describe : RequestId → String
  | .number n => "Number(" ++ toString n.toInt ++ ")"
  | .string s => "String(" ++ Text.quote s ++ ")"

/-- An id that may be missing, as a description shows it. -/
def describeOption : Option RequestId → String
  | some id => "Some(" ++ id.describe ++ ")"
  | none => "None"

/-- The text that says that a JSON value is no id. -/
def unreadableMessage : String := "data did not match any variant of untagged enum RequestId"

end RequestId

end LspClient
