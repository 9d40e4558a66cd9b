import LspClient.Proofs.CommandLine.Lines
import LspClient.Proofs.Rpc.RoundTrip

/-!
# All writers of an error object agree

An error is written three times: in a response (`RpcError.toJson`), as a record with its fields
in declared order (`RpcError.fields`), and in a line for the user (`CommandLine.errorBody`).
The three make one object, in which data that is null is a member and data that is absent is
none, and from that object the error is read back (`WritersAgree`).

Likewise the line that shows the outcome of a request is the response with that outcome but for
the version, `replyJson_toJson`.
-/

namespace LspClient

open Json

/-- A value without the member with this key. -/
def Json.without (value : Json) (key : String) : Json :=
  match value with
  | .object members => .object (members.filter (·.1 ≠ key))
  | other => other

namespace RpcError

variable (e : RpcError)

/-! ## The writers -/

/-- The fields that are there are the members of an error object. -/
theorem presentMembers_fields : presentMembers e.fields = e.members := by
  obtain ⟨code, message, data⟩ := e
  cases data <;> rfl

/-- What the user sees of an error is the error object. -/
theorem errorBody_eq : CommandLine.errorBody e = e.toJson := by
  obtain ⟨code, message, data⟩ := e
  rw [toJson_eq]
  cases data with
  | none =>
    simp only [CommandLine.errorBody, ofMembers, List.foldl, insertMember, Option.map_none,
      Option.toList_none, List.nil_append, String.reduceLT, String.reduceEq, ↓reduceIte]
  | some data =>
    simp only [CommandLine.errorBody, withMember, ofMembers, List.foldl, insertMember,
      Option.map_some, Option.toList_some, List.cons_append, List.nil_append, String.reduceLT,
      String.reduceEq, ↓reduceIte]

/-- The text of the record writes the error object, in another order. -/
theorem parse_declaredText (plain : ∀ x, e.data = some x → x.Plain)
    (fits : e.toJson.depth ≤ maxDepth) :
    parse (Utf8.encode e.declaredText) = .ok e.toJson := by
  have shallow : (e.data.map depth).getD 0 < maxDepth := by
    rw [depth_toJson] at fits
    omega
  unfold declaredText
  rw [presentMembers_fields]
  obtain ⟨code, message, data⟩ := e
  refine parse_members ?_ ?_
  · intro m hm
    simp only [members, List.mem_append, List.mem_cons, List.not_mem_nil, or_false,
      Option.mem_toList, Option.map_eq_some_iff] at hm
    rcases hm with (rfl | rfl) | ⟨x, given, rfl⟩
    · exact .int _ _ _
    · exact .string _
    · exact plain x given
  · intro m hm
    simp only [members, List.mem_append, List.mem_cons, List.not_mem_nil, or_false,
      Option.mem_toList, Option.map_eq_some_iff] at hm
    rcases hm with (rfl | rfl) | ⟨x, given, rfl⟩
    · exact Nat.lt_of_le_of_lt (Nat.zero_le _) shallow
    · exact Nat.lt_of_le_of_lt (Nat.zero_le _) shallow
    · rw [given] at shallow
      exact shallow

end RpcError

/-- The line that shows the user an outcome is the response with it, but for the version. -/
theorem CommandLine.replyJson_toJson (id : RequestId) (outcome : RpcOutcome) :
    replyJson id.toJson (outcome.mapError .rpc) =
      (Envelope.response ⟨some id, outcome⟩).toJson.without "jsonrpc" := by
  cases outcome with
  | ok result =>
    rw [Envelope.toJson_result]
    exact replyJson_ok id.toJson result
  | error e =>
    rw [Envelope.toJson_error, ← RpcError.errorBody_eq]
    exact replyJson_error id.toJson (.rpc e)

namespace RpcError

/-- What all writers of an error make of it, and what its reader makes of that. -/
structure WritersAgree (e : RpcError) : Prop where
  /-- A response carries the error object. -/
  response : ∀ id, (Envelope.response ⟨id, .error e⟩).toJson.member? "error" = some e.toJson
  /-- The record is the same object. -/
  record : ofMembers (presentMembers e.fields) = e.toJson
  /-- Its text is read as that object, if there are no doubles in the data and it nests no
  deeper than the reader goes. -/
  text : (∀ x, e.data = some x → x.Plain) → e.toJson.depth ≤ maxDepth →
    parse (Utf8.encode e.declaredText) = .ok e.toJson
  /-- The answer to a line of the user shows the same object, whatever id the line has. -/
  reply : ∀ echo, (CommandLine.replyJson echo (.error (.rpc e))).member? "error" = some e.toJson
  /-- The object is read back as the error. -/
  read : ofJson e.toJson = .ok e

/-- **All writers of an error object agree with each other and with its reader**, and the user is
shown an outcome as a response shows it. -/
theorem writers_agree : (∀ e : RpcError, WritersAgree e) ∧
    ∀ (id : RequestId) (outcome : RpcOutcome),
      CommandLine.replyJson id.toJson (outcome.mapError .rpc) =
        (Envelope.response ⟨some id, outcome⟩).toJson.without "jsonrpc" := by
  refine ⟨fun e => ?_, CommandLine.replyJson_toJson⟩
  constructor
  · intro id
    rw [Envelope.toJson_error]
    rfl
  · rw [presentMembers_fields]
    rfl
  · exact parse_declaredText e
  · intro echo
    rw [CommandLine.replyJson_error, ← errorBody_eq]
    rfl
  · exact ofJson_toJson e

end RpcError

end LspClient
