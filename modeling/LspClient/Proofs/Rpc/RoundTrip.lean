import LspClient.Proofs.Json.RoundTrip
import LspClient.Rpc.Codec

/-!
# Envelopes are read back

Members stand in the order of their keys, so the JSON of each kind of message is known
member by member: `toJson_request` and the lemmas after it. The members are found there
again, which makes `ofJson` undo `toJson`; with `Json.parse_bytes`, a frame is decoded as the
envelope it was encoded from: `written_envelopes_read_back`.

Only a response without an id that carries a result is not read back: it can be written,
but no peer may send it.
-/

namespace LspClient

open Json

/-! ## Integers and ids -/

theorem Json.readInt64_ofInt64 (n : Int64) : readInt64 (ofInt64 n) = .ok n := by
  unfold readInt64 ofInt64
  dsimp only
  rw [if_pos (Int64.toInt_lt n), Int64.ofInt_toInt]

theorem RequestId.ofJson?_toJson (id : RequestId) : ofJson? id.toJson = some id := by
  cases id with
  | number n =>
    show (int64? (ofInt64 n)).map RequestId.number = _
    unfold int64? ofInt64
    dsimp only
    rw [if_pos (Int64.toInt_lt n), Int64.ofInt_toInt]
    rfl
  | string s => rfl

theorem RequestId.plain_toJson (id : RequestId) : id.toJson.Plain := by
  cases id with
  | number n => exact .int _ _ _
  | string s => exact .string s

theorem RequestId.depth_toJson (id : RequestId) : id.toJson.depth = 0 := by
  cases id <;> rfl

/-! ## Error objects -/

namespace RpcError

theorem toJson_eq (e : RpcError) : e.toJson =
    .object (("code", ofInt64 e.code) :: ((e.data.map (("data", ·))).toList ++
      [("message", .string e.message)])) := by
  obtain ⟨code, message, data⟩ := e
  cases data with
  | none =>
    simp only [toJson, members, ofMembers, Option.map_none, Option.toList_none, List.append_nil,
      List.nil_append, List.foldl, insertMember, String.reduceLT, String.reduceEq, ↓reduceIte]
  | some x =>
    simp only [toJson, members, ofMembers, Option.map_some, Option.toList_some, List.cons_append,
      List.nil_append, List.foldl, insertMember, String.reduceLT, String.reduceEq, ↓reduceIte]

/-- An error object is read back, with data that is null told from data that is absent. -/
theorem ofJson_toJson (e : RpcError) : ofJson e.toJson = .ok e := by
  have done (draft : Draft) : (pure draft : Except ReadError Draft) = .ok draft := rfl
  rw [toJson_eq]
  obtain ⟨code, message, data⟩ := e
  cases data with
  | none => simp [ofJson, Draft.visit, Draft.finish, readInt64_ofInt64, readString, ok_bind, done]
  | some x =>
    simp [ofJson, Draft.visit, Draft.finish, readInt64_ofInt64, readString, ok_bind, done]

/-- The levels of an error object: its own, and those of its data. -/
theorem depth_toJson (e : RpcError) : e.toJson.depth = 1 + (e.data.map depth).getD 0 := by
  have code : (ofInt64 e.code).depth = 0 := rfl
  have message : (Json.string e.message).depth = 0 := rfl
  rw [toJson_eq]
  obtain ⟨_, _, data⟩ := e
  cases data with
  | none => simp [depth, membersDepth, code]
  | some x => simp [depth, membersDepth, code, Nat.add_comm]

theorem plain_toJson {e : RpcError} (h : ∀ x, e.data = some x → x.Plain) : e.toJson.Plain := by
  have code : (ofInt64 e.code).Plain := .int _ _ _
  have message : (Json.string e.message).Plain := .string _
  rw [toJson_eq]
  obtain ⟨_, _, data⟩ := e
  cases data with
  | none =>
    exact .object (sortedKeys_of_keys ["code", "message"] rfl (by decide))
      (by simp [code, message])
  | some x =>
    exact .object (sortedKeys_of_keys ["code", "data", "message"] rfl (by decide))
      (by simp [code, message, h x rfl])

end RpcError

namespace Envelope

/-! ## The members of a message -/

theorem toJson_request (r : Request) : (request r).toJson =
    .object ([("id", r.id.toJson), ("jsonrpc", .string version), ("method", .string r.method)] ++
      paramsMember r.params) := by
  obtain ⟨id, method, params⟩ := r
  cases params with
  | none =>
    simp only [toJson, members, paramsMember, ofMembers, Option.map_none, Option.toList_none,
      List.append_nil, List.foldl, insertMember, String.reduceLT, String.reduceEq, ↓reduceIte]
  | some x =>
    simp only [toJson, members, paramsMember, ofMembers, Option.map_some, Option.toList_some,
      List.cons_append, List.nil_append, List.foldl, insertMember, String.reduceLT, String.reduceEq,
      ↓reduceIte]

theorem toJson_notification (n : Notification) : (notification n).toJson =
    .object ([("jsonrpc", .string version), ("method", .string n.method)] ++
      paramsMember n.params) := by
  obtain ⟨method, params⟩ := n
  cases params with
  | none =>
    simp only [toJson, members, paramsMember, ofMembers, Option.map_none, Option.toList_none,
      List.append_nil, List.foldl, insertMember, String.reduceLT, String.reduceEq, ↓reduceIte]
  | some x =>
    simp only [toJson, members, paramsMember, ofMembers, Option.map_some, Option.toList_some,
      List.cons_append, List.nil_append, List.foldl, insertMember, String.reduceLT, String.reduceEq,
      ↓reduceIte]

theorem toJson_result (id : Option RequestId) (v : Json) : (response ⟨id, .ok v⟩).toJson =
    .object [("id", idJson id), ("jsonrpc", .string version), ("result", v)] := by
  simp only [toJson, members, outcomeMember, ofMembers, List.foldl, insertMember, String.reduceLT,
    String.reduceEq, ↓reduceIte]

theorem toJson_error (id : Option RequestId) (e : RpcError) : (response ⟨id, .error e⟩).toJson =
    .object [("error", e.toJson), ("id", idJson id), ("jsonrpc", .string version)] := by
  simp only [toJson, members, outcomeMember, ofMembers, List.foldl, insertMember, String.reduceLT,
    ↓reduceIte]

/-! ## Reading the members -/

theorem readRequestId_toJson (id : RequestId) : readRequestId id.toJson = .ok id := by
  have read := RequestId.ofJson?_toJson id
  cases id <;> simp [readRequestId, RequestId.toJson, ofInt64] at read ⊢ <;> simp [read]

theorem readResponseId_idJson (id : Option RequestId) : readResponseId (idJson id) = .ok id := by
  cases id with
  | none => rfl
  | some id =>
    have read := RequestId.ofJson?_toJson id
    cases id <;> simp [readResponseId, idJson, RequestId.toJson, ofInt64] at read ⊢ <;> simp [read]

/-- The envelope that was written is read back from its JSON. -/
theorem ofJson_toJson (e : Envelope)
    (h : ∀ v, e ≠ .response ⟨none, .ok v⟩) : ofJson e.toJson = .ok e := by
  cases e with
  | request r =>
    obtain ⟨id, method, params⟩ := r
    have read := readRequestId_toJson id
    rw [toJson_request]
    cases params with
    | none => simp [ofJson, findMember?, paramsMember, version, string?, readCall, read, ok_bind]
    | some x => simp [ofJson, findMember?, paramsMember, version, string?, readCall, read, ok_bind]
  | notification n =>
    obtain ⟨method, params⟩ := n
    rw [toJson_notification]
    cases params with
    | none => simp [ofJson, findMember?, paramsMember, version, string?, readCall]
    | some x => simp [ofJson, findMember?, paramsMember, version, string?, readCall]
  | response r =>
    obtain ⟨id, outcome⟩ := r
    have read := readResponseId_idJson id
    cases outcome with
    | ok v =>
      rw [toJson_result]
      cases id with
      | none => exact absurd rfl (h v)
      | some id => simp [ofJson, findMember?, version, string?, readResponse, read, ok_bind]
    | error e =>
      have object := RpcError.ofJson_toJson e
      rw [toJson_error]
      simp [ofJson, findMember?, version, string?, readResponse, read, object, ok_bind]

/-- A result without an id is not read. -/
theorem ofJson_toJson_of_noId (v : Json) :
    ofJson (response ⟨none, .ok v⟩).toJson = .error .nullIdWithResult := by
  have read := readResponseId_idJson none
  rw [toJson_result]
  simp [ofJson, findMember?, version, string?, readResponse, read, ok_bind]

/-! ## What a message passes on -/

/-- The JSON that a message passes on: parameters, a result, or the data of an error. -/
def payload : Envelope → Option Json
  | .request r => r.params
  | .notification n => n.params
  | .response ⟨_, .ok result⟩ => some result
  | .response ⟨_, .error e⟩ => e.data

/-- How many levels stand around that: the envelope, and an error object if there is one. -/
def wrapping : Envelope → Nat
  | .response ⟨_, .error _⟩ => 2
  | _ => 1

/-- How deep lists and objects nest in the JSON of a message. -/
def nesting (e : Envelope) : Nat := e.wrapping + (e.payload.map depth).getD 0

theorem depth_idJson (id : Option RequestId) : (idJson id).depth = 0 := by
  cases id with
  | none => rfl
  | some id => exact RequestId.depth_toJson id

theorem plain_idJson (id : Option RequestId) : (idJson id).Plain := by
  cases id with
  | none => exact .null
  | some id => exact RequestId.plain_toJson id

theorem depth_toJson (e : Envelope) : e.toJson.depth = e.nesting := by
  cases e with
  | request r =>
    obtain ⟨id, method, params⟩ := r
    have none := RequestId.depth_toJson id
    rw [toJson_request]
    cases params <;>
      simp [depth, membersDepth, paramsMember, nesting, wrapping, payload, none, Nat.add_comm]
  | notification n =>
    obtain ⟨method, params⟩ := n
    rw [toJson_notification]
    cases params <;>
      simp [depth, membersDepth, paramsMember, nesting, wrapping, payload, Nat.add_comm]
  | response r =>
    obtain ⟨id, outcome⟩ := r
    have none := depth_idJson id
    cases outcome with
    | ok v =>
      rw [toJson_result]
      simp [depth, membersDepth, nesting, wrapping, payload, none, Nat.add_comm]
    | error e =>
      have object := RpcError.depth_toJson e
      rw [toJson_error]
      simp [depth, membersDepth, nesting, wrapping, payload, none, object]
      omega

theorem plain_toJson {e : Envelope} (h : ∀ x, e.payload = some x → x.Plain) : e.toJson.Plain := by
  have text (s : String) : (Json.string s).Plain := .string s
  cases e with
  | request r =>
    obtain ⟨id, method, params⟩ := r
    have plain := RequestId.plain_toJson id
    rw [toJson_request]
    cases params with
    | none =>
      exact .object (sortedKeys_of_keys ["id", "jsonrpc", "method"] rfl (by decide))
        (by simp [paramsMember, plain, text])
    | some x =>
      exact .object (sortedKeys_of_keys ["id", "jsonrpc", "method", "params"] rfl (by decide))
        (by simp [paramsMember, plain, text, h x rfl])
  | notification n =>
    obtain ⟨method, params⟩ := n
    rw [toJson_notification]
    cases params with
    | none =>
      exact .object (sortedKeys_of_keys ["jsonrpc", "method"] rfl (by decide))
        (by simp [paramsMember, text])
    | some x =>
      exact .object (sortedKeys_of_keys ["jsonrpc", "method", "params"] rfl (by decide))
        (by simp [paramsMember, text, h x rfl])
  | response r =>
    obtain ⟨id, outcome⟩ := r
    have plain := plain_idJson id
    cases outcome with
    | ok v =>
      rw [toJson_result]
      exact .object (sortedKeys_of_keys ["id", "jsonrpc", "result"] rfl (by decide))
        (by simp [plain, text, h v rfl])
    | error e =>
      have object : e.toJson.Plain := RpcError.plain_toJson h
      rw [toJson_error]
      exact .object (sortedKeys_of_keys ["error", "id", "jsonrpc"] rfl (by decide))
        (by simp [plain, text, object])

/-! ## Frames -/

/-- A message without doubles whose JSON nests at most 127 deep is decoded from the frame it
was encoded to; if it nests deeper, the frame is no valid JSON for the reader. A result
without an id is the one message that is refused otherwise. -/
theorem written_envelopes_read_back (e : Envelope) (plain : ∀ x, e.payload = some x → x.Plain) :
    ((∀ v, e ≠ .response ⟨none, .ok v⟩) → e.nesting ≤ 127 → decode e.encode = .ok e) ∧
      (127 < e.nesting →
        ∃ cause, decode e.encode = .error (.invalidJson cause) ∧ cause.fault = .tooDeep) ∧
      ∀ v, e = .response ⟨none, .ok v⟩ → e.nesting ≤ 127 →
        decode e.encode = .error .nullIdWithResult := by
  have json := plain_toJson plain
  have parsed (fits : e.nesting ≤ 127) : decode e.encode = ofJson e.toJson := by
    have value := parse_bytes json (by rw [depth_toJson]; exact fits)
    unfold decode encode
    rw [value]
  refine ⟨?_, ?_, ?_⟩
  · intro other fits
    rw [parsed fits, ofJson_toJson e other]
  · intro deep
    obtain ⟨cause, refused, fault⟩ := parse_bytes_of_deep json (by rw [depth_toJson]; exact deep)
    refine ⟨cause, ?_, fault⟩
    unfold decode encode
    rw [refused]
  · intro v same fits
    rw [parsed fits, same, ofJson_toJson_of_noId]

/-- Null parameters under an id in digits are read back as they were written, and a result
without an id is refused. -/
theorem null_params_read_back :
    decode (request ⟨.string "1", "m", some .null⟩).encode =
        .ok (.request ⟨.string "1", "m", some .null⟩) ∧
      decode (response ⟨none, .ok .null⟩).encode = .error .nullIdWithResult := by
  have plain : ∀ x, some Json.null = some x → x.Plain := by
    intro x same
    cases same
    exact .null
  constructor
  · refine (written_envelopes_read_back (.request ⟨.string "1", "m", some .null⟩) plain).1 ?_
      (by decide)
    intro v same
    cases same
  · exact (written_envelopes_read_back (.response ⟨none, .ok .null⟩) plain).2.2 .null rfl
      (by decide)

end Envelope

end LspClient
