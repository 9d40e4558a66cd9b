import LspClient.Proofs.Rpc.ErrorObject

/-!
# The grammar of envelopes

`IsEnvelope` says without the reader which JSON value is which envelope, by the members that
are there and what they are. The rules that a value has to keep stand in a list, `rules`, and
`FirstBroken` says which of them is reported. `reads_exactly_envelopes` shows that the reader
takes exactly the values of the grammar and refuses the others for the first rule they break.

The reader goes by whether there is a method, so its two halves `readCall` and `readResponse`
are compared with the rules one by one, in the order in which they are checked.
-/

namespace LspClient

open Json

namespace Envelope

/-! ## The grammar -/

/-- The members of an object, seen through the look-up of a key, are those of the envelope. -/
inductive HasShape (find : String → Option Json) : Envelope → Prop
  | notification {method : String} (called : find "method" = some (.string method))
      (noId : find "id" = none) (noResult : find "result" = none) (noError : find "error" = none) :
      HasShape find (.notification ⟨method, find "params"⟩)
  | request {method : String} {id : RequestId} (called : find "method" = some (.string method))
      (own : find "id" = some id.toJson) (noResult : find "result" = none)
      (noError : find "error" = none) : HasShape find (.request ⟨id, method, find "params"⟩)
  | result {id : RequestId} {result : Json} (uncalled : find "method" = none)
      (own : find "id" = some id.toJson) (given : find "result" = some result)
      (noError : find "error" = none) : HasShape find (.response ⟨some id, .ok result⟩)
  | failure {id : Option RequestId} {raw : Json} {e : RpcError} (uncalled : find "method" = none)
      (own : find "id" = some (idJson id)) (noResult : find "result" = none)
      (given : find "error" = some raw) (written : RpcError.IsErrorObject raw e) :
      HasShape find (.response ⟨id, .error e⟩)

/-- The value is an object that states the version and has the members of the envelope. -/
def IsEnvelope (v : Json) (e : Envelope) : Prop :=
  ∃ members, v = .object members ∧ findMember? "jsonrpc" members = some (.string version) ∧
    HasShape (findMember? · members) e

/-! ## The rules, in the order in which they count -/

/-- A rule for envelopes, and which refusals say that it is broken. -/
structure Rule where
  kept : Prop
  reports : MalformedEnvelope → Prop

/-- The refusal says that a rule is broken which is the first to be so. -/
def FirstBroken : List Rule → MalformedEnvelope → Prop
  | [], _ => False
  | rule :: rules, fault => ¬ rule.kept ∧ rule.reports fault ∨ rule.kept ∧ FirstBroken rules fault

/-- The rules for an object with a method. -/
def callRules (find : String → Option Json) (method : Json) : List Rule :=
  [⟨∃ name, method = .string name, (· = .invalidMethod)⟩,
    ⟨find "result" = none ∧ find "error" = none, (· = .methodWithOutcome)⟩,
    ⟨find "id" ≠ some .null, (· = .notificationWithId)⟩,
    ⟨∀ raw, find "id" = some raw → ∃ id, raw = RequestId.toJson id, (· = .invalidId)⟩]

/-- The rules for the outcome of a response. The last one reports what is wrong with an error,
in the words of its reader. -/
def outcomeRules (find : String → Option Json) : List Rule :=
  [⟨find "result" = none ∨ find "error" = none, (· = .ambiguousResponse)⟩,
    ⟨find "result" ≠ none ∨ find "error" ≠ none, (· = .missingOutcome)⟩,
    ⟨find "result" ≠ none → find "id" ≠ some .null, (· = .nullIdWithResult)⟩,
    ⟨∀ raw, find "error" = some raw → ∃ e, RpcError.IsErrorObject raw e,
      fun fault => ∃ raw cause, find "error" = some raw ∧ RpcError.ofJson raw = .error cause ∧
        fault = .invalidError cause⟩]

/-- The rules for an object without a method. -/
def responseRules (find : String → Option Json) : List Rule :=
  ⟨∃ raw, find "id" = some raw, (· = .missingId)⟩ ::
    ⟨∀ raw, find "id" = some raw → ∃ id, raw = idJson id, (· = .invalidId)⟩ ::
    outcomeRules find

/-- All rules for a value. -/
def rules (v : Json) : List Rule :=
  ⟨∃ members, v = .object members, (· = .notAnObject)⟩ ::
    ⟨v.member? "jsonrpc" = some (.string version), (· = .unsupportedVersion)⟩ ::
    match v.member? "method" with
    | some method => callRules (v.member? ·) method
    | none => responseRules (v.member? ·)

section

variable {kept : Prop} {reports : MalformedEnvelope → Prop} {rules : List Rule}
  {fault : MalformedEnvelope}

theorem firstBroken_of_kept (h : kept) :
    FirstBroken (⟨kept, reports⟩ :: rules) fault ↔ FirstBroken rules fault := by
  simp [FirstBroken, h]

theorem firstBroken_of_broken (h : ¬ kept) :
    FirstBroken (⟨kept, reports⟩ :: rules) fault ↔ reports fault := by
  simp [FirstBroken, h]

end

/-! ## Reading ids -/

theorem toJson_ne_null (id : RequestId) : id.toJson ≠ .null := by
  cases id <;> simp [RequestId.toJson, ofInt64]

theorem idJson_eq_null_iff {id : Option RequestId} : idJson id = .null ↔ id = none := by
  cases id with
  | none => simp [idJson]
  | some id => simp [idJson, toJson_ne_null]

theorem readRequestId_eq_ok_iff {raw : Json} {id : RequestId} :
    readRequestId raw = .ok id ↔ raw = id.toJson := by
  constructor
  · intro h
    unfold readRequestId at h
    split at h
    · cases h
    split at h
    · next found =>
      cases h
      exact RequestId.ofJson?_eq_some_iff.mp found
    · cases h
  · rintro rfl
    exact readRequestId_toJson id

theorem readRequestId_of_not {raw : Json} (solid : raw ≠ .null)
    (h : ¬ ∃ id : RequestId, raw = id.toJson) : readRequestId raw = .error .invalidId := by
  unfold readRequestId
  split
  · exact absurd rfl solid
  split
  · next id found => exact absurd ⟨id, RequestId.ofJson?_eq_some_iff.mp found⟩ h
  · rfl

theorem readResponseId_eq_ok_iff {raw : Json} {id : Option RequestId} :
    readResponseId raw = .ok id ↔ raw = idJson id := by
  constructor
  · intro h
    unfold readResponseId at h
    split at h
    · cases h
      rfl
    split at h
    · next found =>
      cases h
      exact RequestId.ofJson?_eq_some_iff.mp found
    · cases h
  · rintro rfl
    exact readResponseId_idJson id

theorem readResponseId_of_not {raw : Json} (h : ¬ ∃ id, raw = idJson id) :
    readResponseId raw = .error .invalidId := by
  unfold readResponseId
  split
  · exact absurd ⟨none, rfl⟩ h
  split
  · next id found => exact absurd ⟨some id, RequestId.ofJson?_eq_some_iff.mp found⟩ h
  · rfl

/-! ## Reading what is left -/

section

variable {find : String → Option Json} {e : Envelope} {fault : MalformedEnvelope}

theorem readCall_eq_error_iff {method : Json} :
    readCall find method = .error fault ↔ FirstBroken (callRules find method) fault := by
  -- a rule that is kept is passed by, and behind a broken one the others do not count
  unfold callRules
  by_cases named : ∃ name, method = .string name
  · rw [firstBroken_of_kept named]
    obtain ⟨name, rfl⟩ := named
    unfold readCall
    by_cases open_ : find "result" = none ∧ find "error" = none
    · rw [firstBroken_of_kept open_]
      simp only [open_.1, open_.2, Option.isSome_none, Bool.or_self]
      cases own : find "id" with
      | none => simp [FirstBroken]
      | some raw =>
        by_cases solid : raw = .null
        · subst solid
          rw [firstBroken_of_broken (by simp)]
          simp [readRequestId, bind, Except.bind, eq_comm]
        rw [firstBroken_of_kept (by simpa using solid)]
        by_cases valid : ∃ id : RequestId, raw = id.toJson
        · rw [firstBroken_of_kept (by simpa using valid)]
          obtain ⟨id, rfl⟩ := valid
          simp [readRequestId_toJson, ok_bind, FirstBroken]
        · rw [firstBroken_of_broken (by simpa using valid)]
          simp [readRequestId_of_not solid valid, bind, Except.bind, eq_comm]
    · rw [firstBroken_of_broken open_]
      -- one of the two is there, no matter which
      have taken : ((find "result").isSome || (find "error").isSome) = true := by
        cases found : find "result" <;> cases found' : find "error" <;> simp [found, found'] at open_ ⊢
      simp [taken, eq_comm]
  · rw [firstBroken_of_broken named]
    unfold readCall
    split
    · exact absurd ⟨_, rfl⟩ named
    · simp [eq_comm]

theorem readCall_eq_ok_iff {method : Json} (called : find "method" = some method) :
    readCall find method = .ok e ↔ HasShape find e := by
  constructor
  · intro h
    unfold readCall at h
    split at h
    · next name =>
      split at h
      · cases h
      · next open_ =>
        have noOutcome : find "result" = none ∧ find "error" = none := by simpa using open_
        split at h
        · next noId =>
          cases h
          exact .notification called noId noOutcome.1 noOutcome.2
        · next raw own =>
          obtain ⟨id, read, done⟩ := bind_eq_ok_iff.mp h
          cases done
          rw [readRequestId_eq_ok_iff.mp read] at own
          exact .request called own noOutcome.1 noOutcome.2
    · cases h
  · intro shape
    unfold readCall
    cases shape with
    | notification named noId noResult noError =>
      cases called.symm.trans named
      simp [noId, noResult, noError]
    | request named own noResult noError =>
      cases called.symm.trans named
      simp [own, noResult, noError, readRequestId_toJson, ok_bind]
    | result uncalled => cases called.symm.trans uncalled
    | failure uncalled => cases called.symm.trans uncalled

/-- Reads the outcome of a response whose id was read. -/
def readOutcome (find : String → Option Json) (id : Option RequestId) :
    Except MalformedEnvelope Envelope :=
  match find "result", find "error" with
  | some _, some _ => .error .ambiguousResponse
  | none, none => .error .missingOutcome
  | some result, none =>
    if id.isNone then .error .nullIdWithResult else .ok (.response ⟨id, .ok result⟩)
  | none, some raw =>
    match RpcError.ofJson raw with
    | .ok e => .ok (.response ⟨id, .error e⟩)
    | .error cause => .error (.invalidError cause)

theorem readResponse_of_id {raw : Json} (own : find "id" = some raw) :
    readResponse find = (readResponseId raw >>= readOutcome find) := by
  unfold readResponse
  rw [own]
  rfl

/-- An error that cannot be read is none of the grammar. -/
theorem not_isErrorObject {raw : Json} {cause : ReadError} (ordered : raw.Ordered)
    (h : RpcError.ofJson raw = .error cause) : ¬ ∃ e, RpcError.IsErrorObject raw e := by
  rintro ⟨e, written⟩
  cases ((RpcError.ofJson_eq_ok_iff ordered).mpr written).symm.trans h

theorem readOutcome_eq_error_iff {id : Option RequestId} (own : find "id" = some (idJson id))
    (ordered : ∀ raw, find "error" = some raw → raw.Ordered) :
    readOutcome find id = .error fault ↔ FirstBroken (outcomeRules find) fault := by
  unfold outcomeRules readOutcome
  cases given : find "result" with
  | some result =>
    cases failed : find "error" with
    | some raw =>
      rw [firstBroken_of_broken (by simp)]
      simp [eq_comm]
    | none =>
      rw [firstBroken_of_kept (by simp), firstBroken_of_kept (by simp), own]
      cases id with
      | none =>
        rw [firstBroken_of_broken (by simp [idJson])]
        simp [eq_comm]
      | some id =>
        -- a result under an id breaks no rule, and is no error to begin with
        simp [FirstBroken, idJson_eq_null_iff]
  | none =>
    cases failed : find "error" with
    | none =>
      rw [firstBroken_of_kept (by simp), firstBroken_of_broken (by simp)]
      simp [eq_comm]
    | some raw =>
      rw [firstBroken_of_kept (by simp), firstBroken_of_kept (by simp),
        firstBroken_of_kept (by simp)]
      cases read : RpcError.ofJson raw with
      | ok e =>
        -- neither does an error that can be read
        have written := (RpcError.ofJson_eq_ok_iff (ordered raw failed)).mp read
        rw [firstBroken_of_kept (by simpa using ⟨e, written⟩)]
        simp [FirstBroken, read]
      | error cause =>
        have bad := not_isErrorObject (ordered raw failed) read
        rw [firstBroken_of_broken (by simpa using bad)]
        simp [read, eq_comm]

theorem readResponse_eq_error_iff (ordered : ∀ raw, find "error" = some raw → raw.Ordered) :
    readResponse find = .error fault ↔ FirstBroken (responseRules find) fault := by
  unfold responseRules
  cases own : find "id" with
  | none =>
    rw [firstBroken_of_broken (by simp)]
    simp [readResponse, own, eq_comm]
  | some raw =>
    rw [firstBroken_of_kept ⟨raw, rfl⟩, readResponse_of_id own]
    by_cases valid : ∃ id, raw = idJson id
    · rw [firstBroken_of_kept (by simpa using valid)]
      obtain ⟨id, rfl⟩ := valid
      rw [readResponseId_idJson, ok_bind]
      exact readOutcome_eq_error_iff own ordered
    · rw [firstBroken_of_broken (by simpa using valid)]
      simp [readResponseId_of_not valid, bind, Except.bind, eq_comm]

theorem readResponse_eq_ok_iff (uncalled : find "method" = none)
    (ordered : ∀ raw, find "error" = some raw → raw.Ordered) :
    readResponse find = .ok e ↔ HasShape find e := by
  constructor
  · intro h
    cases own : find "id" with
    | none => simp [readResponse, own] at h
    | some raw =>
      rw [readResponse_of_id own] at h
      obtain ⟨id, read, h⟩ := bind_eq_ok_iff.mp h
      rw [readResponseId_eq_ok_iff.mp read] at own
      unfold readOutcome at h
      split at h
      · cases h
      · cases h
      · next result given noError =>
        cases id with
        | none => cases h
        | some id =>
          cases h
          exact .result uncalled own given noError
      · next raw noResult failed =>
        split at h
        · next e read =>
          cases h
          have written := (RpcError.ofJson_eq_ok_iff (ordered raw failed)).mp read
          exact .failure uncalled own noResult failed written
        · cases h
  · intro shape
    cases shape with
    | notification called => cases called.symm.trans uncalled
    | request called => cases called.symm.trans uncalled
    | @result id result _ own given noError =>
      have read : readResponseId id.toJson = .ok (some id) := readResponseId_idJson (some id)
      rw [readResponse_of_id own, read, ok_bind]
      simp [readOutcome, given, noError]
    | @failure id raw e _ own noResult failed written =>
      have read := (RpcError.ofJson_eq_ok_iff (ordered raw failed)).mpr written
      rw [readResponse_of_id own, readResponseId_idJson, ok_bind]
      simp [readOutcome, noResult, failed, read]

end

/-! ## Reading an envelope -/

theorem states_version_iff {members : List (String × Json)} :
    (findMember? "jsonrpc" members).bind string? = some version ↔
      findMember? "jsonrpc" members = some (.string version) := by
  simp [Option.bind_eq_some_iff, string?_eq_some_iff]

theorem ofJson_of_noVersion {members : List (String × Json)}
    (h : findMember? "jsonrpc" members ≠ some (.string version)) :
    ofJson (.object members) = .error .unsupportedVersion := by
  unfold ofJson
  exact if_pos fun stated => h (states_version_iff.mp stated)

theorem ofJson_of_version {members : List (String × Json)}
    (h : findMember? "jsonrpc" members = some (.string version)) : ofJson (.object members) =
      match findMember? "method" members with
      | some method => readCall (findMember? · members) method
      | none => readResponse (findMember? · members) := by
  unfold ofJson
  exact if_neg (not_not_intro (states_version_iff.mpr h))

theorem ofJson_eq_ok_iff {v : Json} (ordered : v.Ordered) {e : Envelope} :
    ofJson v = .ok e ↔ IsEnvelope v e := by
  unfold IsEnvelope
  cases v with
  | object members =>
    have error (raw : Json) (given : findMember? "error" members = some raw) : raw.Ordered :=
      ordered.of_findMember? given
    by_cases stated : findMember? "jsonrpc" members = some (.string version)
    · rw [ofJson_of_version stated]
      cases called : findMember? "method" members with
      | some method => simpa [stated] using readCall_eq_ok_iff called
      | none => simpa [stated] using readResponse_eq_ok_iff called error
    · rw [ofJson_of_noVersion stated]
      simp [stated]
  | _ => simp [ofJson]

theorem ofJson_eq_error_iff {v : Json} (ordered : v.Ordered) {fault : MalformedEnvelope} :
    ofJson v = .error fault ↔ FirstBroken (rules v) fault := by
  unfold rules
  cases v with
  | object members =>
    have error (raw : Json) (given : findMember? "error" members = some raw) : raw.Ordered :=
      ordered.of_findMember? given
    rw [firstBroken_of_kept ⟨members, rfl⟩]
    dsimp only [member?]
    by_cases stated : findMember? "jsonrpc" members = some (.string version)
    · rw [firstBroken_of_kept stated, ofJson_of_version stated]
      cases called : findMember? "method" members with
      | some method => exact readCall_eq_error_iff
      | none => exact readResponse_eq_error_iff error
    · rw [firstBroken_of_broken stated, ofJson_of_noVersion stated]
      simp [eq_comm]
  | _ =>
    rw [firstBroken_of_broken (by simp)]
    simp [ofJson, eq_comm]

/-- The keys of the members that an envelope is read from. -/
def keys : List String := ["jsonrpc", "id", "method", "params", "result", "error"]

/-- What is read is the same for objects that agree on these members. -/
theorem ofJson_congr {members members' : List (String × Json)}
    (same : ∀ key ∈ keys, findMember? key members' = findMember? key members) :
    ofJson (.object members') = ofJson (.object members) := by
  have version' := same "jsonrpc" (by decide)
  have id := same "id" (by decide)
  have method := same "method" (by decide)
  have params := same "params" (by decide)
  have result := same "result" (by decide)
  have error := same "error" (by decide)
  simp only [ofJson, version', method, readCall, readResponse, id, params, result, error]

/-- A value is read as an envelope exactly if it is one of the grammar, and it is refused for
the first rule that it breaks. Only six members of an object count. -/
theorem reads_exactly_envelopes (v : Json) (ordered : v.Ordered) :
    (∀ e, ofJson v = .ok e ↔ IsEnvelope v e) ∧
      (∀ fault, ofJson v = .error fault ↔ FirstBroken (rules v) fault) ∧
      ∀ members members', v = .object members →
        (∀ key ∈ keys, findMember? key members' = findMember? key members) →
        ofJson (.object members') = ofJson v := by
  refine ⟨fun e => ofJson_eq_ok_iff ordered, fun fault => ofJson_eq_error_iff ordered, ?_⟩
  rintro members members' rfl same
  exact ofJson_congr same

/-- An error in the form of a list is read, in an object with a member that nobody knows; a
result without an id is refused. -/
theorem error_list_read :
    ofJson (.object [("error", .array [ofInt64 7, .string "m"]), ("id", .null),
        ("jsonrpc", .string "2.0"), ("trace", .bool true)]) =
          .ok (.response ⟨none, .error ⟨7, "m", none⟩⟩) ∧
      ofJson (.object [("id", .null), ("jsonrpc", .string "2.0"), ("result", .bool true)]) =
        .error .nullIdWithResult := by
  constructor
  · refine ((reads_exactly_envelopes _ ?_).1 _).mpr
      ⟨_, rfl, rfl, .failure rfl rfl rfl rfl (.pair 7 "m")⟩
    have list : (Json.array [ofInt64 7, .string "m"]).Ordered := by
      refine .array ?_
      simp [Ordered.string, ofInt64, Ordered.number]
    refine .object (sortedKeys_of_keys ["error", "id", "jsonrpc", "trace"] rfl (by decide)) ?_
    simp [list, Ordered.null, Ordered.string, Ordered.bool]
  · refine ((reads_exactly_envelopes _ ?_).2.1 _).mpr ?_
    · refine .object (sortedKeys_of_keys ["id", "jsonrpc", "result"] rfl (by decide)) ?_
      simp [Ordered.null, Ordered.string, Ordered.bool]
    · have noId : ∃ id, Json.null = idJson id := ⟨none, rfl⟩
      simp [FirstBroken, rules, responseRules, outcomeRules, member?, findMember?, version, noId]

end Envelope

end LspClient
