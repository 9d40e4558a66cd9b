import LspClient.Proofs.Json.Ordered
import LspClient.Proofs.Rpc.RoundTrip

/-!
# Where an error object is read

`IsErrorObject` says without the reader which values write an error: objects with its members,
whatever else they carry, and lists of its fields. `ofJson_eq_ok_iff` shows that the reader takes
exactly these.

An object is read member by member into a draft, and each member fills the field of its name.
As every key stands once, a field is filled once or never, whatever the order: `Fills` and
`foldlM_visit_eq_ok_iff`.
-/

namespace LspClient

open Json

/-! ## Integers, strings and ids -/

/-- An integer in the range of 64 bits with sign is the one it is cut down to. -/
theorem Json.ofInt64_ofInt {n : Int} (lower : -2 ^ 63 ≤ n) (upper : n < 2 ^ 64) (fits : n < 2 ^ 63) :
    ofInt64 (Int64.ofInt n) = .number (.int n lower upper) := by
  unfold ofInt64
  congr
  exact Int64.toInt_ofInt_of_le lower fits

theorem Json.readInt64_eq_ok_iff {raw : Json} {n : Int64} :
    readInt64 raw = .ok n ↔ raw = ofInt64 n := by
  constructor
  · intro h
    unfold readInt64 at h
    split at h
    · next m lower upper =>
      split at h
      · next fits =>
        cases h
        exact (ofInt64_ofInt lower upper fits).symm
      · cases h
    · cases h
  · rintro rfl
    exact readInt64_ofInt64 n

theorem Json.readString_eq_ok_iff {raw : Json} {s : String} :
    readString raw = .ok s ↔ raw = .string s := by
  cases raw <;> simp [readString]

theorem Json.string?_eq_some_iff {raw : Json} {s : String} :
    raw.string? = some s ↔ raw = .string s := by
  cases raw <;> simp [string?]

/-- An id is read where one is written: an integer of 64 bits or a string. -/
theorem RequestId.ofJson?_eq_some_iff {raw : Json} {id : RequestId} :
    ofJson? raw = some id ↔ raw = id.toJson := by
  constructor
  · intro h
    unfold ofJson? at h
    split at h
    · next number =>
      obtain ⟨n, read, rfl⟩ := Option.map_eq_some_iff.mp h
      unfold int64? at read
      split at read
      · next m lower upper same =>
        cases same
        split at read
        · next fits =>
          cases read
          exact (ofInt64_ofInt lower upper fits).symm
        · cases read
      · cases read
    · cases h
      rfl
    · cases h
  · rintro rfl
    exact ofJson?_toJson id

/-! ## Error objects -/

namespace RpcError

/-- The value writes the error: an object with its members, or a list of them in the order
code, message, data. -/
inductive IsErrorObject : Json → RpcError → Prop
  | object {members : List (String × Json)} {e : RpcError}
      (code : findMember? "code" members = some (ofInt64 e.code))
      (message : findMember? "message" members = some (.string e.message))
      (data : findMember? "data" members = e.data) : IsErrorObject (.object members) e
  | pair (code : Int64) (message : String) :
      IsErrorObject (.array [ofInt64 code, .string message]) ⟨code, message, none⟩
  | triple (code : Int64) (message : String) (data : Json) :
      IsErrorObject (.array [ofInt64 code, .string message, data]) ⟨code, message, some data⟩

/-- What a field of a draft becomes: if its member was found, what that member writes, and
otherwise what it was. -/
def Fills (found : Option Json) (write : α → Json) (before after : Option α) : Prop :=
  found = none ∧ after = before ∨ ∃ a, found = some (write a) ∧ after = some a

theorem fills_none {write : α → Json} {before after : Option α} :
    Fills none write before after ↔ after = before := by
  simp [Fills]

theorem fills_some {x : Json} {write : α → Json} {before after : Option α} :
    Fills (some x) write before after ↔ ∃ a, x = write a ∧ after = some a := by
  simp [Fills]

theorem visit_code (draft : Draft) (x : Json) :
    draft.visit ("code", x) = (readInt64 x).map fun n => { draft with code := some n } := by
  unfold Draft.visit
  cases readInt64 x <;> rfl

theorem visit_message (draft : Draft) (x : Json) :
    draft.visit ("message", x) = (readString x).map fun s => { draft with message := some s } := by
  unfold Draft.visit
  cases readString x <;> rfl

theorem visit_data (draft : Draft) (x : Json) :
    draft.visit ("data", x) = .ok { draft with data := some x } := rfl

theorem visit_of_other (draft : Draft) {key : String} (x : Json) (code : key ≠ "code")
    (message : key ≠ "message") (data : key ≠ "data") : draft.visit (key, x) = .ok draft := by
  unfold Draft.visit
  split
  · next same => exact absurd same code
  · next same => exact absurd same message
  · next same => exact absurd same data
  · rfl

/-- Reading goes on with what a field writes, if it writes something. -/
theorem map_bind_eq_ok_iff {read : Json → Except ReadError α} {write : α → Json} {x : Json}
    (reads : ∀ a, read x = .ok a ↔ x = write a) {set : α → Draft}
    {next : Draft → Except ReadError Draft} {final : Draft} :
    ((read x).map set >>= next) = .ok final ↔ ∃ a, x = write a ∧ next (set a) = .ok final := by
  simp only [← reads]
  cases read x with
  | error e => simp [Except.map, bind, Except.bind]
  | ok a => simp [Except.map, bind, Except.bind]

/-- Reading the members of an object fills each field from the member of its name. -/
theorem foldlM_visit_eq_ok_iff {members : List (String × Json)} (sorted : SortedKeys members)
    {draft final : Draft} : members.foldlM Draft.visit draft = .ok final ↔
      Fills (findMember? "code" members) ofInt64 draft.code final.code ∧
        Fills (findMember? "message" members) .string draft.message final.message ∧
        Fills (findMember? "data" members) id draft.data final.data := by
  induction members generalizing draft with
  | nil =>
    have missing (key : String) : findMember? key [] = none := rfl
    obtain ⟨code, message, data⟩ := draft
    obtain ⟨code', message', data'⟩ := final
    simp only [missing, fills_none]
    simp [List.foldlM, pure, Except.pure, eq_comm]
  | cons member members ih =>
    obtain ⟨key, x⟩ := member
    obtain ⟨before, sorted⟩ := sortedKeys_cons_iff.mp sorted
    have ih := @ih sorted
    have single : findMember? key members = none := findMember?_of_lt before
    have own : findMember? key ((key, x) :: members) = some x := findMember?_cons_self
    have others (key' : String) (other : key ≠ key') :
        findMember? key' ((key, x) :: members) = findMember? key' members :=
      findMember?_cons_of_ne other
    rw [List.foldlM_cons]
    -- the member fills a field if it has the name of one, and no later member has that name
    by_cases code : key = "code"
    · subst code
      rw [visit_code, map_bind_eq_ok_iff fun n => readInt64_eq_ok_iff]
      simp only [ih, single, own, others "message" (by decide), others "data" (by decide),
        fills_none, fills_some]
      constructor
      · rintro ⟨n, written, filled, rest⟩
        exact ⟨⟨n, written, filled⟩, rest⟩
      · rintro ⟨⟨n, written, filled⟩, rest⟩
        exact ⟨n, written, filled, rest⟩
    by_cases message : key = "message"
    · subst message
      rw [visit_message, map_bind_eq_ok_iff fun s => readString_eq_ok_iff]
      simp only [ih, single, own, others "code" (by decide), others "data" (by decide),
        fills_none, fills_some]
      constructor
      · rintro ⟨s, written, code, filled, data⟩
        exact ⟨code, ⟨s, written, filled⟩, data⟩
      · rintro ⟨code, ⟨s, written, filled⟩, data⟩
        exact ⟨s, written, code, filled, data⟩
    by_cases data : key = "data"
    · subst data
      rw [visit_data, ok_bind]
      simp only [ih, single, own, others "code" (by decide), others "message" (by decide),
        fills_none, fills_some, id]
      constructor
      · rintro ⟨code, message, filled⟩
        exact ⟨code, message, x, rfl, filled⟩
      · rintro ⟨code, message, _, rfl, filled⟩
        exact ⟨code, message, filled⟩
    · rw [visit_of_other draft x code message data, ok_bind, ih, others "code" code,
        others "message" message, others "data" data]

theorem fills_of_nothing {found : Option Json} {write : α → Json} {after : Option α} :
    Fills found write none after ↔ found = after.map write := by
  unfold Fills
  cases after <;> simp

theorem finish_eq_ok_iff {draft : Draft} {e : RpcError} :
    draft.finish = .ok e ↔ draft = ⟨some e.code, some e.message, e.data⟩ := by
  obtain ⟨code, message, data⟩ := draft
  obtain ⟨code', message', data'⟩ := e
  cases code <;> cases message <;> simp [Draft.finish]

/-- An error is read exactly where one is written. -/
theorem ofJson_eq_ok_iff {raw : Json} (ordered : raw.Ordered) {e : RpcError} :
    ofJson raw = .ok e ↔ IsErrorObject raw e := by
  unfold ofJson
  split
  · next members =>
    cases ordered with
    | object sorted all =>
      simp only [bind_eq_ok_iff, finish_eq_ok_iff, exists_eq_right, foldlM_visit_eq_ok_iff sorted,
        fills_of_nothing, Option.map_some, Option.map_id]
      constructor
      · rintro ⟨code, message, data⟩
        exact .object code message data
      · intro written
        cases written with
        | object code message data => exact ⟨code, message, data⟩
  · -- a list with fewer than two items is no error
    constructor
    · intro h
      cases h
    · intro written
      cases written
  · simp only [bind_eq_ok_iff]
    constructor
    · rintro ⟨_, -, h⟩
      cases h
    · intro written
      cases written
  · next code message =>
    simp only [bind_eq_ok_iff, readInt64_eq_ok_iff, readString_eq_ok_iff]
    constructor
    · rintro ⟨n, rfl, s, rfl, h⟩
      cases h
      exact .pair n s
    · intro written
      cases written with
      | pair n s => exact ⟨n, rfl, s, rfl, rfl⟩
  · next code message data more =>
    simp only [bind_eq_ok_iff, readInt64_eq_ok_iff, readString_eq_ok_iff]
    constructor
    · rintro ⟨n, rfl, s, rfl, h⟩
      cases more with
      | nil =>
        cases h
        exact .triple n s data
      | cons x more => cases h
    · intro written
      cases written with
      | triple n s data => exact ⟨n, rfl, s, rfl, rfl⟩
  · next noObject _ _ noPair noTriple =>
    constructor
    · intro h
      cases h
    · intro written
      cases written with
      | object code message data => exact absurd rfl (noObject _)
      | pair code message => exact absurd rfl (noPair _ _)
      | triple code message data => exact absurd rfl (noTriple _ _ _ _)

end RpcError

end LspClient
