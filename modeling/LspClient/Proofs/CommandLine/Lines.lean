import LspClient.Client.Basic
import LspClient.Proofs.Json.Compact

/-!
# Lines of input and lines of output

An input line either asks for a request or does not (`CommandLine.requestLine?`). The line that
answers a request is one line of text, has the request's own id, and either a result or an
error (`CommandLine.isReply_replyJson`). The console offers the lines of its input one after
another and leaves none out (`Console.lines_of_next`).
-/

namespace LspClient

namespace CommandLine

/-- A line that asks for a request. -/
structure RequestLine where
  echo : Json
  method : String
  params : Option Json

/-- The request that an input line asks for, if it asks for one. -/
def requestLine? (content : Bytes) : Option RequestLine :=
  match Utf8.decode content with
  | .ok line =>
    match readLine line with
    | .ok (some (.request echo method params)) => some ⟨echo, method, params⟩
    | _ => none
  | .error _ => none

theorem requestLine?_of_request {content : Bytes} {line : List Char} {echo : Json}
    {method : String} {params : Option Json} (decoded : Utf8.decode content = .ok line)
    (read : readLine line = .ok (some (.request echo method params))) :
    requestLine? content = some ⟨echo, method, params⟩ := by
  unfold requestLine?
  simp only [decoded, read]

theorem requestLine?_of_other {content : Bytes} {line : List Char}
    (decoded : Utf8.decode content = .ok line)
    (other : ∀ echo method params, readLine line ≠ .ok (some (.request echo method params))) :
    requestLine? content = none := by
  unfold requestLine?
  cases read : readLine line with
  | error e => simp only [decoded, read]
  | ok outgoing? =>
    cases outgoing? with
    | none => simp only [decoded, read]
    | some outgoing =>
      cases outgoing with
      | notification method params => simp only [decoded, read]
      | request echo method params => exact absurd read (other echo method params)

/-- What a line has to be to answer a request: one line of text with the request's own id and
its outcome, as a result or as an error. -/
structure IsReply (line echo : Json) (outcome : Outcome) : Prop where
  id : line.member? "id" = some echo
  outcome : (∃ result, outcome = .ok result ∧
      line.member? "result" = some result ∧ line.member? "error" = none) ∨
    (∃ e : CallError, outcome = .error e ∧
      line.member? "error" = some (outcomeMember (.error e)).2 ∧ line.member? "result" = none)
  oneLine : Json.Visible line.text

theorem replyJson_ok (echo result : Json) :
    replyJson echo (.ok result) = .object [("id", echo), ("result", result)] := by
  simp only [replyJson, outcomeMember, Json.ofMembers, List.foldl, Json.insertMember,
    String.reduceLT, String.reduceEq, ↓reduceIte]

theorem replyJson_error (echo : Json) (e : CallError) : replyJson echo (.error e) =
    .object [("error", (outcomeMember (.error e)).2), ("id", echo)] := by
  have key : outcomeMember (.error e) = ("error", (outcomeMember (.error e)).2) := by
    cases e <;> rfl
  unfold replyJson
  rw [key]
  simp only [Json.ofMembers, List.foldl, Json.insertMember, String.reduceLT, ↓reduceIte]

theorem isReply_replyJson (echo : Json) (outcome : Outcome) :
    IsReply (replyJson echo outcome) echo outcome where
  id := by
    cases outcome with
    | ok result =>
      rw [replyJson_ok]
      rfl
    | error e =>
      rw [replyJson_error]
      rfl
  outcome := by
    cases outcome with
    | ok result =>
      rw [replyJson_ok]
      exact .inl ⟨result, rfl, rfl, rfl⟩
    | error e =>
      rw [replyJson_error]
      exact .inr ⟨e, rfl, rfl, rfl⟩
  oneLine := Json.visible_text _

end CommandLine

/-! ## The lines of the input -/

/-- The lines of an input, each with its newline, and what follows the last newline. -/
def Console.lines : Bytes → List Bytes
  | [] => []
  | b :: rest =>
    if b = Framing.newline then [b] :: lines rest
    else
      match lines rest with
      | [] => [[b]]
      | first :: more => (b :: first) :: more

/-- The line that the console offers, if it offers one. -/
def Console.Line.content? : Console.Line → Option Bytes
  | .line content _ => some content
  | .none | .ended => Option.none

theorem Console.lines_eq (input : Bytes) : lines input =
    match input.dropWhile (· != Framing.newline) with
    | newline :: rest => (input.takeWhile (· != Framing.newline) ++ [newline]) :: lines rest
    | [] => if input.isEmpty then [] else [input] := by
  induction input with
  | nil => rfl
  | cons b rest ih =>
    rw [List.dropWhile_cons, List.takeWhile_cons, lines]
    by_cases ends : b = Framing.newline
    · rw [if_pos ends, ends]
      rfl
    · rw [if_neg ends, bne_iff_ne.mpr ends, if_pos rfl, if_pos rfl, ih]
      cases rest.dropWhile (· != Framing.newline) with
      | nil =>
        cases rest with
        | nil => rfl
        | cons => rfl
      | cons => rfl

/-- The line that is offered is the first one, and the others follow. -/
theorem Console.lines_of_next {c : Console} {content rest : Bytes}
    (h : c.next = .line content rest) : lines c.input = content :: lines rest := by
  unfold next at h
  rw [lines_eq]
  cases unread : c.input.dropWhile (· != Framing.newline) with
  | cons newline more =>
    rw [unread] at h
    cases h
    rfl
  | nil =>
    rw [unread] at h
    dsimp only at h ⊢
    split at h
    · split at h
      · cases h
      · next some =>
        cases h
        rw [Bool.eq_false_iff.mpr some]
        rfl
    · cases h

/-- There are no lines left when the end of the input is found. -/
theorem Console.lines_of_ended {c : Console} (h : c.next = .ended) : lines c.input = [] := by
  unfold next at h
  split at h
  · cases h
  · split at h
    · split at h
      · next none =>
        rw [List.isEmpty_iff.mp none]
        rfl
      · cases h
    · cases h

end LspClient
