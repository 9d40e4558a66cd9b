import Mathlib.Data.List.Basic
import Mathlib.Data.List.Induction
import LspClient.Dispatcher

/-!
# Routing follows the last registration

A registry has a history: handlers were registered for methods and removed again. A method has
the handler of the last operation on it, if that was a registration (`find?_after`). So this one
operation decides where a message goes, and what the next operation on the method answers
(`routes_to_last`); the two kinds of handlers share the registry, and either kind displaces the
other.
-/

namespace LspClient.Dispatcher

/-- What can be done to a registry. -/
inductive Operation where
  | register (method : String) (handler : Handler)
  | remove (method : String)

/-- The method that an operation is about. -/
def Operation.method : Operation → String
  | .register method _ => method
  | .remove method => method

/-- Performs an operation; also tells whether the method had a handler. -/
def perform (d : Dispatcher) : Operation → Dispatcher × Bool
  | .register method handler => d.register method handler
  | .remove method => d.remove method

/-- The registry after some operations, one after another. -/
def after (history : List Operation) : Dispatcher :=
  history.foldl (fun d op => (d.perform op).1) {}

/-- No later operation in a history is about the method of this one. -/
def IsLast (history : List Operation) (op : Operation) : Prop :=
  ∃ before later, history = before ++ op :: later ∧ ∀ other ∈ later, other.method ≠ op.method

variable {history : List Operation} {op last : Operation} {d : Dispatcher} {method : String}
  {handler : Handler}

theorem after_concat (history : List Operation) (op : Operation) :
    after (history ++ [op]) = ((after history).perform op).1 := by
  unfold after
  rw [List.foldl_append]
  rfl

/-- An operation is the last on its own method and leaves those on other methods the last. -/
theorem isLast_concat :
    IsLast (history ++ [op]) last ↔ last = op ∨ IsLast history last ∧ op.method ≠ last.method := by
  constructor
  · rintro ⟨before, later, split, others⟩
    rcases List.eq_nil_or_concat' later with rfl | ⟨later, final, rfl⟩
    · exact .inl (List.singleton_inj.mp (List.append_inj_right' split rfl)).symm
    · rw [← List.cons_append, ← List.append_assoc] at split
      obtain ⟨rfl, same⟩ := List.append_inj' split rfl
      cases same
      exact .inr ⟨⟨before, later, rfl, fun other member =>
        others other (List.mem_append_left _ member)⟩,
        others op (List.mem_append_right _ (List.mem_singleton_self op))⟩
  · rintro (rfl | ⟨⟨before, later, rfl, others⟩, apart⟩)
    · exact ⟨history, [], rfl, fun _ member => absurd member List.not_mem_nil⟩
    · refine ⟨before, later ++ [op], by simp, fun other member => ?_⟩
      rcases List.mem_append.mp member with old | new
      · exact others other old
      · rw [List.mem_singleton.mp new]
        exact apart

/-- An operation leaves the handlers of other methods alone. -/
theorem find?_perform_of_ne (apart : op.method ≠ method) (d : Dispatcher) :
    (d.perform op).1.find? method = d.find? method := by
  cases op with
  | register => exact find?_insert_of_ne apart.symm d _
  | remove => exact find?_erase_of_ne apart.symm d

/-- After an operation its method has a handler only if the operation has registered it. -/
theorem find?_perform_self :
    (d.perform op).1.find? op.method = some handler ↔ .register op.method handler = op := by
  cases op with
  | register method other =>
    show (d.insert method other).find? method = some handler ↔ _
    rw [find?_insert_self, Option.some.injEq, Operation.register.injEq]
    exact ⟨fun same => ⟨rfl, same.symm⟩, fun same => same.2.symm⟩
  | remove method =>
    show (d.erase method).find? method = some handler ↔ _
    rw [find?_erase_self]
    exact ⟨nofun, nofun⟩

/-- **A method has the handler of the last operation on it**, if that was a registration. -/
theorem find?_after :
    (after history).find? method = some handler ↔ IsLast history (.register method handler) := by
  induction history using List.reverseRecOn with
  | nil =>
    refine ⟨nofun, ?_⟩
    rintro ⟨before, later, split, -⟩
    cases before <;> cases split
  | append_singleton history op ih =>
    rw [after_concat, isLast_concat]
    by_cases own : op.method = method
    · subst own
      rw [find?_perform_self]
      exact ⟨.inl, fun h => h.resolve_right fun other => other.2 rfl⟩
    · rw [find?_perform_of_ne own, ih]
      refine ⟨fun last => .inr ⟨last, own⟩, ?_⟩
      rintro (rfl | ⟨last, -⟩)
      · exact absurd rfl own
      · exact last

theorem answer_perform (d : Dispatcher) (op : Operation) :
    (d.perform op).2 = true ↔ ∃ handler, d.find? op.method = some handler := by
  have answer : (d.perform op).2 = (d.find? op.method).isSome := by
    cases op <;> rfl
  rw [answer, Option.isSome_iff_exists]

/-- What the last operations on the methods decide. -/
structure RoutesToLast (history : List Operation) : Prop where
  /-- The next operation tells whether the last one on its method was a registration. -/
  answers : ∀ op, ((after history).perform op).2 = true ↔
    ∃ handler, IsLast history (.register op.method handler)
  /-- A request runs the handler that was registered last, and is answered with its outcome. -/
  calls : ∀ (request : Request) call, IsLast history (.register request.method (.request call)) →
    ((after history).handle (.request request)).invocation? =
      some ⟨.request, request.method, request.params⟩ ∧
    ∀ millis outcome, call request.params = .running millis (.answered outcome) →
      (after history).handle (.request request) =
        { invocation? := some ⟨.request, request.method, request.params⟩
          reply? := some ⟨some request.id, outcome⟩ }
  /-- Any other request runs nothing and is told that nobody handles its method. -/
  refuses : ∀ request : Request,
    (∀ call, ¬ IsLast history (.register request.method (.request call))) →
    (after history).handle (.request request) =
      { reply? := some ⟨some request.id,
          .error ⟨-32601, "Method not found: " ++ request.method, none⟩⟩ }
  /-- A notification runs the handler that was registered last. -/
  notifies : ∀ (notification : Notification) run,
    IsLast history (.register notification.method (.notification run)) →
    ((after history).handle (.notification notification)).invocation? =
      some ⟨.notification, notification.method, notification.params⟩ ∧
    ((run notification.params).crash? = none →
      (after history).handle (.notification notification) =
        { invocation? := some ⟨.notification, notification.method, notification.params⟩
          records := (run notification.params).records })
  /-- Any other notification does nothing. -/
  ignores : ∀ notification : Notification,
    (∀ run, ¬ IsLast history (.register notification.method (.notification run))) →
    (after history).handle (.notification notification) = {}
  /-- Nobody answers a notification or a response, and a response runs nothing. -/
  silent : ∀ message, (∀ request, message ≠ .request request) →
    ((after history).handle message).reply? = none ∧
      ∀ response, message = .response response →
        ((after history).handle message).invocation? = none

/-- **Routing follows the last registration**: whatever was registered and removed before, the
last operation on a method alone decides what becomes of a message about it. -/
theorem routes_to_last (history : List Operation) : RoutesToLast history where
  answers op := by
    rw [answer_perform]
    exact exists_congr fun handler => find?_after
  calls request call last := by
    have found := find?_after.mpr last
    have runs : (after history).invocation? (.request request) =
        some ⟨.request, request.method, request.params⟩ := by
      simp only [invocation?, found]
    have taken : (after history).take request = .called (call request.params) := by
      simp only [take, found]
    refine ⟨?_, fun millis outcome ends => ?_⟩
    · simp only [handle, taken]
      cases call request.params <;> exact runs
    · simp only [handle, taken, ends, runs, endingRecords, reply]
  refuses request unregistered := by
    have unhandled : ∀ call, (after history).find? request.method ≠ some (.request call) :=
      fun call found => unregistered call (find?_after.mp found)
    have runs : (after history).invocation? (.request request) = none := by
      unfold invocation?
      split <;> simp_all
    have taken : (after history).take request = .replied (notFound request) := by
      unfold take
      split <;> simp_all
    simp only [handle, taken, runs]
    rfl
  notifies notification run last := by
    have found := find?_after.mpr last
    have runs : (after history).invocation? (.notification notification) =
        some ⟨.notification, notification.method, notification.params⟩ := by
      simp only [invocation?, found]
    refine ⟨runs, fun quiet => ?_⟩
    simp only [handle, runs, runNotification, found, quiet]
    simp
  ignores notification unregistered := by
    have unhandled : ∀ run, (after history).find? notification.method ≠ some (.notification run) :=
      fun run found => unregistered run (find?_after.mp found)
    have runs : (after history).invocation? (.notification notification) = none := by
      unfold invocation?
      split <;> simp_all
    have records : (after history).runNotification notification = [] := by
      unfold runNotification
      split <;> simp_all
    simp only [handle, runs, records]
  silent message other := by
    cases message with
    | request request => exact absurd rfl (other request)
    | notification notification => exact ⟨rfl, nofun⟩
    | response response => exact ⟨rfl, fun _ _ => rfl⟩

end LspClient.Dispatcher
