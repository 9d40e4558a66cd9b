import Mathlib.Data.List.Forall2
import LspClient.CommandLine.Handlers

/-!
# Diagnostics in the log

A payload of diagnostics is chosen by the peer, so any of its parts may be missing or of
another kind. `CommandLine.recordOf?` is the record of one diagnostic: its line, counted from
one, is a number of 64 bits unless the diagnostic starts at the last line there is. Logging
reaches every diagnostic before the first of those and none after it
(`CommandLine.diagnostics_logged`): the addition crashes, the crash is contained and leaves
one record, and the rest of the list is lost (`CommandLine.loses_diagnostics`).
-/

namespace LspClient.CommandLine

/-- The last line that can be counted from zero in 64 bits. -/
def lastLine : UInt64 := 18446744073709551615

/-- The line at which a diagnostic starts, counted from zero, if it names one. -/
def startLine? (diagnostic : Json) : Option UInt64 :=
  (((diagnostic.member? "range").bind (·.member? "start")).bind (·.member? "line")).bind
    Json.uint64?

/-- The line at which a diagnostic starts, counted from one, or zero if it names none. -/
def lineNumber (diagnostic : Json) : Nat :=
  match startLine? diagnostic with
  | some line => line.toNat + 1
  | none => 0

/-- The record of one diagnostic, unless its line number is beyond the numbers of 64 bits. -/
def recordOf? (uri : String) (diagnostic : Json) : Option LogRecord :=
  (Json.ofInt? (lineNumber diagnostic)).map fun line =>
    ⟨.debug, messageOf (some diagnostic), [("line", line), ("uri", .string uri)]⟩

/-- The document that a payload is about. -/
def uriOf (params : Json) : String :=
  ((params.member? "uri").bind Json.string?).getD "<unknown>"

/-- The diagnostics of a payload, none if they are not an array. -/
def diagnosticsOf (params : Json) : List Json :=
  ((params.member? "diagnostics").bind Json.array?).getD []

/-- The record that announces the diagnostics of a payload. -/
structure Announces (params : Json) (record : LogRecord) : Prop where
  level : record.level = .info
  message : record.message = "Diagnostics published"
  fields : ∀ count, Json.ofInt? (diagnosticsOf params).length = some count →
    record.fields = [("count", count), ("uri", .string (uriOf params))]

/-- What logging the diagnostics of a payload comes to: the ones that are logged, and the ones
that are lost. -/
structure Publishes (params : Json) (run : NotificationRun) (logged lost : List Json) :
    Prop where
  all : diagnosticsOf params = logged ++ lost
  /-- The announcement, then one record for each of the logged diagnostics in order. -/
  records : ∃ heading shown, run.records = heading :: shown ∧ Announces params heading ∧
    List.Forall₂ (fun diagnostic record => recordOf? (uriOf params) diagnostic = some record)
      logged shown
  /-- Only a diagnostic at the last line has any lost, itself and those that follow it. -/
  reached : ∀ diagnostic ∈ logged, startLine? diagnostic ≠ some lastLine
  cause : ∀ diagnostic ∈ lost.head?, startLine? diagnostic = some lastLine
  crash : run.crash? = lost.head?.map fun _ => lineOverflow

/-! ## One diagnostic -/

theorem lineNumber_lt_iff (diagnostic : Json) :
    lineNumber diagnostic < 2 ^ 64 ↔ startLine? diagnostic ≠ some lastLine := by
  unfold lineNumber
  cases startLine? diagnostic with
  | none => exact iff_of_true (by decide) nofun
  | some line =>
    have bound := line.toNat_lt
    have last : lastLine.toNat = 2 ^ 64 - 1 := rfl
    rw [ne_eq, Option.some.injEq, ← UInt64.toNat_inj, last]
    dsimp only
    omega

/-- The line that is logged is the successor of the one where the diagnostic starts. -/
theorem diagnosticLine?_eq (diagnostic : Json) : diagnosticLine? diagnostic =
    match startLine? diagnostic with
    | none => some 0
    | some line => if line.toNat + 1 < 2 ^ 64 then some (line + 1) else none :=
  rfl

/-- The line of a diagnostic is its number wherever there is one of 64 bits. -/
theorem diagnosticLine?_eq_some {diagnostic : Json}
    (h : startLine? diagnostic ≠ some lastLine) :
    ∃ line, diagnosticLine? diagnostic = some line ∧ line.toNat = lineNumber diagnostic := by
  rw [← lineNumber_lt_iff] at h
  rw [diagnosticLine?_eq]
  unfold lineNumber at h ⊢
  cases starts : startLine? diagnostic with
  | none => exact ⟨0, rfl, rfl⟩
  | some start =>
    rw [starts] at h
    refine ⟨start + 1, if_pos h, ?_⟩
    rw [UInt64.toNat_add]
    exact Nat.mod_eq_of_lt h

theorem diagnosticLine?_eq_none {diagnostic : Json}
    (h : startLine? diagnostic = some lastLine) : diagnosticLine? diagnostic = none := by
  rw [diagnosticLine?_eq, h]
  rfl

theorem ofInt?_toNat (line : UInt64) : Json.ofInt? line.toNat = some (Json.ofUInt64 line) := by
  have bound := line.toNat_lt
  exact dif_pos ⟨by omega, by omega⟩

theorem recordOf?_eq_some {uri : String} {diagnostic : Json} {line : UInt64}
    (h : line.toNat = lineNumber diagnostic) : recordOf? uri diagnostic =
      some ⟨.debug, messageOf (some diagnostic),
        [("line", Json.ofUInt64 line), ("uri", .string uri)]⟩ := by
  unfold recordOf?
  rw [← h, ofInt?_toNat]
  rfl

/-! ## A list of them -/

/-- Logging one diagnostic after another splits the list into the logged ones and the lost. -/
theorem logEach_splits (uri : String) (diagnostics : List Json) :
    ∃ logged lost, diagnostics = logged ++ lost ∧
      List.Forall₂ (fun diagnostic record => recordOf? uri diagnostic = some record) logged
        (logEach uri diagnostics).records ∧
      (∀ diagnostic ∈ logged, startLine? diagnostic ≠ some lastLine) ∧
      (∀ diagnostic ∈ lost.head?, startLine? diagnostic = some lastLine) ∧
      (logEach uri diagnostics).crash? = lost.head?.map fun _ => lineOverflow := by
  induction diagnostics with
  | nil => exact ⟨[], [], rfl, .nil, nofun, nofun, rfl⟩
  | cons diagnostic rest ih =>
    by_cases last : startLine? diagnostic = some lastLine
    · refine ⟨[], diagnostic :: rest, rfl, ?_⟩
      unfold logEach
      rw [diagnosticLine?_eq_none last]
      refine ⟨.nil, nofun, ?_, rfl⟩
      intro first isFirst
      cases isFirst
      exact last
    · obtain ⟨line, counted, number⟩ := diagnosticLine?_eq_some last
      obtain ⟨logged, lost, all, records, reached, cause, crash⟩ := ih
      refine ⟨diagnostic :: logged, lost, ?_, ?_⟩
      · rw [all]
        rfl
      · unfold logEach
        rw [counted]
        refine ⟨.cons (recordOf?_eq_some number) records, ?_, cause, crash⟩
        intro other isOne
        cases isOne with
        | head => exact last
        | tail _ isLogged => exact reached other isLogged

/-- Whatever the payload is, there is an announcement and a record for each diagnostic that is
reached. -/
theorem publishes (params : Json) :
    ∃ logged lost, Publishes params (logDiagnostics (some params)) logged lost := by
  obtain ⟨logged, lost, all, records, reached, cause, crash⟩ :=
    logEach_splits (uriOf params) (diagnosticsOf params)
  refine ⟨logged, lost, ⟨all, ⟨_, _, rfl, ⟨rfl, rfl, ?_⟩, records⟩, reached, cause, crash⟩⟩
  intro count counted
  show [("count", (Json.ofInt? (diagnosticsOf params).length).getD .null), _] = _
  rw [counted]
  rfl

/-! ## The notification -/

/-- The method that publishes diagnostics. -/
def publishDiagnostics : String := "textDocument/publishDiagnostics"

/-- The record of the crash that the dispatcher contains. -/
def overflowRecord : LogRecord :=
  ⟨.error, "Notification handler panicked: attempt to add with overflow",
    [("method", .string publishDiagnostics)]⟩

theorem find?_registerHandlers_publishDiagnostics (d : Dispatcher) :
    (registerHandlers d).find? publishDiagnostics = some (.notification logDiagnostics) := by
  show ((((d.insert _ _).insert _ _).insert publishDiagnostics _).insert _ _).find? _ = _
  rw [Dispatcher.find?_insert_of_ne (by decide), Dispatcher.find?_insert_self]

/-- The handlers of the command line hand diagnostics to the log; a crash adds one record. -/
theorem runNotification_publishDiagnostics (d : Dispatcher) (params : Option Json) :
    (registerHandlers d).runNotification ⟨publishDiagnostics, params⟩ =
      (logDiagnostics params).records ++
        ((logDiagnostics params).crash?.map fun crash =>
          (⟨.error, "Notification handler panicked: " ++ crash.reason,
            [("method", .string publishDiagnostics)]⟩ : LogRecord)).toList := by
  unfold Dispatcher.runNotification
  rw [find?_registerHandlers_publishDiagnostics]

/-- **Diagnostics are logged up to the first at the last line.** Without parameters nothing is
logged. With any others, an announcement and one record for each diagnostic in order are
logged, for all of them if none starts at the last line, and else for those before the first
that does; then the crash is contained in one record more. -/
theorem diagnostics_logged (d : Dispatcher) :
    (registerHandlers d).runNotification ⟨publishDiagnostics, none⟩ = [] ∧
    ∀ params, ∃ logged lost, Publishes params (logDiagnostics (some params)) logged lost ∧
      (registerHandlers d).runNotification ⟨publishDiagnostics, some params⟩ =
        (logDiagnostics (some params)).records ++
          (lost.head?.map fun _ => overflowRecord).toList := by
  refine ⟨?_, fun params => ?_⟩
  · rw [runNotification_publishDiagnostics]
    rfl
  · obtain ⟨logged, lost, published⟩ := publishes params
    refine ⟨logged, lost, published, ?_⟩
    rw [runNotification_publishDiagnostics, published.crash]
    cases lost <;> rfl

/-- Of two diagnostics, the first at the last line and the second at line one, neither is
logged. -/
theorem loses_diagnostics :
    let at_ (line : UInt64) : Json :=
      .object [("range", .object [("start", .object [("line", .ofUInt64 line)])])]
    let params : Json := .object [("diagnostics", .array [at_ lastLine, at_ 1])]
    lineNumber (at_ lastLine) = 2 ^ 64 ∧ lineNumber (at_ 1) = 2 ∧
      (logDiagnostics (some params)).crash? = some lineOverflow ∧
      (logDiagnostics (some params)).records.length = 1 := by
  decide +kernel

end LspClient.CommandLine
