import LspClient.Dispatcher

/-!
# What the command line does with messages from the server

Messages and diagnostics for the user go to the log. Questions for settings are answered
with null, item by item.
-/

namespace LspClient.CommandLine

/-- The member of an optional value. -/
def memberOf? (params : Option Json) (key : String) : Option Json := params.bind (·.member? key)

/-- The string member of an optional value, or the empty string. -/
def messageOf (params : Option Json) : String :=
  ((memberOf? params "message").bind Json.string?).getD ""

/-- The level for a message of the server: its type counts from the most serious one. -/
def messageLevel (params : Option Json) : LogLevel :=
  match (memberOf? params "type").bind Json.int64? with
  | some 1 => .error
  | some 2 => .warn
  | some 3 => .info
  | _ => .debug

/-- Logs a message of the server. -/
def logMessage (kind : String) (params : Option Json) : NotificationRun where
  records := [⟨messageLevel params, messageOf params, [("kind", .string kind)]⟩]

/-- The line of a diagnostic, counted from one; zero if it has none. A line that has no
successor among the numbers of 64 bits gives none. -/
def diagnosticLine? (diagnostic : Json) : Option UInt64 :=
  let start := ((diagnostic.member? "range").bind (·.member? "start")).bind (·.member? "line")
  match start.bind Json.uint64? with
  | none => some 0
  | some line => if line.toNat + 1 < 2 ^ 64 then some (line + 1) else none

/-- The crash at a line number that has no successor. -/
def lineOverflow : Crash := ⟨some "attempt to add with overflow"⟩

/-- Logs diagnostics one by one, up to one whose line number has no successor. -/
def logEach (uri : String) : List Json → NotificationRun
  | [] => {}
  | diagnostic :: rest =>
    match diagnosticLine? diagnostic with
    | none => { crash? := some lineOverflow }
    | some line =>
      let after := logEach uri rest
      { after with
        records := ⟨.debug, messageOf (some diagnostic),
          [("line", Json.ofUInt64 line), ("uri", .string uri)]⟩ :: after.records }

/-- Logs how many diagnostics there are, and each of them. -/
def logDiagnostics : Option Json → NotificationRun
  | none => {}
  | some params =>
    let uri := ((params.member? "uri").bind Json.string?).getD "<unknown>"
    let diagnostics := ((params.member? "diagnostics").bind Json.array?).getD []
    let each := logEach uri diagnostics
    { each with
      records := ⟨.info, "Diagnostics published",
        [("count", (Json.ofInt? diagnostics.length).getD .null), ("uri", .string uri)]⟩ ::
          each.records }

/-- The answer to a question for settings: null for every item. -/
def configurationReply (params : Option Json) : Json :=
  .array (((memberOf? params "items").bind Json.array?).getD [] |>.map fun _ => .null)

/-- The handlers of the command line by method. -/
def handlers : List (String × Handler) :=
  [("window/logMessage", .notification (logMessage "logMessage")),
    ("window/showMessage", .notification (logMessage "showMessage")),
    ("textDocument/publishDiagnostics", .notification logDiagnostics),
    ("workspace/configuration",
      .request fun params => .running 0 (.answered (.ok (configurationReply params))))]

/-- The registry with the handlers of the command line. -/
def registerHandlers (d : Dispatcher) : Dispatcher :=
  handlers.foldl (fun d (method, handler) => d.insert method handler) d

end LspClient.CommandLine
