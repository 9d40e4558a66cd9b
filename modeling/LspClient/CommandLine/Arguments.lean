import LspClient.Config.Basic
import LspClient.Endpoint

/-!
# Arguments

The command line names a language and may give the endpoint or the configuration file.
`Command.parse` reads it from the left; the first argument that does not fit decides.
`resolveEndpoint` settles where to connect: the command line goes before the configuration,
and a URL on the command line before a TCP address in the configuration.
-/

namespace LspClient.CommandLine

/-- How the program is called. -/
def usage : String := "usage: tether <language> [--url <ws-url>] [--tcp <addr>] [--config <path>]"

/-- The URL when none is given. -/
def defaultUrl : String := "ws://localhost:8080/lsp"

/-- What the arguments give. -/
structure Arguments where
  language? : Option String := none
  url? : Option String := none
  tcp? : Option String := none
  config? : Option String := none
  deriving DecidableEq, Repr

/-- What the program is asked to do. -/
inductive Command where
  | run (arguments : Arguments)
  | help
  deriving DecidableEq, Repr

/-- What is wrong with the arguments. -/
inductive ArgumentError where
  | unknownOption (option : String)
  | unexpected (argument : String)
  | noValue (option : String)
  | noLanguage
  deriving DecidableEq, Repr

/-- The wording of an argument error. -/
def ArgumentError.message (e : ArgumentError) : String :=
  let fault :=
    match e with
    | .unknownOption option => "unknown option '" ++ option ++ "'"
    | .unexpected argument => "unexpected argument '" ++ argument ++ "'"
    | .noValue option => option ++ " needs a value"
    | .noLanguage => "a language is required"
  fault ++ "\n" ++ usage

/-- The options that take a value. -/
inductive ValueOption where
  | url
  | tcp
  | config
  deriving DecidableEq, Repr

/-- The option that an argument is. -/
def ValueOption.ofArgument? : String → Option ValueOption
  | "--url" => some .url
  | "--tcp" => some .tcp
  | "--config" => some .config
  | _ => none

/-- The arguments with the value of an option, which replaces an earlier one. -/
def Arguments.set (a : Arguments) (value : String) : ValueOption → Arguments
  | .url => { a with url? := some value }
  | .tcp => { a with tcp? := some value }
  | .config => { a with config? := some value }

/-- Whether an argument asks for help. -/
def asksForHelp (argument : String) : Bool := argument = "-h" || argument = "--help"

/-- Reads on after the arguments that gave `a`. -/
def Command.parseFrom (a : Arguments) : List String → Except ArgumentError Command
  | [] => .ok (.run a)
  | argument :: rest =>
    if asksForHelp argument then .ok .help
    else
      match ValueOption.ofArgument? argument with
      | some option =>
        match rest with
        | [] => .error (.noValue argument)
        | value :: rest => parseFrom (a.set value option) rest
      | none =>
        if argument.toList.head? = some '-' then .error (.unknownOption argument)
        else if a.language?.isSome then .error (.unexpected argument)
        else parseFrom { a with language? := some argument } rest

/-- What the arguments ask for. -/
def Command.parse (arguments : List String) : Except ArgumentError Command :=
  parseFrom {} arguments

/-- Where to connect. -/
def resolveEndpoint (a : Arguments) (config? : Option EndpointConfig) (env : Environment) :
    Except ArgumentError Endpoint :=
  let configuredTcp? := if a.url?.isNone then config?.bind (·.tcp?) else none
  match a.tcp? <|> configuredTcp? with
  | some address => .ok (.tcp address)
  | none =>
    let url := (a.url? <|> config?.bind (·.resolvedUrl? env)).getD defaultUrl
    match a.language? <|> config?.bind (·.language?) with
    | some language => .ok (.socket url language)
    | none => .error .noLanguage

end LspClient.CommandLine
