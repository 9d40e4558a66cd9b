import LspClient.Session.Basic
import LspClient.Text.Blank
import LspClient.Url.Basic

/-!
# Endpoints

Where a language server is reached: over a WebSocket, where the language is part of the
query, or over TCP at an address that is taken as it is.
-/

namespace LspClient

/-- Why a text is no endpoint of a WebSocket. -/
inductive EndpointError where
  | malformed (text : String) (cause : Url.UrlError)
  | unsupportedScheme (scheme : String)
  | noLanguage
  deriving DecidableEq, Repr

/-- The reason that an error gives. -/
def EndpointError.reason : EndpointError → String
  | .malformed text cause => text ++ ": " ++ cause.message
  | .unsupportedScheme scheme => "unsupported scheme '" ++ scheme ++ "', expected ws or wss"
  | .noLanguage => "language must not be empty"

/-- The error as one of connecting. -/
def EndpointError.toConnectError (e : EndpointError) : ConnectError := .invalidEndpoint e.reason

/-- The URL that a text writes, which has to be one of a WebSocket. -/
def socketUrl (text : String) : Except EndpointError Url :=
  match Url.parse text.toList with
  | .error cause => .error (.malformed text cause)
  | .ok (.other scheme) => .error (.unsupportedScheme scheme)
  | .ok (.socket url) => .ok url

/-- The name of the pair that tells the language. -/
def languageName : List Char := "language".toList

/-- The URL for one language, which is given without the blanks around it. -/
def languageUrl (base language : String) : Except EndpointError Url :=
  match Text.trim language.toList with
  | [] => .error .noLanguage
  | language => (socketUrl base).map (·.withPair languageName language)

/-- Where a server is reached. -/
inductive Endpoint where
  | socket (url language : String)
  | tcp (address : String)
  deriving DecidableEq, Repr

/-- How an address of TCP is named. -/
def tcpName (address : String) : String := "tcp://" ++ address

/-- How an endpoint is named, if it is one. An address of TCP is not looked at. -/
def Endpoint.name : Endpoint → Except EndpointError String
  | .socket url language => (languageUrl url language).map Url.text
  | .tcp address => .ok (tcpName address)

/-- A session with an endpoint, which it has not tried to reach yet. -/
def Endpoint.session (e : Endpoint) (settings : Settings) : Except EndpointError Session :=
  e.name.map fun endpoint => { settings, endpoint }

end LspClient
