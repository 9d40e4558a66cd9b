import LspClient.Url.Address
import LspClient.Url.Domain

/-!
# Hosts

A host is an IPv6 address in brackets, an IPv4 address if it ends in a number, and a
domain name otherwise. Schemes that are not special have opaque hosts, which are checked
for forbidden characters only.
-/

namespace LspClient.Url

/-- Why a text is no URL. -/
inductive UrlError where
  | relative
  | emptyHost
  | invalidDomain
  | invalidOpaqueHost
  | invalidIpv4
  | invalidIpv6
  | invalidPort
  deriving DecidableEq, Repr

/-- The wording of a URL error. -/
def UrlError.message : UrlError → String
  | .relative => "relative URL without a base"
  | .emptyHost => "empty host"
  | .invalidDomain => "invalid international domain name"
  | .invalidOpaqueHost => "invalid domain character"
  | .invalidIpv4 => "invalid IPv4 address"
  | .invalidIpv6 => "invalid IPv6 address"
  | .invalidPort => "invalid port number"

/-- The host of a URL. -/
inductive Host where
  | domain (name : List Char)
  | ipv4 (address : Nat)
  | ipv6 (pieces : List Nat)
  deriving DecidableEq, Repr

/-- A host as it stands in a URL. -/
def Host.text : Host → List Char
  | .domain name => name
  | .ipv4 address => ipv4Text address
  | .ipv6 pieces => '[' :: (ipv6Text pieces ++ [']'])

/-- The address that stands in brackets. -/
def bracketedHost (inner : List Char) : Except UrlError Host :=
  match inner.getLast? with
  | some ']' =>
    match ipv6? inner.dropLast with
    | some pieces => .ok (.ipv6 pieces)
    | none => .error .invalidIpv6
  | _ => .error .invalidIpv6

/-- The host that a domain name or an address without brackets writes. -/
def namedHost (text : List Char) : Except UrlError Host :=
  match Utf8.decode (percentDecode (Utf8.encode text)) with
  | .error _ => .error .invalidDomain
  | .ok name =>
    match asciiDomain? name with
    | none => .error .invalidDomain
    | some [] => .error .emptyHost
    | some domain =>
      if endsInNumber domain then
        match ipv4? domain with
        | some address => .ok (.ipv4 address)
        | none => .error .invalidIpv4
      else .ok (.domain domain)

/-- The host that a text writes, in a special scheme. -/
def Host.parse : List Char → Except UrlError Host
  | '[' :: inner => bracketedHost inner
  | text => namedHost text

/-- A character that may not stand in an opaque host. -/
def isForbiddenInOpaqueHost (c : Char) : Bool :=
  ['\x00', '\t', '\n', '\r', ' ', '#', '/', ':', '<', '>', '?', '@', '[', '\\', ']', '^',
    '|'].contains c

/-- Checks an opaque host. -/
def checkOpaqueHost : List Char → Except UrlError Unit
  | '[' :: inner => do let _ ← bracketedHost inner
  | text => if text.any isForbiddenInOpaqueHost then .error .invalidOpaqueHost else .ok ()

end LspClient.Url
