import LspClient.Url.Form
import LspClient.Url.Host

/-!
# URLs

`parse` reads the URL of a WebSocket endpoint as browsers read it: blanks around it and
line ends in it are skipped, backslashes count as slashes, dots in the path are resolved,
and what may not stand as it is gets percent-encoded. `Url.text` writes it.

URLs of other schemes are read as far as needed to tell whether they are well-formed.
-/

namespace LspClient

/-- The URL of an endpoint. Its parts are stored as they are written. -/
structure Url where
  scheme : List Char
  username : List Char := []
  password : List Char := []
  host : Url.Host
  /-- The port, unless it is the usual one of the scheme. -/
  port? : Option Nat := none
  /-- The segments of the path, of which there is at least one. -/
  path : List (List Char)
  query? : Option (List Char) := none
  fragment? : Option (List Char) := none
  deriving DecidableEq, Repr

namespace Url

/-! ## Writing -/

/-- The user name and the password with what divides them from the host. -/
def userinfoText (url : Url) : List Char :=
  url.username ++ (if url.password.isEmpty then [] else ':' :: url.password) ++
    (if url.username.isEmpty && url.password.isEmpty then [] else ['@'])

/-- The port with its colon. -/
def portText (url : Url) : List Char :=
  match url.port? with
  | some port => ':' :: Nat.toDigits 10 port
  | none => []

/-- A part that may be missing, with the character that announces it. -/
def partText (mark : Char) (part? : Option (List Char)) : List Char :=
  match part? with
  | some part => mark :: part
  | none => []

/-- The characters of a URL. -/
def chars (url : Url) : List Char :=
  url.scheme ++ ':' :: '/' :: '/' :: (url.userinfoText ++ url.host.text ++ url.portText ++
    url.path.flatMap ('/' :: ·) ++ partText '?' url.query? ++ partText '#' url.fragment?)

/-- The text of a URL. -/
def text (url : Url) : String := String.ofList url.chars

/-- The URL with one more pair at the end of its query. -/
def withPair (url : Url) (name value : List Char) : Url :=
  { url with query? := some (appendPair (url.query?.getD []) name value) }

/-! ## Schemes -/

/-- The usual port of a scheme that is special and has hosts of its own. -/
def usualPort? (scheme : List Char) : Option Nat :=
  match String.ofList scheme with
  | "ws" | "http" => some 80
  | "wss" | "https" => some 443
  | "ftp" => some 21
  | _ => none

/-- A character that may follow in the name of a scheme. -/
def isSchemeChar (c : Char) : Bool := c.isAlphanum || ['+', '-', '.'].contains c

/-- The scheme in lower case, and what follows its colon. -/
def splitScheme? (input : List Char) : Option (List Char × List Char) :=
  match input.takeWhile isSchemeChar, input.dropWhile isSchemeChar with
  | first :: more, ':' :: rest =>
    if first.isAlpha then some ((first :: more).map Char.toLower, rest) else none
  | _, _ => none

/-! ## Authority -/

/-- The user name and the password before the host. -/
structure Credentials where
  username : List Char := []
  password : List Char := []

/-- Reads credentials; the first colon divides them. -/
def Credentials.parse (text : List Char) : Credentials where
  username := percentEncode inUserinfoSet (text.takeWhile (· != ':'))
  password := percentEncode inUserinfoSet ((text.dropWhile (· != ':')).drop 1)

/-- Splits at the last `@`: the credentials, if there are any, and the rest. -/
def splitCredentials (authority : List Char) : Option (List Char) × List Char :=
  if authority.contains '@' then
    let hostAndPort := (authority.reverse.takeWhile (· != '@')).reverse
    (some (authority.take (authority.length - hostAndPort.length - 1)), hostAndPort)
  else (none, authority)

/-- Splits at the colon before the port, which is none within brackets. -/
def splitPort (inBrackets : Bool) : List Char → List Char × Option (List Char)
  | [] => ([], none)
  | c :: rest =>
    if c = ':' && !inBrackets then ([], some rest)
    else
      let (host, port?) := splitPort (c = '[' || (inBrackets && c != ']')) rest
      (c :: host, port?)

/-- Reads a port; no digits stand for no port. -/
def parsePort (digits : List Char) : Except UrlError (Option Nat) :=
  match Text.numberIn? 10 digits with
  | none => .error .invalidPort
  | some n =>
    if digits.isEmpty then .ok none
    else if 65535 < n then .error .invalidPort
    else .ok (some n)

/-! ## Path -/

/-- A segment that stands for the place it is at. -/
def isSingleDot (segment : List Char) : Bool :=
  [".", "%2e"].contains (String.ofList (segment.map Char.toLower))

/-- A segment that stands for the place above. -/
def isDoubleDot (segment : List Char) : Bool :=
  ["..", ".%2e", "%2e.", "%2e%2e"].contains (String.ofList (segment.map Char.toLower))

/-- A segment that names a drive, which is never left. -/
def isDrive : List Char → Bool
  | [c, mark] => c.isAlpha && (mark = ':' || mark = '|')
  | _ => false

/-- The path above; the last segment is the first one of the list. -/
def leaveSegment : List (List Char) → List (List Char)
  | [] => []
  | segment :: above => if isDrive segment then segment :: above else above

/-- Resolves dots. `above` are the segments so far, the last one first. -/
def resolveDots (above : List (List Char)) : List (List Char) → List (List Char)
  | [] => above.reverse
  | segment :: rest =>
    let isLast := rest.isEmpty
    if isDoubleDot segment then
      resolveDots ((if isLast then [[]] else []) ++ leaveSegment above) rest
    else if isSingleDot segment then resolveDots ((if isLast then [[]] else []) ++ above) rest
    else resolveDots (segment :: above) rest

/-- A slash, or a backslash, which counts as one. -/
def isSlash (c : Char) : Bool := c = '/' || c = '\\'

/-- The segments of a path. -/
def parsePath (text : List Char) : List (List Char) :=
  let text :=
    match text with
    | c :: rest => if isSlash c then rest else c :: rest
    | [] => []
  resolveDots [] ((splitAt isSlash text).map (percentEncode inPathSet))

/-! ## Reading -/

/-- A URL without the blanks and controls around it and the tabs and line ends in it. -/
def cleaned (input : List Char) : List Char :=
  let isOuter (c : Char) : Bool := c.toNat ≤ 0x20
  (((input.dropWhile isOuter).reverse.dropWhile isOuter).reverse).filter
    fun c => c != '\t' && c != '\n' && c != '\r'

/-- The query in what follows a path. -/
def tailQuery? : List Char → Option (List Char)
  | '?' :: rest => some (percentEncode inQuerySet (rest.takeWhile (· != '#')))
  | _ => none

/-- The fragment in what follows a path. -/
def tailFragment? (tail : List Char) : Option (List Char) :=
  match tail.dropWhile (· != '#') with
  | _ :: fragment => some (percentEncode inFragmentSet fragment)
  | [] => none

/-- Reads what follows the colon of a special scheme with this usual port. -/
def parseSpecial (scheme : List Char) (usualPort : Nat) (rest : List Char) :
    Except UrlError Url := do
  let rest := rest.dropWhile isSlash
  let endsAuthority (c : Char) : Bool := isSlash c || c = '?' || c = '#'
  let authority := rest.takeWhile (!endsAuthority ·)
  let rest := rest.dropWhile (!endsAuthority ·)
  let (credentials?, hostAndPort) := splitCredentials authority
  let credentials := Credentials.parse (credentials?.getD [])
  let (host, portDigits?) := splitPort false hostAndPort
  if host.isEmpty then .error .emptyHost
  else
    let host ← Host.parse host
    let port? ← parsePort (portDigits?.getD [])
    let endsPath (c : Char) : Bool := c = '?' || c = '#'
    let tail := rest.dropWhile (!endsPath ·)
    return {
      scheme, host
      query? := tailQuery? tail
      fragment? := tailFragment? tail
      username := credentials.username
      password := credentials.password
      port? := if port? = some usualPort then none else port?
      path := parsePath (rest.takeWhile (!endsPath ·)) }

/-! ## Other schemes -/

/-- Checks the authority of a scheme that is not special. -/
def checkAuthority (rest : List Char) : Except UrlError Unit := do
  let endsAuthority (c : Char) : Bool := c = '/' || c = '?' || c = '#'
  let authority := rest.takeWhile (!endsAuthority ·)
  let hasMore := !(rest.dropWhile (!endsAuthority ·)).isEmpty
  let (credentials?, hostAndPort) := splitCredentials authority
  let (host, portDigits?) := splitPort false hostAndPort
  if credentials? = some [] && hostAndPort.isEmpty && hasMore then .error .emptyHost
  else
    checkOpaqueHost host
    if host.isEmpty && portDigits?.isSome then .error .emptyHost
    else
      let _ ← parsePort ((portDigits?.getD []).takeWhile (· != '\\'))
      let credentials := Credentials.parse (credentials?.getD [])
      let hasCredentials := !credentials.username.isEmpty || !credentials.password.isEmpty
      if host.isEmpty && hasCredentials then .error .emptyHost else .ok ()

/-- Checks the host of a file. -/
def checkFileHost (rest : List Char) : Except UrlError Unit :=
  match rest with
  | a :: b :: rest =>
    if isSlash a && isSlash b then
      let host := rest.takeWhile fun c => !isSlash c && c != '?' && c != '#'
      if host.isEmpty || isDrive host then .ok () else do let _ ← Host.parse host
    else .ok ()
  | _ => .ok ()

/-- Checks what follows the colon of a scheme that is neither special nor that of files. -/
def checkOther (rest : List Char) : Except UrlError Unit :=
  match rest with
  | '/' :: '/' :: rest => checkAuthority rest
  | _ => .ok ()

/-- What a well-formed URL is. -/
inductive Parsed where
  /-- The URL of a WebSocket. -/
  | socket (url : Url)
  /-- A URL of a scheme that is none of a WebSocket. -/
  | other (scheme : String)

/-- Reads a URL. -/
def parse (input : List Char) : Except UrlError Parsed :=
  match splitScheme? (cleaned input) with
  | none => .error .relative
  | some (scheme, rest) => do
    let name := String.ofList scheme
    match usualPort? scheme with
    | some port =>
      let url ← parseSpecial scheme port rest
      return if name = "ws" || name = "wss" then .socket url else .other name
    | none =>
      if name = "file" then checkFileHost rest else checkOther rest
      return .other name

end Url

end LspClient
