import LspClient.Config.Basic

/-!
# Configuration files

A configuration lies at a path that the environment may give, or in the home directory.
Loading from the usual place takes a missing file for no configuration; a file that is
asked for by name has to be there.
-/

namespace LspClient

/-- What is found at a path. -/
inductive FileContent where
  | missing
  | directory
  /-- Something that cannot be read, for this reason. -/
  | barred (reason : String)
  | data (bytes : Bytes)
  deriving DecidableEq, Repr

/-- Why a file could not be read. -/
inductive FileError where
  | notFound
  | isDirectory
  | barred (reason : String)
  | notText
  deriving DecidableEq, Repr

/-- The wording of a file error. -/
def FileError.message : FileError → String
  | .notFound => "No such file or directory (os error 2)"
  | .isDirectory => "Is a directory (os error 21)"
  | .barred reason => reason
  | .notText => "stream did not contain valid UTF-8"

/-- The text of a file. -/
def FileContent.text : FileContent → Except FileError (List Char)
  | .missing => .error .notFound
  | .directory => .error .isDirectory
  | .barred reason => .error (.barred reason)
  | .data bytes =>
    match Utf8.decode bytes with
    | .ok text => .ok text
    | .error _ => .error .notText

/-- Why there is no configuration. -/
inductive ConfigError where
  | unreadable (path : String) (cause : FileError)
  | malformed (path : String)
  deriving DecidableEq, Repr

/-- The path that an error is about. -/
def ConfigError.path : ConfigError → String
  | .unreadable path _ => path
  | .malformed path => path

/-- The wording of a configuration error. -/
def ConfigError.message : ConfigError → String
  | .unreadable path cause => "failed to read config at " ++ path ++ ": " ++ cause.message
  | .malformed path => "failed to parse config at " ++ path

namespace Config

/-- The variable that gives the path of the configuration. -/
def pathVariable : String := "TETHER_CONFIG"

/-- A path below a directory. -/
def joinPath (directory name : String) : String :=
  if directory.endsWith "/" then directory ++ name else directory ++ "/" ++ name

/-- The path that a variable gives, if it is set to something. What is no text in it is
shown as such. -/
def pathOf? (env : Environment) (name : String) : Option String :=
  (env.bytes? name).bind fun value => if value.isEmpty then none else some (Utf8.display value)

/-- The path of the configuration: the one that the environment gives, or the usual one in
the home directory. -/
def path? (env : Environment) : Option String :=
  match pathOf? env pathVariable with
  | some path => some path
  | none => (pathOf? env "HOME").map fun home => joinPath (joinPath home ".tether") "config.toml"

/-- Reads the configuration that was found at a path. -/
def loadFrom (path : String) (content : FileContent) : Except ConfigError Config :=
  match content.text with
  | .error cause => .error (.unreadable path cause)
  | .ok text =>
    match parse? text with
    | some config => .ok config
    | none => .error (.malformed path)

/-- Reads the configuration from its usual place; there may be none. -/
def load (env : Environment) (find : String → FileContent) : Except ConfigError (Option Config) :=
  match path? env with
  | none => .ok none
  | some path =>
    match find path with
    | .missing => .ok none
    | content => (loadFrom path content).map some

end Config

end LspClient
