import LspClient.Text.Utf8

/-!
# References to the environment

In a configured URL, `$` with a name in braces stands for the value of that variable. A
text is first taken apart into `Piece`s and then put together again with the values, so
what was put in is not looked at again. A variable that is not set stands for nothing, and
so does the empty name. A reference that is never closed stays as it is.
-/

namespace LspClient

/-- The environment of a process: variables with their values, which may be any bytes. -/
structure Environment where
  entries : List (String × Bytes) := []

namespace Environment

/-- Whether a variable can have this name. -/
def admitsName (name : String) : Bool := !name.toList.any fun c => c = '=' || c = '\x00'

/-- The bytes of a variable. -/
def bytes? (env : Environment) (name : String) : Option Bytes :=
  if admitsName name then env.entries.lookup name else none

/-- The text of a variable; a value that is no text counts as not set. -/
def text? (env : Environment) (name : String) : Option String :=
  (env.bytes? name).bind Utf8.toString?

end Environment

namespace Config

/-- A part of a text: a character that stands for itself, or a reference to a variable. -/
inductive Piece where
  | plain (c : Char)
  | reference (name : List Char)
  deriving DecidableEq, Repr

/-- Whether a character ends the name of a reference. -/
def closesName (c : Char) : Bool := c = '\x7d'

/-- The parts of a text. A reference goes up to the first closing brace after its opening
one; without one, nothing from there on is a reference. -/
def pieces : List Char → List Piece
  | [] => []
  | '$' :: '\x7b' :: rest =>
    match h : rest.dropWhile (!closesName ·) with
    | _ :: after =>
      have : after.length < rest.length := by
        have := List.Sublist.length_le (List.dropWhile_sublist (!closesName ·) (l := rest))
        rw [h] at this
        simp only [List.length_cons] at this
        omega
      .reference (rest.takeWhile (!closesName ·)) :: pieces after
    | [] => ('$' :: '\x7b' :: rest).map .plain
  | c :: rest => .plain c :: pieces rest
termination_by text => text.length

/-- The name of the variable that a part refers to. The empty name refers to none. -/
def Piece.name? : Piece → Option String
  | .plain _ => none
  | .reference name => if name.isEmpty then none else some (String.ofList name)

/-- What a part stands for. -/
def Piece.text (value? : String → Option String) (p : Piece) : List Char :=
  match p with
  | .plain c => [c]
  | .reference _ => ((p.name?.bind value?).getD "").toList

/-- What is no reference stays as it is. -/
@[simp] theorem text_plain (value? : String → Option String) (c : Char) :
    (Piece.plain c).text value? = [c] := rfl

/-- The variables that a text refers to. -/
def references (text : String) : List String := (pieces text.toList).filterMap Piece.name?

/-- A text with its references to the environment replaced. -/
def expand (env : Environment) (text : String) : String :=
  String.ofList ((pieces text.toList).flatMap (Piece.text env.text?))

end Config

end LspClient
