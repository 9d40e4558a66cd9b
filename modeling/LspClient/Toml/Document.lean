import LspClient.Toml.Quoted
import LspClient.Toml.Scalar

/-!
# Documents

A document is lines of three kinds: keys with their values, headers, and lines with at
most a comment. Arrays and inline tables may go on over several lines and end in a comma.
What does not fit is no document; why it does not is not told.
-/

namespace LspClient.Toml

/-- How deep arrays and inline tables may nest. -/
def maxDepth : Nat := 80

/-! ## Between the values -/

/-- What follows blanks, line ends and comments. -/
def afterFiller? (inComment : Bool) : List Char → Option (List Char)
  | [] => some []
  | '\n' :: rest => afterFiller? false rest
  | '\r' :: '\n' :: rest => afterFiller? false rest
  | c :: rest =>
    if inComment then (if isTextChar c then afterFiller? true rest else none)
    else if isSpace c then afterFiller? false rest
    else if c = '#' then afterFiller? true rest
    else some (c :: rest)

/-- What follows the end of a line, before which there may be blanks and a comment. -/
def afterLine? (inComment : Bool) : List Char → Option (List Char)
  | [] => some []
  | '\n' :: rest => some rest
  | '\r' :: '\n' :: rest => some rest
  | c :: rest =>
    if inComment then (if isTextChar c then afterLine? true rest else none)
    else if isSpace c then afterLine? false rest
    else if c = '#' then afterLine? true rest
    else none

/-! ## Keys -/

/-- A character of a key without quotes. -/
def isKeyChar (c : Char) : Bool := c.isAlphanum || c = '-' || c = '_'

/-- Reads one part of a key. -/
def keyPart? (input : List Char) : Option (String × List Char) :=
  match quotedLine? input with
  | some (text, rest) => some (String.ofList text, rest)
  | none =>
    match input.takeWhile isKeyChar with
    | [] => none
    | text => some (String.ofList text, input.dropWhile isKeyChar)

/-- How many parts a key may have. -/
def maxKeyParts : Nat := 80

/-- Reads a key: its parts with dots between them, at most as many as the first argument
says. -/
def key? : Nat → List Char → Option (List String × List Char)
  | 0, _ => none
  | fuel + 1, input => do
    let (part, rest) ← keyPart? (input.dropWhile isSpace)
    match rest.dropWhile isSpace with
    | '.' :: rest =>
      let (parts, rest) ← key? fuel rest
      return (part :: parts, rest)
    | rest => return ([part], rest)

/-- What follows blanks. -/
def afterSpace (input : List Char) : Option (List Char) := some (input.dropWhile isSpace)

/-- Reads a key and the value after it, with what `skip` takes around the equals sign. -/
def pair? (skip : List Char → Option (List Char))
    (value : List Char → Option (Value × List Char)) (input : List Char) :
    Option ((List String × Value) × List Char) := do
  let (path, rest) ← key? maxKeyParts input
  match ← skip rest with
  | '=' :: rest =>
    let (v, rest) ← value (← skip rest)
    return ((path, v), rest)
  | _ => none

/-- Adds a key with its value to a table. -/
def Table.insert? (path : List String) (value : Value) (t : Table) : Option Table :=
  match path.getLast? with
  | some key => t.insertAt path.dropLast key value
  | none => none

/-! ## Values -/

/-- Reads the items of an array up to its closing bracket. `done` are the items so far in
reverse; `fuel` is at least the number of characters. -/
def arrayItems? (value : List Char → Option (Value × List Char)) :
    Nat → List Value → List Char → Option (Value × List Char)
  | 0, _, _ => none
  | fuel + 1, done, input => do
    match ← afterFiller? false input with
    | ']' :: rest => return (.array done.reverse false, rest)
    | input =>
      let (v, rest) ← value input
      match ← afterFiller? false rest with
      | ',' :: rest => arrayItems? value fuel (v :: done) rest
      | ']' :: rest => return (.array (v :: done).reverse false, rest)
      | _ => none

/-- Reads the entries of an inline table up to its closing brace. Lines may end between any
two parts of an entry but those of its key. -/
def inlineEntries? (value : List Char → Option (Value × List Char)) :
    Nat → Table → List Char → Option (Value × List Char)
  | 0, _, _ => none
  | fuel + 1, t, input => do
    match ← afterFiller? false input with
    | '\x7d' :: rest => return (t.toValue, rest)
    | input =>
      let ((path, v), rest) ← pair? (afterFiller? false) value input
      let t ← t.insert? path v
      match ← afterFiller? false rest with
      | ',' :: rest => inlineEntries? value fuel t rest
      | '\x7d' :: rest => return (t.toValue, rest)
      | _ => none

/-- Reads a value in which arrays and inline tables nest at most `depth` deep. -/
def value? : Nat → List Char → Option (Value × List Char)
  | depth, input =>
    match input with
    | '[' :: rest =>
      match depth with
      | 0 => none
      | depth + 1 => arrayItems? (value? depth) (rest.length + 1) [] rest
    | '\x7b' :: rest =>
      match depth with
      | 0 => none
      | depth + 1 => inlineEntries? (value? depth) (rest.length + 1) ⟨.inline, []⟩ rest
    | '"' :: _ | '\'' :: _ => (quoted? input).map fun (text, rest) => (.string (String.ofList text), rest)
    | _ =>
      let (text, rest) := splitScalar input
      (scalar? text).map fun v => (v, rest)

/-! ## Lines -/

/-- A document as far as it was read: its table, and the path of the last header. -/
structure Draft where
  root : Table := ⟨.header, []⟩
  path : List String := []

/-- Takes in a key with its value. -/
def Draft.insert? (d : Draft) (path : List String) (value : Value) : Option Draft := do
  let root ← d.root.changeAt false (Table.insert? path value) d.path
  return { d with root }

/-- Takes in a header. -/
def Draft.enter? (d : Draft) (writeHeader : String → Table → Option Table) (path : List String) :
    Option Draft := do
  let key ← path.getLast?
  let root ← d.root.changeAt false (writeHeader key) path.dropLast
  return ⟨root, path⟩

/-- Reads the path of a header and its closing brackets. -/
def headerPath? (closing : List Char) (input : List Char) : Option (List String × List Char) := do
  let (path, rest) ← key? maxKeyParts input
  if closing.isPrefixOf rest then return (path, rest.drop closing.length) else none

/-- Reads what stands on a line, if anything does. -/
def line? (d : Draft) (input : List Char) : Option (Draft × List Char) :=
  match input with
  | [] => some (d, [])
  | '\n' :: _ | '\r' :: _ | '#' :: _ => some (d, input)
  | '[' :: '[' :: rest => do
    let (path, rest) ← headerPath? [']', ']'] rest
    return (← d.enter? Table.writeItemHeader path, rest)
  | '[' :: rest => do
    let (path, rest) ← headerPath? [']'] rest
    return (← d.enter? Table.writeHeader path, rest)
  | input => do
    let ((path, v), rest) ← pair? afterSpace (value? maxDepth) input
    return (← d.insert? path v, rest)

/-- Reads lines, at most `fuel` of them. -/
def lines? : Nat → Draft → List Char → Option Draft
  | 0, _, _ => none
  | fuel + 1, d, input => do
    match input.dropWhile isSpace with
    | [] => return d
    | input =>
      let (d, rest) ← line? d input
      lines? fuel d (← afterLine? false rest)

/-- The mark that a text in Unicode may start with. -/
def byteOrderMark : Char := '\ufeff'

/-- The entries of a document. -/
def parse? (text : List Char) : Option Entries :=
  let text :=
    match text with
    | c :: rest => if c = byteOrderMark then rest else text
    | [] => []
  (lines? (text.length + 1) {} text).map (·.root.entries)

end LspClient.Toml
