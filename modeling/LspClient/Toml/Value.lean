/-!
# Configuration values

The values of a TOML document, as far as a configuration looks at them: the value of a
float or of a date does not matter, only that it is one. `insertAt` and the functions for
headers say which tables a document may still add to: a table is written once, by one
header, by dotted keys, or inline. A table that a header further down its path has named
is not written yet.
-/

namespace LspClient.Toml

/-- How a table came to be. -/
inductive TableKind where
  /-- A header further down its path names it. -/
  | implied
  /-- Dotted keys write it. -/
  | dotted
  /-- A header of its own, or the start of the document, writes it. -/
  | header
  /-- It is written between braces. -/
  | inline
  deriving DecidableEq, Repr

/-- A value. -/
inductive Value where
  | string (text : String)
  | integer (value : Int)
  | float
  /-- A number that no reader takes: a great integer, or a float that is not finite. -/
  | excessive
  | boolean (value : Bool)
  | dateTime
  /-- An array; one that is written by headers has tables only. -/
  | array (items : List Value) (byHeaders : Bool)
  | table (kind : TableKind) (entries : List (String × Value))

mutual

/-- Whether a value can be read, if only to skip it. -/
def Value.isReadable : Value → Bool
  | .excessive => false
  | .array items _ => areReadable items
  | .table _ entries => haveReadable entries
  | _ => true

/-- Whether all items can be read. -/
def areReadable : List Value → Bool
  | [] => true
  | value :: rest => value.isReadable && areReadable rest

/-- Whether the values of all entries can be read. -/
def haveReadable : List (String × Value) → Bool
  | [] => true
  | (_, value) :: rest => value.isReadable && haveReadable rest

end

/-- The entries of a table, each key once. -/
abbrev Entries := List (String × Value)

/-- The entries with the value of a key replaced, or with a new key at the end. -/
def Entries.put (entries : Entries) (key : String) (value : Value) : Entries :=
  if (entries.lookup key).isSome then
    entries.map fun entry => if entry.1 = key then (key, value) else entry
  else entries ++ [(key, value)]

/-- A table that may be changed. -/
structure Table where
  kind : TableKind
  entries : Entries := []

/-- The table as a value. -/
def Table.toValue (t : Table) : Value := .table t.kind t.entries

/-- Whether a step of a path may enter a table: never one written inline, and a dotted key
never one with a header of its own. -/
def Table.isOpen (t : Table) (isDotted : Bool) : Bool :=
  t.kind != .inline && !(isDotted && t.kind == .header)

/-- Changes the table at the end of a path. Tables that are missing on the way are made;
of an array of tables the last one is entered. A table that dotted keys enter is one of
dotted keys from then on. -/
def Table.changeAt (isDotted : Bool) (change : Table → Option Table) :
    List String → Table → Option Table
  | [], t => change t
  | key :: path, t => do
    match t.entries.lookup key with
    | none =>
      let fresh : Table := ⟨if isDotted then .dotted else .implied, []⟩
      let inner ← Table.changeAt isDotted change path fresh
      return { t with entries := t.entries.put key inner.toValue }
    | some (.table kind entries) =>
      if Table.isOpen ⟨kind, entries⟩ isDotted then
        let inner ← Table.changeAt isDotted change path ⟨if isDotted then .dotted else kind, entries⟩
        return { t with entries := t.entries.put key inner.toValue }
      else none
    | some (.array items true) =>
      match items.getLast? with
      | some (.table kind entries) =>
        let inner ← Table.changeAt isDotted change path ⟨kind, entries⟩
        return { t with entries := t.entries.put key (.array (items.dropLast ++ [inner.toValue]) true) }
      | _ => none
    | some _ => none

/-- Adds a key that the table does not have yet. -/
def Table.add (key : String) (value : Value) (t : Table) : Option Table :=
  if (t.entries.lookup key).isSome then none
  else some { t with entries := t.entries.put key value }

/-- Adds a key with its path. The table that a path leads to has to be one of dotted keys. -/
def Table.insertAt (path : List String) (key : String) (value : Value) (t : Table) :
    Option Table :=
  t.changeAt true
    (fun inner =>
      if !path.isEmpty && inner.kind != .dotted then none else inner.add key value) path

/-- Writes the header of a table: the table is new, or other headers have named it. -/
def Table.writeHeader (key : String) (t : Table) : Option Table :=
  match t.entries.lookup key with
  | none => some { t with entries := t.entries.put key (.table .header []) }
  | some (.table .implied entries) =>
    some { t with entries := t.entries.put key (.table .header entries) }
  | some _ => none

/-- Writes a header that adds a table to an array of tables. -/
def Table.writeItemHeader (key : String) (t : Table) : Option Table :=
  match t.entries.lookup key with
  | none => some { t with entries := t.entries.put key (.array [.table .header []] true) }
  | some (.array items true) =>
    some { t with entries := t.entries.put key (.array (items ++ [.table .header []]) true) }
  | some _ => none

end LspClient.Toml
