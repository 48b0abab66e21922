import SessionHost.Toml.Expression

/-!
Reading documents.

A document is a run of lines: keys with their values, headers that open a table, and lines with
nothing but spaces and a comment. Main definition: `parse?`.

What is accepted is what the library `toml` 0.9 accepts, which reads TOML 1.1; it is not part of the
program. Only whether a document is refused is kept of its errors, and not in what words.
-/

namespace SessionHost.Toml

/-- A document while it is read: the tables so far, and the path of the one that keys go to. -/
structure Draft where
  root : Table
  place : List (List Char)

namespace Draft

/-- Nothing read yet: keys go to the document itself. -/
def fresh : Draft := ⟨.empty .header, []⟩

/-- Changes the table at a path, where headers may pass. -/
def change? (draft : Draft) (path : List (List Char)) (change : Table → Option Table) :
    Option Table :=
  draft.root.descend false .implied change path

/-- Adds a key with its value where keys go. -/
def addKey? (draft : Draft) (keys : List (List Char)) (value : Value) : Option Draft := do
  let (path, key) ← splitPath? keys
  return { draft with root := ← draft.change? draft.place (·.addKey? path key value) }

/-- Opens a table, or a further element of an array of tables, and makes keys go there. -/
def open? (draft : Draft) (element : Bool) (keys : List (List Char)) : Option Draft := do
  let (path, key) ← splitPath? keys
  let opened := fun (table : Table) =>
    if element then table.openElement? key else table.open? key
  return ⟨← draft.change? path opened, keys⟩

end Draft

/-- The keys of a header and what follows its brackets. -/
def readHeader (element : Bool) (input : List Char) :
    Option (List (List Char) × List Char) := do
  let (keys, rest) ← readPath (skipSpaces input)
  match element, skipSpaces rest with
  | false, ']' :: after => some (keys, after)
  | true, ']' :: ']' :: after => some (keys, after)
  | _, _ => none

/-- The keys and the value of a line, and what follows them. -/
def readKeyValue (input : List Char) :
    Option (List (List Char) × Value × List Char) := do
  let (keys, rest) ← readPath input
  match skipSpaces rest with
  | '=' :: after =>
      let (value, rest) ← readValue deepest (skipSpaces after)
      return (keys, value, rest)
  | _ => none

/-- One line, and the lines after it. -/
def readLine (draft : Draft) (input : List Char) : Option (Draft × List Char) :=
  match skipSpaces input with
  | '[' :: '[' :: rest => do
      let (keys, rest) ← readHeader true rest
      return (← draft.open? true keys, ← endLine rest)
  | '[' :: rest => do
      let (keys, rest) ← readHeader false rest
      return (← draft.open? false keys, ← endLine rest)
  | start =>
      if start.isEmpty || start.head?.any fun c => c = '#' || c = '\n' || c = '\r' then
        (endLine start).map fun rest => (draft, rest)
      else do
        let (keys, value, rest) ← readKeyValue start
        return (← draft.addKey? keys value, ← endLine rest)

/-- All lines. -/
def readLines (draft : Draft) (input : List Char) : Option Draft :=
  if input.isEmpty then some draft
  else
    match readLine draft input with
    | none => none
    | some (next, rest) =>
        if rest.length < input.length then readLines next rest else none
termination_by input.length

/-- The document that a text spells, if it spells one. A byte order mark may stand in front. -/
def parse? (text : String) : Option Table :=
  let chars :=
    match text.toList with
    | '\uFEFF' :: rest => rest
    | chars => chars
  (readLines .fresh chars).map Draft.root

/-! ### Looking up values of a kind -/

namespace Table

/-- The text under a key, `some none` if the key is missing, and `none` if its value is no
text. -/
def optionalText? (table : Table) (key : String) : Option (Option String) :=
  match table.get? key.toList with
  | none => some none
  | some (.text chars) => some (some (String.ofList chars))
  | some _ => none

/-- The text of a value, if it is one. -/
def textOf? : Value → Option String
  | .text chars => some (String.ofList chars)
  | _ => none

/-- The texts in the array under a key, none if the key is missing. -/
def texts? (table : Table) (key : String) : Option (List String) :=
  match table.get? key.toList with
  | none => some []
  | some (.array items) => items.mapM textOf?
  | some (.tables items) => items.mapM textOf?
  | some _ => none

end Table

end SessionHost.Toml
