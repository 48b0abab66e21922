import SessionHost.Toml.Atom

/-!
Tables, and the rules by which the lines of a document build them up.

A table may be opened by a header, be implied by a longer header or by a dotted key, or stand
inline as a value. What may be added to it later depends on which of these it is, by the rules of
the library `toml` 0.9.
-/

namespace SessionHost.Toml

/-- How a table came to be. -/
inductive Origin where
  /-- By a header of its own, or as the document itself. -/
  | header
  /-- By a header that names a table inside it. -/
  | implied
  /-- By a dotted key. -/
  | dotted
  /-- As a value between braces. -/
  | inline
deriving DecidableEq, Repr

/-- A value of a document. -/
inductive Value where
  | text (chars : List Char)
  | atom (atom : Atom)
  | array (items : List Value)
  /-- The array of the tables whose headers stand in double brackets. -/
  | tables (items : List Value)
  | table (origin : Origin) (entries : List (List Char × Value))

/-- A table: how it came to be, and its keys with their values. -/
structure Table where
  origin : Origin
  entries : List (List Char × Value)

namespace Table

/-- A table with nothing in it. -/
def empty (origin : Origin) : Table := ⟨origin, []⟩

def value (table : Table) : Value := .table table.origin table.entries

/-- The value of a key. -/
def get? (table : Table) (key : List Char) : Option Value := table.entries.lookup key

/-- Replaces the value of a key where it stands, or adds the key at the end. -/
def setEntry (key : List Char) (value : Value) :
    List (List Char × Value) → List (List Char × Value)
  | [] => [(key, value)]
  | (k, v) :: rest => if k = key then (k, value) :: rest else (k, v) :: setEntry key value rest

def set (table : Table) (key : List Char) (value : Value) : Table :=
  { table with entries := setEntry key value table.entries }

/-- Adds a key that the table does not have yet. -/
def insert? (table : Table) (key : List Char) (value : Value) : Option Table :=
  match table.get? key with
  | none => some { table with entries := table.entries ++ [(key, value)] }
  | some _ => none

/-- Whether a key path may pass through a table. A dotted key passes only through tables that
exist for what they contain, and nothing passes through an inline one. -/
def passable (dotted : Bool) : Origin → Bool
  | .inline => false
  | .header => !dotted
  | .implied => true
  | .dotted => true

/-- Changes the table that a path of keys leads to, and makes those on the way that are missing,
each with the given origin. The last element stands for an array of tables. -/
def descend (dotted : Bool) (missing : Origin) (change : Table → Option Table) :
    List (List Char) → Table → Option Table
  | [], table => change table
  | key :: rest, table => do
      match table.get? key with
      | none =>
          let inner ← descend dotted missing change rest (empty missing)
          return table.set key inner.value
      | some (.table origin entries) =>
          if passable dotted origin then
            let inner ← descend dotted missing change rest ⟨origin, entries⟩
            return table.set key inner.value
          else none
      | some (.tables items) =>
          match items.getLast? with
          | some (.table origin entries) =>
              let inner ← descend dotted missing change rest ⟨origin, entries⟩
              return table.set key (.tables (items.dropLast ++ [inner.value]))
          | _ => none
      | some _ => none

/-- Adds a key with its path to a table. The table that receives the key must be one that the path
itself stands for, and must not have the key. -/
def addKey? (path : List (List Char)) (key : List Char) (value : Value) (table : Table) :
    Option Table :=
  descend true .dotted
    (fun inner =>
      if decide (inner.origin = .dotted) = path.isEmpty then none else inner.insert? key value)
    path table

/-- Opens a table under a key: a new one, or one that other headers implied. -/
def open? (key : List Char) (table : Table) : Option Table :=
  match table.get? key with
  | none => some (table.set key (empty .header).value)
  | some (.table .implied entries) => some (table.set key (.table .header entries))
  | some _ => none

/-- Opens a further element of the array of tables under a key. -/
def openElement? (key : List Char) (table : Table) : Option Table :=
  match table.get? key with
  | none => some (table.set key (.tables [(empty .header).value]))
  | some (.tables items) =>
      some (table.set key (.tables (items ++ [(empty .header).value])))
  | some _ => none

end Table

end SessionHost.Toml
