import SessionHost.Toml.Quoted
import SessionHost.Toml.Table

/-!
Reading keys and values.

Each reader takes the characters from where it stands and returns what it read with the rest, or
nothing if the characters are not of its form. How deep values may nest, and what may stand in an
inline table, is as in the library `toml` 0.9.
-/

namespace SessionHost.Toml

/-- The deepest nesting of arrays and inline tables. -/
def deepest : Nat := 80

/-- The most keys that one path may hold. -/
def longestPath : Nat := 80

/-- One key: bare, or a string on one line. -/
def readKey (input : List Char) : Option (List Char × List Char) :=
  match input with
  | '"' :: _ => readLineString input
  | '\'' :: _ => readLineString input
  | _ =>
      let key := input.takeWhile isBare
      if key.isEmpty then none else some (key, input.drop key.length)

/-- Keys with dots between them, at most as many as the limit. -/
def readKeys : Nat → List Char → Option (List (List Char) × List Char)
  | 0, _ => none
  | limit + 1, input => do
      let (key, rest) ← readKey input
      match skipSpaces rest with
      | '.' :: more =>
          let (keys, rest) ← readKeys limit (skipSpaces more)
          return (key :: keys, rest)
      | rest => return ([key], rest)

/-- A path of keys. -/
def readPath (input : List Char) : Option (List (List Char) × List Char) :=
  readKeys longestPath input

/-- The keys of a path before its last, and the last. -/
def splitPath? (keys : List (List Char)) : Option (List (List Char) × List Char) :=
  keys.getLast?.map fun key => (keys.dropLast, key)

/-- The items of an array and what follows its bracket. -/
def readItems (read : List Char → Option (Value × List Char)) (input : List Char) :
    Option (List Value × List Char) :=
  match skipFiller false input with
  | none => none
  | some (']' :: after) => some ([], after)
  | some start =>
      match read start with
      | none => none
      | some (value, rest) =>
          match skipFiller false rest with
          | some (']' :: after) => some ([value], after)
          | some (',' :: after) =>
              if after.length < input.length then
                (readItems read after).map fun items => (value :: items.1, items.2)
              else none
          | _ => none
termination_by input.length

/-- One key of an inline table with its value, and the rest after the filler behind it. -/
def readMember (read : List Char → Option (Value × List Char)) (table : Table)
    (input : List Char) : Option (Table × List Char) := do
  let (keys, rest) ← readPath input
  let (path, key) ← splitPath? keys
  let rest ← after? '=' (← skipFiller false rest)
  let (value, rest) ← read (← skipFiller false rest)
  return (← table.addKey? path key value, ← skipFiller false rest)
where
  after? (mark : Char) : List Char → Option (List Char)
    | c :: rest => if c = mark then some rest else none
    | [] => none

/-- The rest of an inline table with these keys so far, and what follows its brace. -/
def readMembers (read : List Char → Option (Value × List Char)) (table : Table)
    (input : List Char) : Option (Table × List Char) :=
  match skipFiller false input with
  | none => none
  | some ('\x7d' :: after) => some (table, after)
  | some start =>
      match readMember read table start with
      | some (grown, '\x7d' :: after) => some (grown, after)
      | some (grown, ',' :: after) =>
          if after.length < input.length then readMembers read grown after else none
      | _ => none
termination_by input.length

/-- A value that holds no others. -/
def readSimple (input : List Char) : Option (Value × List Char) :=
  match input with
  | '"' :: _ => (readString input).map fun r => (.text r.1, r.2)
  | '\'' :: _ => (readString input).map fun r => (.text r.1, r.2)
  | _ => (Atom.read? input).map fun r => (.atom r.1, r.2)

/-- A value in which arrays and inline tables nest at most so deep. -/
def readValue : Nat → List Char → Option (Value × List Char)
  | 0, input => readSimple input
  | depth + 1, '[' :: rest =>
      (readItems (readValue depth) rest).map fun r => (.array r.1, r.2)
  | depth + 1, '\x7b' :: rest =>
      (readMembers (readValue depth) (.empty .inline) rest).map fun r => (r.1.value, r.2)
  | _ + 1, input => readSimple input

end SessionHost.Toml
