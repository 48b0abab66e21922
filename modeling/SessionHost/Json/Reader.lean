import SessionHost.Json.Skip

/-!
Reading values that are kept, and objects with known members. An array is taken for an object with
the members in their order, an unknown member is skipped, and a member that comes twice is refused,
as the library `serde_json` 1.0 does for a declared structure.
-/

namespace SessionHost.Json

/-- A reader takes the bytes from where it stands and returns what it read with the rest. -/
abbrev Reader (α : Type) := Bytes → Option (α × Bytes)

/-- Values that are kept nest at most so deep, the outermost included. -/
def deepest : Nat := 127

/-- The rest after a colon. -/
def skipColon (input : Bytes) : Option Bytes :=
  match skipBlank input with
  | 0x3A :: rest => some rest
  | _ => none

/-- A string with its opening quote. -/
def readText (input : Bytes) : Option (String × Bytes) :=
  match skipBlank input with
  | quote :: rest => readString rest
  | _ => none

/-- The items of an array after its bracket, or after a comma if `started`. Each takes the number
of those before it and changes a state. -/
def readItems {α : Type} (item : Nat → α → Reader α) (started : Bool) (index : Nat) (state : α)
    (input : Bytes) : Option (α × Bytes) :=
  match started, skipBlank input with
  | false, 0x5D :: after => some (state, after)
  | _, start =>
      match item index state start with
      | none => none
      | some (next, rest) =>
          match skipBlank rest with
          | 0x5D :: after => some (next, after)
          | 0x2C :: after =>
              if after.length < input.length then readItems item true (index + 1) next after
              else none
          | _ => none
termination_by input.length

/-- The members of an object after its brace, or after a comma if `started`. Each takes its key
and changes a state. -/
def readMembers {α : Type} (member : String → α → Reader α) (started : Bool) (state : α)
    (input : Bytes) : Option (α × Bytes) :=
  match started, skipBlank input with
  | false, 0x7D :: after => some (state, after)
  | _, start =>
      match readText start with
      | none => none
      | some (key, rest) =>
          match (skipColon rest).bind (member key state) with
          | none => none
          | some (next, rest) =>
              match skipBlank rest with
              | 0x7D :: after => some (next, after)
              | 0x2C :: after =>
                  if after.length < input.length then readMembers member true next after
                  else none
              | _ => none
termination_by input.length

/-- A value that holds no others. -/
def readSimple (input : Bytes) : Option (Value × Bytes) :=
  match input with
  | [] => none
  | b :: rest =>
      if b = 0x22 then (readString rest).map fun r => (.text r.1, r.2)
      else if b = 0x6E then (skipWord nullWord input).map fun rest => (.null, rest)
      else if b = 0x74 then (skipWord trueWord input).map fun rest => (.boolean true, rest)
      else if b = 0x66 then (skipWord falseWord input).map fun rest => (.boolean false, rest)
      else do
        let (numeral, rest) ← readNumeral input
        return (← numeral.value?, rest)

/-- The members of an object after its brace, in the order of their keys. -/
def readObject (value : Reader Value) (input : Bytes) :
    Option (List (String × Value) × Bytes) :=
  readMembers
    (fun key members input => (value input).map fun r => (insertMember key r.1 members, r.2))
    false [] input

/-- A value in which arrays and objects nest at most so deep. -/
def readValue : Nat → Bytes → Option (Value × Bytes)
  | 0, input => readSimple (skipBlank input)
  | depth + 1, input =>
      match skipBlank input with
      | 0x5B :: rest =>
          (readItems
            (fun _ items input => (readValue depth input).map fun r => (items ++ [r.1], r.2))
            false 0 [] rest).map fun r => (.array r.1, r.2)
      | 0x7B :: rest => (readObject (readValue depth) rest).map fun r => (.object r.1, r.2)
      | start => readSimple start

/-- An object whose members are known by name. An array gives them in their order instead. -/
def readRecord {α : Type} (member : String → α → Reader α) (item : Nat → α → Reader α)
    (initial : α) (input : Bytes) : Option (α × Bytes) :=
  match skipBlank input with
  | 0x5B :: rest => readItems item false 0 initial rest
  | 0x7B :: rest => readMembers member false initial rest
  | _ => none

/-- Skips a member that nobody asks for. -/
def ignore {α : Type} (state : α) : Reader α := fun input =>
  (skipValue input).map fun rest => (state, rest)

/-- The one value that a document holds. -/
def document? {α : Type} (read : Reader α) (bytes : Bytes) : Option α := do
  let (value, rest) ← read bytes
  if (skipBlank rest).isEmpty then some value else none

end SessionHost.Json
