import SessionHost.Json.Number
import SessionHost.Json.Text

/-!
Skipping values that nobody asks for, however deep they nest, as the library `serde_json` 1.0 skips
an unknown member.
-/

namespace SessionHost.Json

/-- The rest after the spaces and line ends in front. -/
def skipBlank (input : Bytes) : Bytes :=
  input.dropWhile fun b => b = 0x20 || b = 0x0A || b = 0x09 || b = 0x0D

/-- The rest after a word, if it stands in front. -/
def skipWord (word : Bytes) (input : Bytes) : Option Bytes :=
  if word.isPrefixOf input then some (input.drop word.length) else none

def nullWord : Bytes := Text.encode "null"

def trueWord : Bytes := Text.encode "true"

def falseWord : Bytes := Text.encode "false"

/-- What is open around a value. -/
inductive Enclosure where
  | array
  | object
deriving DecidableEq, Repr

/-- What may come next. -/
inductive Expected where
  | value
  /-- An item, or the end of an array that was just opened. -/
  | item
  /-- A key, or the end of an object that was just opened. -/
  | member
  /-- A key. -/
  | key
  /-- A comma or the end of what is open. -/
  | more
deriving DecidableEq, Repr

/-- One step of skipping: what comes next, what is open, and the rest. -/
abbrev Progress := Expected × List Enclosure × Bytes

/-- Skips the start of a value: a whole simple one, or the bracket of an array or object. -/
def skipStart (enclosing : List Enclosure) (input : Bytes) : Option Progress :=
  match input with
  | [] => none
  | b :: rest =>
      if b = 0x5B then some (.item, .array :: enclosing, rest)
      else if b = 0x7B then some (.member, .object :: enclosing, rest)
      else
        let after :=
          if b = 0x22 then skipString rest
          else if b = 0x6E then skipWord nullWord input
          else if b = 0x74 then skipWord trueWord input
          else if b = 0x66 then skipWord falseWord input
          else (readNumeral input).map Prod.snd
        after.map fun rest => (.more, enclosing, rest)

/-- Skips a key and its colon. -/
def skipKey (enclosing : List Enclosure) (input : Bytes) : Option Progress :=
  match input with
  | quote :: rest => do
      match skipBlank (← skipString rest) with
      | 0x3A :: after => some (.value, enclosing, after)
      | _ => none
  | _ => none

/-- One step. -/
def skipStep (expected : Expected) (enclosing : List Enclosure) (input : Bytes) :
    Option Progress :=
  let input := skipBlank input
  match expected, enclosing, input with
  | .item, .array :: outer, 0x5D :: rest => some (.more, outer, rest)
  | .member, .object :: outer, 0x7D :: rest => some (.more, outer, rest)
  | .more, .array :: outer, 0x5D :: rest => some (.more, outer, rest)
  | .more, .object :: outer, 0x7D :: rest => some (.more, outer, rest)
  | .more, .array :: outer, 0x2C :: rest => some (.value, .array :: outer, rest)
  | .more, .object :: outer, 0x2C :: rest => some (.key, .object :: outer, rest)
  | .more, _, _ => none
  | .member, _, _ => skipKey enclosing input
  | .key, _, _ => skipKey enclosing input
  | .item, _, _ => skipStart enclosing input
  | .value, _, _ => skipStart enclosing input

/-- Steps until nothing is open. Every step reads at least one byte, so the length of the input
bounds their number. -/
def skipFrom : Nat → Progress → Option Bytes
  | _, (.more, [], rest) => some rest
  | 0, _ => none
  | fuel + 1, (expected, enclosing, input) =>
      match skipStep expected enclosing input with
      | some next => skipFrom fuel next
      | none => none

/-- What follows one value, if a value stands in front. -/
def skipValue (input : Bytes) : Option Bytes :=
  skipFrom (input.length + 1) (.value, [], input)

end SessionHost.Json
