import SessionHost.Text.Utf8

/-!
Values of JSON documents.

The modules on JSON follow the library `serde_json` 1.0, with which the program reads settings and
records; it is not part of the program. What is kept is whether a document is refused, and the
values that are asked for.
-/

namespace SessionHost.Json

/-- A value. A number is an integer where it has neither a fraction nor an exponent and fits 64
bits; any other is kept as the bits of a double. Members of an object are in the order of their
keys. -/
inductive Value where
  | null
  | boolean (value : Bool)
  | integer (value : Int)
  | float (bits : UInt64)
  | text (value : String)
  | array (items : List Value)
  | object (members : List (String × Value))

/-- Adds a member in the order of keys. A later member takes the place of an earlier one with the
same key. -/
def insertMember {α : Type} (key : String) (value : α) : List (String × α) → List (String × α)
  | [] => [(key, value)]
  | (k, v) :: rest =>
      if key = k then (key, value) :: rest
      else if key < k then (key, value) :: (k, v) :: rest
      else (k, v) :: insertMember key value rest

end SessionHost.Json
