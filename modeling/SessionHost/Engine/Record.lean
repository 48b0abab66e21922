import SessionHost.Engine.Error
import SessionHost.Json.Reader

/-!
Records: the saved states of an application, one in each JSON file of a directory.
-/

namespace SessionHost.Engine

/-- A saved state: where it was saved, and the values that were current there, in the order of
their names. -/
structure SavedRecord where
  paragraph : String
  act : UInt64
  locals : List (String × Json.Value)

namespace SavedRecord

/-- The members of a record that have been read. -/
structure Draft where
  paragraph : Option String
  act : Option UInt64
  locals : Option (List (String × Json.Value))

/-- The members of a record. -/
inductive Field where
  | paragraph
  | act
  | locals
deriving DecidableEq, Repr

/-- The members in their order. -/
def Field.all : List Field := [.paragraph, .act, .locals]

def Field.name : Field → String
  | paragraph => "cur_para"
  | act => "cur_act"
  | locals => "locals"

/-- Reads a natural number of one word. -/
def readWord (input : Bytes) : Option (UInt64 × Bytes) := do
  let (numeral, rest) ← Json.readNumeral (Json.skipBlank input)
  return (← numeral.word?, rest)

/-- Reads an object, two levels deep in a record. -/
def readLocals (input : Bytes) : Option (List (String × Json.Value) × Bytes) :=
  match Json.skipBlank input with
  | 0x7B :: rest => Json.readObject (Json.readValue (Json.deepest - 2)) rest
  | _ => none

/-- Reads a member that has not been read before. -/
def readField (field : Field) (draft : Draft) : Json.Reader Draft := fun input =>
  match field, draft with
  | .paragraph, ⟨none, act, locals⟩ =>
      (Json.readText input).map fun r => (⟨some r.1, act, locals⟩, r.2)
  | .act, ⟨paragraph, none, locals⟩ =>
      (readWord input).map fun r => (⟨paragraph, some r.1, locals⟩, r.2)
  | .locals, ⟨paragraph, act, none⟩ =>
      (readLocals input).map fun r => (⟨paragraph, act, some r.1⟩, r.2)
  | _, _ => none

/-- A member of a record object. -/
def member (key : String) (draft : Draft) : Json.Reader Draft :=
  match Field.all.find? (·.name = key) with
  | some field => readField field draft
  | none => Json.ignore draft

/-- An item of a record given as an array. -/
def item (index : Nat) (draft : Draft) : Json.Reader Draft :=
  match Field.all[index]? with
  | some field => readField field draft
  | none => fun _ => none

/-- The record that a file's content spells. What it leaves out is empty or zero. -/
def parse? (content : Bytes) : Option SavedRecord :=
  (Json.document? (Json.readRecord member item ⟨none, none, none⟩) content).map fun draft =>
    ⟨draft.paragraph.getD "", draft.act.getD 0, draft.locals.getD []⟩

/-- Loads a record from a file. -/
def load (files : FileSystem) (path : Path) : Except Error SavedRecord := do
  match parse? (← readFile files path) with
  | some record => .ok record
  | none => .error (.malformedJson path)

/-- The extension of a record's file name. -/
def extension : String := "json"

/-- Whether a file name is that of a record. -/
def isFileName (fileName : Bytes) : Bool :=
  Path.extension? fileName = some (Text.encode extension)

/-- Whether one file name may stand before another: they are in the order of their bytes. -/
def precedes (a b : Bytes) : Bool := !decide (b < a)

/-- The names of records among the file names of a directory, in order. -/
def fileNames (names : List Bytes) : List Bytes := (names.filter isFileName).mergeSort precedes

/-- Loads all records of a directory. One that cannot be loaded spoils them all. -/
def loadAll (files : FileSystem) (dir : Path) : Except Error (List SavedRecord) :=
  match files.list dir with
  | .error cause => .error (.read dir cause)
  | .ok names => (fileNames names).mapM fun name => load files (dir.join ⟨name⟩)

end SavedRecord

end SessionHost.Engine
