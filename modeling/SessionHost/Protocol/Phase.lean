/-!
The phases that a session passes through while it opens, with the codes they travel under.
-/

namespace SessionHost.Protocol

/-- One named stage of opening a session. -/
inductive Phase where
  | loadSettings
  | loadProfile
  | createRuntime
  | loadPlugin
  | loadRecords
  | loaded
deriving DecidableEq, Repr

namespace Phase

/-- The phases in the order in which they come. -/
def all : List Phase :=
  [loadSettings, loadProfile, createRuntime, loadPlugin, loadRecords, loaded]

/-- The number that stands for the phase in a notification. -/
def code : Phase → UInt32
  | loadSettings => 0
  | loadProfile => 1
  | createRuntime => 2
  | loadPlugin => 3
  | loadRecords => 4
  | loaded => 5

/-- The phase with the given code, if there is one. -/
def ofCode? (n : UInt32) : Option Phase :=
  match n with
  | 0 => some loadSettings
  | 1 => some loadProfile
  | 2 => some createRuntime
  | 3 => some loadPlugin
  | 4 => some loadRecords
  | 5 => some loaded
  | _ => none

/-- The name by which messages speak of the phase. -/
def name : Phase → String
  | loadSettings => "LoadSettings"
  | loadProfile => "LoadProfile"
  | createRuntime => "CreateRuntime"
  | loadPlugin => "LoadPlugin"
  | loadRecords => "LoadRecords"
  | loaded => "Loaded"

/-- The phase with the given name, if there is one. -/
def ofName? (text : String) : Option Phase := all.find? (·.name = text)

/-- The two tables agree. -/
theorem ofCode?_code (p : Phase) : ofCode? p.code = some p := by
  cases p <;> rfl

theorem ofCode?_eq_some_iff {n : UInt32} {p : Phase} : ofCode? n = some p ↔ p.code = n := by
  constructor
  · intro h
    unfold ofCode? at h
    split at h <;> cases h <;> rfl
  · rintro rfl
    exact ofCode?_code p

end Phase

end SessionHost.Protocol
