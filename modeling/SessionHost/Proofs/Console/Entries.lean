import SessionHost.Proofs.Console.Showing
import SessionHost.Proofs.FileSystem.Making

/-!
What is in the log file.

Each call that is logged makes an `Entry`, which is a line of the file. `Holds` says that a console
keeps its log at a path and what is in it; `Holds.performAll` says that calls add their entries,
each once and in order, whatever the console shows.
-/

namespace SessionHost.Console

open FileSystem

/-! ### Entries -/

/-- What an entry of the log is about. -/
inductive Level where
  | debug
  | info
  | warn
  | error
  | success
  | progress
deriving DecidableEq, Repr

/-- The word for it in the log file. -/
def Level.word : Level → String
  | debug => "DEBUG"
  | info => "INFO"
  | warn => "WARN"
  | error => "ERROR"
  | success => "SUCCESS"
  | progress => "PROGRESS"

/-- An entry of the log. -/
structure Entry where
  level : Level
  text : String
deriving DecidableEq, Repr

namespace Entry

/-- Something begins that has so many parts. -/
def begin (name : String) (total : Nat) : Entry :=
  ⟨.progress, name ++ " (0/" ++ toString total ++ ")"⟩

/-- Something has come so far. -/
def update (name : String) (position : Nat) : Entry :=
  ⟨.progress, name ++ " (" ++ toString position ++ ")"⟩

/-- The entry but for the time. -/
def message (entry : Entry) : String := entry.level.word ++ " " ++ entry.text

/-- The entry as a line of the log file. -/
def line (clock : String) (entry : Entry) : Bytes := logLine clock entry.message

theorem line_ne_nil (clock : String) (entry : Entry) : entry.line clock ≠ [] := by
  intro empty
  have nothing : Text.encode "" = [] := by decide
  have none := Text.encode_injective (empty.trans nothing.symm)
  simp at none

end Entry

/-- The entry that a call makes. -/
def Call.entry? : Call → Option Entry
  | info text => some ⟨.info, text⟩
  | debug text => some ⟨.debug, text⟩
  | warn text => some ⟨.warn, text⟩
  | error text => some ⟨.error, text⟩
  | success text => some ⟨.success, text⟩
  | spinnerSuccess text => some ⟨.success, text⟩
  | spinnerError text => some ⟨.error, text⟩
  | progressStart total text => some (.begin text total.toNat)
  | progressUpdate position text => some (.update text position.toNat)
  | spinnerStart | spinnerMessage | spinnerStop | progressFinish | showLogPath => none

/-- What a call logs is its entry. -/
theorem Call.logged?_eq (call : Call) : call.logged? = call.entry?.map Entry.message := by
  have spaced (level : Level) (text : String) :
      (Entry.mk level text).message = level.word ++ " " ++ text := rfl
  cases call <;>
    simp [logged?, entry?, spaced, Entry.begin, Entry.update, Level.word, String.append_assoc]

/-! ### The log file -/

/-- The console keeps its log at a path where a file may be written, and this is what is in it. -/
structure Holds (log : Path) (place : Location) (content : Bytes) (console : Console) : Prop where
  logFile : console.logFile = some log
  writable : console.machine.files.writable log = .ok place
  contentAt : console.machine.files.contentAt place = content

namespace Holds

variable {log : Path} {place : Location} {content : Bytes} {console : Console}

/-- What is in the log can be read. There need not be a file if that is nothing. -/
theorem read (holds : Holds log place content console) :
    console.machine.files.read log = .ok content ∨
      content = [] ∧ console.machine.files.read log = .error .notFound := by
  obtain ⟨located, free⟩ := locate_of_writable holds.writable
  obtain rfl := holds.contentAt
  cases stands : console.machine.files.node? place with
  | none =>
      right
      rw [FileSystem.read, find, located]
      simp [bind, Except.bind, stands, FileSystem.contentAt]
  | some node =>
      cases node with
      | directory => exact absurd stands free
      | file content =>
          left
          rw [FileSystem.read, find_eq_ok_iff.mpr ⟨located, stands⟩]
          simp [bind, Except.bind, FileSystem.contentAt, stands]

/-- A call adds its entry to the end of the log. -/
theorem perform (holds : Holds log place content console) (call : Call) :
    Holds log place (content ++ call.entry?.toList.flatMap (Entry.line console.clock))
      (console.perform call) := by
  obtain ⟨located, free⟩ := locate_of_writable holds.writable
  rw [perform_eq, logCall, Call.logged?_eq]
  cases call.entry? with
  | none => exact ⟨holds.logFile, holds.writable, by simp [holds.contentAt]⟩
  | some entry =>
      have added : console.machine.files.append log (entry.line console.clock)
          = .ok (console.machine.files.put place (.file (content ++ entry.line console.clock))) := by
        rw [append, holds.writable, ← holds.contentAt]
        rfl
      have logged : (console.log entry.message).machine.files
          = console.machine.files.put place (.file (content ++ entry.line console.clock)) := by
        rw [Console.log, holds.logFile]
        simp only
        rw [← Entry.line, added]
      have below := ne_nil_of_free free
      refine ⟨holds.logFile, ?_, ?_⟩
      · simp only [Option.map_some, logged]
        refine writable_of_locate holds.writable ?_ ?_ rfl
        · exact (keepsDirectories_put free _).locate rfl located
        · rw [node?_put below, if_pos rfl]
          simp
      · simp only [Option.map_some, logged, FileSystem.contentAt]
        rw [node?_put below, if_pos rfl]
        simp

/-- **Calls add their entries to the log**, each once and in their order. -/
theorem performAll (holds : Holds log place content console) (calls : List Call) :
    Holds log place
      (content ++ (calls.filterMap Call.entry?).flatMap (Entry.line console.clock))
      (console.performAll calls) := by
  induction calls generalizing console content with
  | nil =>
      rw [List.filterMap_nil, List.flatMap_nil, List.append_nil]
      exact holds
  | cons call rest ih =>
      have later := ih (holds.perform call)
      rw [(logs_perform console call).clock] at later
      have split : ((call :: rest).filterMap Call.entry?).flatMap (Entry.line console.clock)
          = call.entry?.toList.flatMap (Entry.line console.clock)
            ++ (rest.filterMap Call.entry?).flatMap (Entry.line console.clock) := by
        rw [List.filterMap_cons]
        cases call.entry? <;> simp
      rw [split, ← List.append_assoc]
      exact later

end Holds

end SessionHost.Console
