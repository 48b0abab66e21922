import SessionHost.Console.Announcer
import SessionHost.Proofs.FileSystem.Skeleton
import SessionHost.Proofs.Session.Feeding

/-!
What calls do to the console.

A sink that writes to the console turns events into calls (`hostAfter_sink`). All that calls change
on the machine is the log file, and `LogApart.performAll` says what cannot be seen of that.
-/

namespace SessionHost.Console

open Protocol Session FileSystem

/-! ### Calls in order -/

theorem performAll_append (console : Console) (before after : List Call) :
    console.performAll (before ++ after) = (console.performAll before).performAll after :=
  List.foldl_append

theorem sink_calm : sink.Calm := fun _ _ => rfl

/-- Events on the console are the calls for them. -/
theorem hostAfter_sink (console : Console) (events : List Event) :
    sink.hostAfter console events = console.performAll (events.flatMap callsFor) := by
  induction events generalizing console with
  | nil => rfl
  | cons event rest ih =>
      rw [List.flatMap_cons, performAll_append]
      exact ih _

/-- No event is told of as the success or the failure of the whole. -/
theorem notMem_callsFor (event : Event) (text : String) :
    Call.spinnerSuccess text ∉ callsFor event ∧ Call.spinnerError text ∉ callsFor event := by
  cases event with
  | loadPlugin load =>
      by_cases first : load.index = 0 <;> by_cases last : load.isLast = true <;>
        simp [callsFor, first, last]
  | _ => simp [callsFor]

/-! ### The log file -/

/-- The later console is set up as the one before, and its machine has at most one more line in the
log file. -/
structure Logs (console later : Console) : Prop where
  logFile : later.logFile = console.logFile
  clock : later.clock = console.clock
  color : later.color = console.color
  machine : later.machine = console.machine ∨
    ∃ log message files, console.logFile = some log ∧
      console.machine.files.append log (logLine console.clock message) = .ok files ∧
      later.machine = { console.machine with files }

theorem logs_log (message : String) (console : Console) : Logs console (console.log message) := by
  unfold log
  split
  · exact ⟨rfl, rfl, rfl, .inl rfl⟩
  · rename_i path here
    split
    · rename_i files added
      exact ⟨rfl, rfl, rfl, .inr ⟨path, message, files, here, added, rfl⟩⟩
    · exact ⟨rfl, rfl, rfl, .inl rfl⟩

theorem logs_logCall (call : Call) (console : Console) : Logs console (console.logCall call) := by
  unfold logCall
  split
  · exact logs_log _ console
  · exact ⟨rfl, rfl, rfl, .inl rfl⟩

/-- What is printed is not in the log file. -/
theorem logs_printCall {console later : Console} (logs : Logs console later) (call : Call) :
    Logs console (later.printCall call) := by
  unfold printCall
  split
  · exact ⟨logs.logFile, logs.clock, logs.color, logs.machine⟩
  · exact logs

theorem logs_perform (console : Console) (call : Call) : Logs console (console.perform call) := by
  let turning : Console :=
    { console with
      spinner := console.spinnerAfter call
      progressBar := console.progressBarAfter call }
  have logs := logs_printCall (logs_logCall call turning) call
  exact ⟨logs.logFile, logs.clock, logs.color, logs.machine⟩

/-- Whatever is asked of a console, it keeps its colours. -/
theorem color_performAll (console : Console) (calls : List Call) :
    (console.performAll calls).color = console.color := by
  induction calls generalizing console with
  | nil => rfl
  | cons call rest ih => exact (ih _).trans (logs_perform console call).color

/-- Nothing that is asked of a console changes the environment. -/
theorem environment_performAll (console : Console) (calls : List Call) :
    (console.performAll calls).machine.environment = console.machine.environment := by
  induction calls generalizing console with
  | nil => rfl
  | cons call rest ih =>
      refine (ih _).trans ?_
      obtain same | ⟨_, _, _, _, _, changed⟩ := (logs_perform console call).machine
      · rw [same]
      · rw [changed]

/-- The log file is not what stands at a path, and its name is not one that counts. -/
def LogApart (counts : Bytes → Prop) (path : Path) (console : Console) : Prop :=
  ∀ log, console.logFile = some log →
    console.machine.files.aim path ≠ console.machine.files.aim log ∧
      ∀ name ∈ (console.machine.files.aim log).getLast?, ¬ counts name

/-- A later tree shows the same as one before: the same at a path, and the same directories and
files with names that count. -/
structure ShowsSame (counts : Bytes → Prop) (path : Path) (fs later : FileSystem) : Prop where
  skeleton : SameSkeleton counts fs later
  read : ∀ content, later.read path = .ok content ↔ fs.read path = .ok content

section

variable {counts : Bytes → Prop} {path : Path} {fs other : FileSystem} {console later : Console}

theorem ShowsSame.refl (fs : FileSystem) : ShowsSame counts path fs fs where
  skeleton := ⟨rfl, fun _ => .rfl, fun _ _ _ => .rfl⟩
  read _ := .rfl

theorem ShowsSame.trans {last : FileSystem} (first : ShowsSame counts path fs other)
    (second : ShowsSame counts path other last) : ShowsSame counts path fs last where
  skeleton := first.skeleton.trans second.skeleton
  read content := (second.read content).trans (first.read content)

theorem ShowsSame.toOption_read (same : ShowsSame counts path fs other) :
    (fs.read path).toOption = (other.read path).toOption := by
  have some_iff (result : Except FileSystem.Error Bytes) (content : Bytes) :
      result.toOption = some content ↔ result = .ok content := by
    cases result <;> simp [Except.toOption]
  ext content
  rw [some_iff, some_iff, same.read]

/-- So it is after bytes were added to a file that is apart. -/
theorem showsSame_of_append {log : Path} {line : Bytes} (elsewhere : fs.aim path ≠ fs.aim log)
    (quiet : ∀ name ∈ (fs.aim log).getLast?, ¬ counts name)
    (added : fs.append log line = .ok other) : ShowsSame counts path fs other := by
  obtain ⟨place, writable, put⟩ := bind_eq_ok_iff.mp added
  obtain ⟨located, free⟩ := locate_of_writable writable
  obtain rfl := eq_aim_of_locate located
  obtain rfl := Except.ok.inj put
  exact ⟨.put_file free (.inr quiet) _, fun _ => read_put free elsewhere⟩

/-- With a log file that is apart a call shows the same, and the log file stays apart. -/
theorem LogApart.of_logs (apart : LogApart counts path console) (logs : Logs console later) :
    ShowsSame counts path console.machine.files later.machine.files ∧
      LogApart counts path later := by
  have same : ShowsSame counts path console.machine.files later.machine.files := by
    obtain same | ⟨log, line, files, here, added, changed⟩ := logs.machine
    · rw [same]
      exact .refl _
    · rw [changed]
      exact showsSame_of_append (apart log here).1 (apart log here).2 added
  refine ⟨same, fun log here => ?_⟩
  rw [aim_eq_of_cwd same.skeleton.cwd.symm, aim_eq_of_cwd same.skeleton.cwd.symm]
  exact apart log (logs.logFile ▸ here)

/-- **With a log file that is apart any calls show the same.** -/
theorem LogApart.performAll (apart : LogApart counts path console) (calls : List Call) :
    ShowsSame counts path console.machine.files (console.performAll calls).machine.files := by
  induction calls generalizing console with
  | nil => exact .refl _
  | cons call rest ih =>
      obtain ⟨same, still⟩ := apart.of_logs (logs_perform console call)
      exact same.trans (ih still)

end

end SessionHost.Console
