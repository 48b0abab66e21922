import SessionHost.Console.Clock
import SessionHost.Proofs.Console.Calls
import SessionHost.Proofs.FileSystem.Tree
import SessionHost.Proofs.Toml.Lines

/-!
What keeping a log does to the files.

When the console is set up, the directory of the log file is made and an old log file is removed;
calls add lines to the new one. `KeepsLog` says that this is all that happened, from the set-up
(`keepsLog_setUp`) through any calls (`KeepsLog.performAll`). What is in the log file then is never
a document of keys and values (`IsLog.parse?_eq_none`).
-/

namespace SessionHost.Console

open Text FileSystem Toml

/-! ### Lines -/

/-- The content of a log file: a text that begins with a stamp in brackets. -/
def IsLog (clock : String) (content : Bytes) : Prop :=
  ∃ rest, content = encode ("[" ++ clock ++ "] " ++ rest)

theorem isLog_logLine (clock message : String) : IsLog clock (logLine clock message) :=
  ⟨message ++ "\n", congrArg encode String.append_assoc⟩

/-- A log with one more line is a log. -/
theorem IsLog.append_logLine {clock : String} {content : Bytes} (log : IsLog clock content)
    (message : String) : IsLog clock (content ++ logLine clock message) := by
  obtain ⟨rest, rfl⟩ := log
  refine ⟨rest ++ ("[" ++ clock ++ "] " ++ message ++ "\n"), ?_⟩
  rw [logLine, ← encode_append]
  exact congrArg encode String.append_assoc

/-- A padded number is made of digits. -/
theorem isDecimal_of_mem_padded {width n : Nat} {c : Char} (member : c ∈ (padded width n).toList) :
    isDecimal c = true := by
  rw [padded, String.toList_append, String.toList_ofList, List.mem_append] at member
  rcases member with zero | digit
  · rw [(List.mem_replicate.mp zero).2]
    rfl
  · have digit : c.isDigit = true := by
      rw [Nat.toString_eq_ofList_toDigits, String.toList_ofList] at digit
      exact Nat.isDigit_of_mem_toDigits (by decide) (by decide) digit
    rw [Char.isDigit, Bool.and_eq_true, decide_eq_true_eq, decide_eq_true_eq] at digit
    rw [isDecimal, Bool.and_eq_true, decide_eq_true_eq, decide_eq_true_eq]
    exact digit

theorem exists_toList_padded (width n : Nat) : ∃ c rest, (padded width n).toList = c :: rest := by
  refine List.exists_cons_of_ne_nil ?_
  rw [padded, String.toList_append, Nat.toString_eq_ofList_toDigits, String.toList_ofList]
  simp [Nat.toDigits_ne_nil]

/-- A stamp is a date that could be a key, a blank, and a time that begins with a digit. -/
theorem exists_toList_stamp (seconds : Nat) :
    ∃ date next time, (stamp seconds).toList = date ++ ' ' :: next :: time ∧ IsBareKey date ∧
      isDecimal next = true := by
  unfold stamp
  generalize dateOf (seconds / 86400) = date
  obtain ⟨year, month, day⟩ := date
  let digits (width n : Nat) : List Char := (padded width n).toList
  obtain ⟨next, hour, begins⟩ := exists_toList_padded 2 (seconds % 86400 / 3600)
  refine ⟨digits 4 year ++ '-' :: digits 2 month ++ '-' :: digits 2 day, next,
    hour ++ ':' :: digits 2 (seconds % 86400 / 60 % 60) ++ ':' :: digits 2 (seconds % 86400 % 60),
    ?_, ⟨?_, ?_⟩, ?_⟩
  · simp [digits, String.toList_append, begins]
  · simp
  · intro c member
    have bare (width n : Nat) (digit : c ∈ digits width n) : isBare c = true := by
      have decimal : ('0' ≤ c && c ≤ '9') = true := isDecimal_of_mem_padded digit
      rw [isBare, decimal]
      simp
    simp only [List.mem_append, List.mem_cons] at member
    obtain ((year | rfl | month) | rfl | day) := member
    · exact bare 4 _ year
    · rfl
    · exact bare 2 _ month
    · rfl
    · exact bare 2 _ day
  · have first : next ∈ (padded 2 (seconds % 86400 / 3600)).toList := by
      rw [begins]
      exact List.mem_cons_self
    exact isDecimal_of_mem_padded first

/-- **A log file is no document** of keys and values: its first line is a broken header. -/
theorem IsLog.parse?_eq_none {seconds : Nat} {content : Bytes} (log : IsLog (stamp seconds) content)
    {text : String} (spelled : decode? content = some text) : Toml.parse? text = none := by
  obtain ⟨rest, spells⟩ := log
  rw [spells, decode?_encode, Option.some.injEq] at spelled
  obtain ⟨date, next, time, stamped, whole, digit⟩ := exists_toList_stamp seconds
  have begins : text.toList
      = '[' :: (date ++ ' ' :: next :: (time ++ "] ".toList ++ rest.toList)) := by
    simp [← spelled, String.toList_append, stamped]
  have unlike (c : Char) (other : isDecimal c = false) : next ≠ c := by
    rintro rfl
    rw [digit] at other
    cases other
  have word : isSpace next = false := by
    simp [isSpace, unlike ' ' rfl, unlike '\t' rfl]
  exact parse?_eq_none_of_begins whole word ⟨unlike '.' rfl, unlike ']' rfl⟩ begins

/-! ### The files -/

/-- The files once the directory of the log file was made, and the path of the log file if that
could be done. -/
def logHome (machine : Machine) (dir : Option Path) : FileSystem × Option Path :=
  match logDirectory machine.environment dir with
  | .error _ => (machine.files, none)
  | .ok dir =>
      match machine.files.makeDirectories dir with
      | (made, .error _) => (made, none)
      | (made, .ok ()) => (made, some (dir.child logFileName))

/-- Only directories are made for the log file. -/
theorem grows_logHome (machine : Machine) (dir : Option Path) :
    Grows machine.files (logHome machine dir).1 := by
  unfold logHome
  split
  · exact .refl machine.files
  · rename_i dir _
    have grows := machine.files.grows_makeDirectories dir
    split
    · rename_i made
      rwa [made] at grows
    · rename_i made
      rwa [made] at grows

/-- The place of the log file: the one that its path leads to. -/
def LogPlace (made : FileSystem) (log? : Option Path) (place : Location) : Prop :=
  ∃ log, log? = some log ∧ made.locate log = .ok place

/-- It has the name of log files. -/
theorem getLast?_of_logPlace {machine : Machine} {dir : Option Path} {place : Location}
    (leads : LogPlace (logHome machine dir).1 (logHome machine dir).2 place) :
    place.getLast? = some (encode logFileName) := by
  obtain ⟨log, kept, located⟩ := leads
  obtain ⟨base, rfl⟩ : ∃ base : Path, log = base.child logFileName := by
    unfold logHome at kept
    split at kept
    · cases kept
    · rename_i dir _
      split at kept
      · cases kept
      · exact ⟨dir, (Option.some.inj kept).symm⟩
  rw [eq_aim_of_locate located]
  exact getLast?_aim_child base (by decide) (by decide)

/-- The console keeps its log at a path, if it keeps one, and nothing else has changed in the files
since they were made ready for that. What is at its place is a log, but for an old file that could
not be removed. -/
structure KeepsLog (made : FileSystem) (log? : Option Path) (clock : String) (console : Console) :
    Prop where
  logFile : console.logFile = log?
  stamped : console.clock = clock
  rewrites : Rewrites (LogPlace made log?) made console.machine.files
  content : ∀ place content, LogPlace made log? place →
    console.machine.files.node? place = some (.file content) →
      IsLog clock content ∨ ∃ old, made.node? place = some (.file old)

section

variable {made : FileSystem} {log? : Option Path} {clock : String} {console later : Console}

/-- An old log file is removed, unless that is refused. -/
theorem withoutOldLog_cases (made : FileSystem) (log : Path) :
    withoutOldLog made log = made ∨
      ∃ place content, made.find log = .ok (place, .file content) ∧
        withoutOldLog made log = made.erase place := by
  unfold withoutOldLog
  split
  · rename_i changed removed
    obtain ⟨place, content, found, -, rfl⟩ := removeFile_eq_ok_iff.mp removed
    exact .inr ⟨place, content, found, rfl⟩
  · exact .inl rfl

/-- So the place of the log file is all that changes. -/
theorem rewrites_withoutOldLog (made : FileSystem) (log : Path) :
    Rewrites (LogPlace made (some log)) made (withoutOldLog made log) := by
  obtain kept | ⟨place, content, found, erased⟩ := withoutOldLog_cases made log
  · rw [kept]
    exact .refl
  · obtain ⟨located, stands⟩ := find_eq_ok_iff.mp found
    rw [erased]
    exact .erase .refl ⟨log, rfl, located⟩ stands

/-- If there is a file then, it is the old one, and could not be removed. -/
theorem removing_ne_none_of_withoutOldLog {log : Path} {place : Location} {content : Bytes}
    (located : made.locate log = .ok place)
    (stands : (withoutOldLog made log).node? place = some (.file content)) :
    made.node? place = some (.file content) ∧ (made.refusals place).removing ≠ none := by
  have stood : made.node? place = some (.file content) := by
    obtain kept | ⟨_, _, _, erased⟩ := withoutOldLog_cases made log
    · rwa [kept] at stands
    · rw [erased] at stands
      exact node?_of_erase stands
  refine ⟨stood, fun granted => ?_⟩
  have removed : made.removeFile log = .ok (made.erase place) :=
    removeFile_eq_ok_iff.mpr ⟨place, content, find_eq_ok_iff.mpr ⟨located, stood⟩, granted, rfl⟩
  rw [withoutOldLog, removed, node?_erase (ne_nil_of_file stood), if_pos] at stands
  · cases stands
  · exact List.isPrefixOf_iff_prefix.mpr List.prefix_rfl

/-- A console that was set up has its log file where that could be made, without an old one. -/
theorem setUp_fst (verbosity : UInt8) (quiet : Bool) (dir : Option Path) (console : Console) :
    let home := logHome console.machine dir
    (console.setUp verbosity quiet dir).1 =
      { console with
        machine :=
          { console.machine with files := home.2.elim home.1 (withoutOldLog home.1) }
        verbosity, quiet, logFile := home.2 <|> console.logFile } := by
  simp only [setUp, logHome]
  cases logDirectory console.machine.environment dir with
  | error error => rfl
  | ok dir =>
      simp only
      obtain ⟨made, outcome⟩ := console.machine.files.makeDirectories dir
      cases outcome <;> rfl

/-- **Setting up the console** keeps a log where the directory for it could be made. -/
theorem keepsLog_setUp (unset : console.logFile = none) (verbosity : UInt8) (quiet : Bool)
    (dir : Option Path) :
    let home := logHome console.machine dir
    KeepsLog home.1 home.2 console.clock (console.setUp verbosity quiet dir).1 := by
  rw [setUp_fst]
  obtain ⟨made, log?⟩ := logHome console.machine dir
  cases log? with
  | none =>
      refine ⟨unset, rfl, .refl, ?_⟩
      rintro _ _ ⟨_, missing, -⟩
      cases missing
  | some log =>
      refine ⟨rfl, rfl, rewrites_withoutOldLog made log, fun place content leads file => ?_⟩
      obtain ⟨_, same, located⟩ := leads
      obtain rfl := Option.some.inj same
      exact .inr ⟨content, (removing_ne_none_of_withoutOldLog located file).1⟩

/-- A call adds at most a line to the log. -/
theorem KeepsLog.of_logs (keeps : KeepsLog made log? clock console) (logs : Logs console later) :
    KeepsLog made log? clock later := by
  obtain same | ⟨log, message, files, kept, added, changed⟩ := logs.machine
  · refine ⟨logs.logFile.trans keeps.logFile, logs.clock.trans keeps.stamped, ?_, ?_⟩
    · rw [same]
      exact keeps.rewrites
    · rw [same]
      exact keeps.content
  · obtain ⟨place, writable, put⟩ := bind_eq_ok_iff.mp added
    obtain ⟨located, free⟩ := locate_of_writable writable
    obtain rfl := Except.ok.inj put
    have leads : LogPlace made log? place :=
      ⟨log, keeps.logFile.symm.trans kept, keeps.rewrites.locate located⟩
    refine ⟨logs.logFile.trans keeps.logFile, logs.clock.trans keeps.stamped, ?_, ?_⟩
    · rw [changed]
      exact .put _ keeps.rewrites leads free
    · intro other content elsewhere stands
      rw [changed, node?_put (ne_nil_of_free free)] at stands
      split at stands
      · rename_i here
        rw [here]
        obtain rfl := Node.file.inj (Option.some.inj stands)
        rw [keeps.stamped, contentAt]
        split
        · rename_i before file
          exact (keeps.content place before leads file).imp_left (IsLog.append_logLine · message)
        · exact .inl (isLog_logLine clock message)
      · exact keeps.content other content elsewhere stands

/-- **Whatever is asked of the console**, only the log changes. -/
theorem KeepsLog.performAll (keeps : KeepsLog made log? clock console) (calls : List Call) :
    KeepsLog made log? clock (console.performAll calls) := by
  induction calls generalizing console with
  | nil => exact keeps
  | cons call rest ih => exact ih (keeps.of_logs (logs_perform console call))

end

end SessionHost.Console
