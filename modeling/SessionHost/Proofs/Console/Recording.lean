import SessionHost.Proofs.Console.Entries

/-!
A log that misses nothing.

A console is used and set up again any number of times, and meanwhile others change the machine.
`Holds.takeAll` says what is in the log file as long as it is spared, and `log_complete` that this
begins with the set-up and depends on nothing that is to be shown.
-/

namespace SessionHost.Console

open Text FileSystem

theorem clock_setUp (verbosity : UInt8) (quiet : Bool) (dir : Option Path) (console : Console) :
    (console.setUp verbosity quiet dir).1.clock = console.clock := by
  rw [setUp_fst]

/-! ### Steps -/

/-- Something that befalls a console. -/
inductive Step where
  | call (call : Call)
  | setUp (verbosity : UInt8) (quiet : Bool) (dir : Option Path)
  /-- Others change the machine, and time passes. -/
  | meanwhile (change : Machine → Machine) (clock : String)

namespace Step

/-- The call that is made. -/
def call? : Step → Option Call
  | .call made => some made
  | _ => none

/-- The step without what is to be shown from then on. -/
def unflagged : Step → Step
  | setUp _ _ dir => setUp 0 false dir
  | step => step

end Step

/-- The console after a step. -/
def take (console : Console) : Step → Console
  | .call call => console.perform call
  | .setUp verbosity quiet dir => (console.setUp verbosity quiet dir).1
  | .meanwhile change clock => { console with machine := change console.machine, clock }

/-- The console after steps in order. -/
def takeAll (steps : List Step) (console : Console) : Console := steps.foldl take console

/-- The entries that steps make, each with the time of that. -/
def entries (clock : String) : List Step → List (String × Entry)
  | [] => []
  | .call call :: rest => call.entry?.toList.map (clock, ·) ++ entries clock rest
  | .setUp _ _ _ :: rest => entries clock rest
  | .meanwhile _ later :: rest => entries later rest

/-- Entries as they stand in the log file. -/
def logOf (entries : List (String × Entry)) : Bytes :=
  entries.flatMap fun entry => entry.2.line entry.1

theorem logOf_append (one other : List (String × Entry)) :
    logOf (one ++ other) = logOf one ++ logOf other :=
  List.flatMap_append

/-- A log without lines has no entries. -/
theorem eq_nil_of_logOf {entries : List (String × Entry)} (nothing : logOf entries = []) :
    entries = [] := by
  cases entries with
  | nil => rfl
  | cons entry rest =>
      rw [logOf, List.flatMap_cons, List.append_eq_nil_iff] at nothing
      exact absurd nothing.1 (entry.2.line_ne_nil entry.1)

/-- The entries after a step are made at the time of the console then. -/
theorem entries_cons (console : Console) (step : Step) (rest : List Step) :
    entries console.clock (step :: rest)
      = entries console.clock [step] ++ entries (console.take step).clock rest := by
  cases step with
  | call call =>
      have clock : (console.take (.call call)).clock = console.clock :=
        (logs_perform console call).clock
      rw [entries, entries, entries, List.append_nil, clock]
  | setUp verbosity quiet dir =>
      have clock : (console.take (.setUp verbosity quiet dir)).clock = console.clock :=
        clock_setUp verbosity quiet dir console
      rw [clock]
      rfl
  | meanwhile change clock => rfl

/-- Time aside, the entries are those of the calls. -/
theorem entries_map_snd (clock : String) (steps : List Step) :
    (entries clock steps).map Prod.snd = (steps.filterMap Step.call?).filterMap Call.entry? := by
  induction steps generalizing clock with
  | nil => rfl
  | cons step rest ih =>
      cases step with
      | call call =>
          have one : (Step.call call :: rest).filterMap Step.call?
              = call :: rest.filterMap Step.call? := rfl
          rw [entries, List.map_append, ih, one, List.filterMap_cons]
          cases call.entry? <;> rfl
      | setUp verbosity quiet dir => exact ih clock
      | meanwhile change later => exact ih later

/-! ### What is to be shown -/

/-- A step does the same, besides showing, to consoles that differ only in what they show, whatever
is to be shown from then on. -/
theorem blind_take_unflagged {one other : Console} (same : one.blind = other.blind) (step : Step) :
    (one.take step).blind = (other.take step.unflagged).blind := by
  cases step with
  | call call => exact blind_perform_congr same call
  | setUp verbosity quiet dir => exact (setUp_congr same verbosity 0 quiet false dir).1
  | meanwhile change clock =>
      obtain ⟨machine, -, color, logFile, out⟩ := blind_eq_iff.mp same
      exact blind_eq_iff.mpr ⟨congrArg change machine, rfl, color, logFile, out⟩

/-- **What is to be shown makes no difference to anything else.** -/
theorem blind_takeAll_unflagged {one other : Console} (same : one.blind = other.blind)
    (steps : List Step) :
    (one.takeAll steps).blind = (other.takeAll (steps.map Step.unflagged)).blind := by
  induction steps generalizing one other with
  | nil => exact same
  | cons step rest ih => exact ih (blind_take_unflagged same step)

/-! ### The log that is begun -/

/-- A set-up succeeds if a log could be begun, and then its log file is there. -/
theorem toOption_setUp (verbosity : UInt8) (quiet : Bool) (dir : Option Path) (console : Console) :
    (console.setUp verbosity quiet dir).2.toOption = (logHome console.machine dir).2 := by
  simp only [setUp, logHome]
  cases logDirectory console.machine.environment dir with
  | error error => rfl
  | ok dir =>
      simp only
      obtain ⟨made, outcome⟩ := console.machine.files.makeDirectories dir
      cases outcome <;> rfl

theorem exists_of_logHome {machine : Machine} {dir : Option Path} {log : Path}
    (home : (logHome machine dir).2 = some log) :
    ∃ base : Path, log = base.child logFileName ∧
      machine.files.makeDirectories base = ((logHome machine dir).1, .ok ()) := by
  unfold logHome at home ⊢
  split at home
  · cases home
  · rename_i base _
    split at home
    · cases home
    · rename_i made makes
      exact ⟨base, (Option.some.inj home).symm, by rw [makes]⟩

/-- With an old log file no directory goes. -/
theorem keepsDirectories_withoutOldLog {made : FileSystem} (tree : made.IsTree) (log : Path) :
    KeepsDirectories made (withoutOldLog made log) := by
  obtain kept | ⟨place, content, found, erased⟩ := withoutOldLog_cases made log
  · rw [kept]
    exact fun _ directory => directory
  · rw [erased]
    exact tree.keepsDirectories_erase (find_eq_ok_iff.mp found).2

theorem isFileName_logFileName : IsFileName logFileName where
  isName := by decide
  short := by decide
  whole := by decide

section

variable {verbosity : UInt8} {quiet : Bool} {dir : Option Path} {console : Console} {log : Path}
  {place : Location} {content : Bytes}

/-- **A set-up begins an empty log**, if no old one is left and the file can be opened. -/
theorem holds_setUp (started : (console.setUp verbosity quiet dir).2 = .ok log)
    (cleared : (console.setUp verbosity quiet dir).1.machine.files.isFile log = false)
    (opens : (console.setUp verbosity quiet dir).1.machine.files.writable log = .ok place) :
    Holds log place [] (console.setUp verbosity quiet dir).1 := by
  have home : (logHome console.machine dir).2 = some log := by
    rw [← toOption_setUp verbosity quiet dir console, started]
    rfl
  refine ⟨?_, opens, ?_⟩
  · rw [setUp_fst, home]
    rfl
  · obtain ⟨located, -⟩ := locate_of_writable opens
    rw [contentAt]
    split
    · rename_i content stands
      rw [isFile, find_eq_ok_iff.mpr ⟨located, stands⟩] at cleared
      cases cleared
    · rfl

/-- So it is in a tree with a working directory, if the path of the log file is not too long, no
directory is there and nothing is refused. -/
theorem exists_writable_setUp (started : (console.setUp verbosity quiet dir).2 = .ok log)
    (fits : log.bytes.length < pathLimit) (tree : console.machine.files.IsTree)
    (works : console.machine.files.HasCwd)
    (granted : console.machine.files.refusals (console.machine.files.aim log) = {})
    (free : (console.setUp verbosity quiet dir).1.machine.files.isDirectory log = false) :
    (console.setUp verbosity quiet dir).1.machine.files.isFile log = false ∧
      ∃ place, (console.setUp verbosity quiet dir).1.machine.files.writable log = .ok place := by
  have home : (logHome console.machine dir).2 = some log := by
    rw [← toOption_setUp verbosity quiet dir console, started]
    rfl
  have after : (console.setUp verbosity quiet dir).1.machine.files
      = withoutOldLog (logHome console.machine dir).1 log := by
    rw [setUp_fst, home]
    rfl
  rw [after] at free ⊢
  have grows := grows_logHome console.machine dir
  rw [← grows.refusals, ← aim_eq_of_cwd grows.cwd] at granted
  obtain ⟨base, rfl, makes⟩ := exists_of_logHome home
  generalize (logHome console.machine dir).1 = made at *
  have whole : made.IsTree := by
    have whole := tree.makeDirectories base
    rwa [makes] at whole
  obtain ⟨unbroken, above, reaches⟩ := reaches_makeDirectories works makes
  have rewrites := rewrites_withoutOldLog made (base.child logFileName)
  have still : (withoutOldLog made (base.child logFileName)).Reaches base above :=
    reaches.of_keepsDirectories (keepsDirectories_withoutOldLog whole _) rewrites.cwd
  constructor
  · rw [← Bool.not_eq_true]
    intro file
    obtain ⟨leads, content, stands⟩ := isFile_iff.mp file
    rw [aim_eq_of_cwd rewrites.cwd] at leads stands
    have refused := removing_ne_none_of_withoutOldLog (rewrites.locate leads) stands
    exact refused.2 (by rw [granted])
  · refine ⟨_, still.writable_child isFileName_logFileName unbroken fits free ?_⟩
    have here := reaches.locate_child isFileName_logFileName unbroken fits
    rw [rewrites.refusals, eq_aim_of_locate here, granted]

/-- A set-up that fails leaves the log alone, if it does not make a directory there. -/
theorem Holds.setUp (holds : Holds log place content console)
    (failed : (console.setUp verbosity quiet dir).2.toOption = none)
    (free : (console.setUp verbosity quiet dir).1.machine.files.isDirectory log = false) :
    Holds log place content (console.setUp verbosity quiet dir).1 := by
  have grows := grows_logHome console.machine dir
  rw [toOption_setUp] at failed
  rw [setUp_fst, failed] at free ⊢
  have located := grows.keepsDirectories.locate grows.cwd (locate_of_writable holds.writable).1
  have still := node?_ne_of_isDirectory located free
  exact ⟨holds.logFile, writable_of_locate holds.writable located still (congrFun grows.refusals _),
    (contentAt_of_grows grows still).trans holds.contentAt⟩

end

/-! ### The log that is kept -/

/-- A step spares the log: a set-up fails and makes no directory there, and others leave the log
file alone, the way to it, and what is refused there. -/
def Spares (log : Path) (console : Console) : Step → Prop
  | .call _ => True
  | .setUp verbosity quiet dir =>
      (console.setUp verbosity quiet dir).2.toOption = none ∧
        (console.setUp verbosity quiet dir).1.machine.files.isDirectory log = false
  | .meanwhile change _ =>
      let files := console.machine.files
      let changed := (change console.machine).files
      ∀ place, files.locate log = .ok place →
        changed.locate log = .ok place ∧ changed.node? place = files.node? place ∧
          changed.refusals place = files.refusals place

/-- The log is spared when others write a file elsewhere. -/
theorem spares_put {console : Console} {log : Path} {place : Location} (content : Bytes)
    (clock : String) (free : console.machine.files.node? place ≠ some .directory)
    (elsewhere : console.machine.files.aim log ≠ place) :
    Spares log console (.meanwhile
      (fun machine => { machine with files := machine.files.put place (.file content) }) clock) := by
  intro there located
  refine ⟨(keepsDirectories_put free content).locate rfl located, ?_⟩
  have apart : there ≠ place := eq_aim_of_locate located ▸ elsewhere
  exact ⟨(node?_put (ne_nil_of_free free)).trans (if_neg apart), rfl⟩

/-- Every one of some steps spares the log. -/
def SparesAll (log : Path) : Console → List Step → Prop
  | _, [] => True
  | console, step :: rest => Spares log console step ∧ SparesAll log (console.take step) rest

namespace Holds

variable {console : Console} {log : Path} {place : Location} {content : Bytes}

/-- A step that spares the log adds the entry that it makes. -/
theorem take (holds : Holds log place content console) {step : Step}
    (spares : Spares log console step) :
    Holds log place (content ++ logOf (entries console.clock [step])) (console.take step) := by
  cases step with
  | call call =>
      have entry : logOf (entries console.clock [.call call])
          = call.entry?.toList.flatMap (Entry.line console.clock) := by
        rw [entries, entries, List.append_nil, logOf, List.flatMap_map]
      rw [entry]
      exact holds.perform call
  | setUp verbosity quiet dir =>
      have nothing : logOf (entries console.clock [.setUp verbosity quiet dir]) = [] := rfl
      rw [nothing, List.append_nil]
      exact holds.setUp spares.1 spares.2
  | meanwhile change clock =>
      have nothing : logOf (entries console.clock [.meanwhile change clock]) = [] := rfl
      rw [nothing, List.append_nil]
      obtain ⟨located, free⟩ := locate_of_writable holds.writable
      obtain ⟨leads, stands, same⟩ := spares place located
      refine ⟨holds.logFile, writable_of_locate holds.writable leads (stands ▸ free) same, ?_⟩
      have same : (change console.machine).files.contentAt place
          = console.machine.files.contentAt place := by
        rw [FileSystem.contentAt, FileSystem.contentAt, stands]
      exact same.trans holds.contentAt

/-- **As long as it is spared the log has all entries**, each once and in their order. -/
theorem takeAll {steps : List Step} (holds : Holds log place content console)
    (spares : SparesAll log console steps) :
    Holds log place (content ++ logOf (entries console.clock steps)) (console.takeAll steps) := by
  induction steps generalizing console content with
  | nil =>
      rw [entries, logOf, List.flatMap_nil, List.append_nil]
      exact holds
  | cons step rest ih =>
      have later := ih (holds.take spares.1) spares.2
      rwa [List.append_assoc, ← logOf_append, ← entries_cons] at later

end Holds

/-- **The log is complete, whatever is shown.** A console is used and set up in any order, and
others change the machine meanwhile. Take a set-up that succeeds, after which no old log file is
left and the log file can be opened for writing. If the set-ups after it fail, if others leave the log
alone, and if no directory comes to be in its place, then the log file has the entries of the calls
after this set-up, each once and in their order; there may be no file if there are none.

In any case all files are the same, and the log file has the same path, whatever verbosity and quiet
setting are chosen at any of the set-ups. -/
theorem log_complete (console : Console) (steps : List Step) :
    let last := console.takeAll steps
    (∀ (before after : List Step) (verbosity : UInt8) (quiet : Bool) (dir : Option Path)
        (log : Path) (place : Location),
      let earlier := console.takeAll before
      let start := earlier.setUp verbosity quiet dir
      let made := entries earlier.clock after
      steps = before ++ .setUp verbosity quiet dir :: after →
      start.2 = .ok log → start.1.machine.files.isFile log = false →
      start.1.machine.files.writable log = .ok place → SparesAll log start.1 after →
      last.logFile = some log ∧
        made.map Prod.snd = (after.filterMap Step.call?).filterMap Call.entry? ∧
        (last.machine.files.read log = .ok (logOf made) ∨
          made = [] ∧ last.machine.files.read log = .error .notFound)) ∧
      ∀ others : List Step, others.map Step.unflagged = steps.map Step.unflagged →
        (console.takeAll others).logFile = last.logFile ∧
          (console.takeAll others).machine = last.machine := by
  intro last
  refine ⟨?_, fun others same => ?_⟩
  · intro before after verbosity quiet dir log place earlier start made split started cleared opens
      spared
    have reached : last = start.1.takeAll after := by
      simp only [last, split, takeAll, List.foldl_append, List.foldl_cons]
      rfl
    have clock : start.1.clock = earlier.clock := clock_setUp verbosity quiet dir earlier
    have kept := (holds_setUp started cleared opens).takeAll spared
    rw [List.nil_append, ← reached, clock] at kept
    refine ⟨kept.logFile, entries_map_snd _ after, ?_⟩
    exact kept.read.imp_right fun none => ⟨eq_nil_of_logOf none.1, none.2⟩
  · have one : (console.takeAll others).blind = _ := blind_takeAll_unflagged rfl others
    have other : last.blind = _ := blind_takeAll_unflagged rfl steps
    rw [same, ← other] at one
    obtain ⟨machine, -, -, logFile, -⟩ := blind_eq_iff.mp one
    exact ⟨logFile, machine⟩

/-- A console has a log in one directory, then a new one in another. A later set-up fails because a
file is in its way; then a file is made elsewhere and time passes. -/
theorem log_complete_second_directory :
    let files : FileSystem :=
      { cwd := []
        nodes :=
          [([encode "b"], .directory), ([encode "b", encode "stagehand.log"], .file (encode "old")),
            ([encode "file"], .file [])] }
    let console := fresh ⟨⟨none, none, none, none⟩, files⟩ "noon" false
    let first : Path := ⟨encode "a"⟩
    let second : Path := ⟨encode "b/"⟩
    let occupied : Path := ⟨encode "file/c"⟩
    let log : Path := ⟨encode "b/stagehand.log"⟩
    let elsewhere (machine : Machine) : Machine :=
      { machine with files := machine.files.put [encode "c"] (.file []) }
    let before (verbosity : UInt8) (quiet : Bool) : List Step :=
      [.setUp verbosity quiet (some first), .call (.info "one")]
    let after (verbosity : UInt8) (quiet : Bool) : List Step :=
      [.call (.debug "two"), .setUp verbosity quiet (some occupied), .meanwhile elsewhere "later",
        .call (.progressUpdate 3 "three"), .call .spinnerStart]
    let last := console.takeAll (before 2 false ++ .setUp 0 false (some second) :: after 1 true)
    let other := console.takeAll (before 0 true ++ .setUp 3 true (some second) :: after 0 false)
    let made : List (String × Entry) :=
      [("noon", ⟨.debug, "two"⟩), ("later", ⟨.progress, "three (3)"⟩)]
    ((console.takeAll (before 2 false)).setUp 0 false (some second)).2 = .ok log ∧
      SparesAll log ((console.takeAll (before 2 false)).setUp 0 false (some second)).1
        (after 1 true) ∧
      last.machine.files.read log = .ok (logOf made) ∧ other.machine = last.machine ∧
      logOf made = encode "[noon] DEBUG two\n[later] PROGRESS three (3)\n" := by
  intro files console first second occupied log elsewhere before after last other made
  have started : ((console.takeAll (before 2 false)).setUp 0 false (some second)).2 = .ok log := by
    decide +kernel
  have fits : log.bytes.length < pathLimit := by decide +kernel
  have tree : (console.takeAll (before 2 false)).machine.files.IsTree := by decide +kernel
  have works : (console.takeAll (before 2 false)).machine.files.HasCwd := by decide +kernel
  have free : ((console.takeAll (before 2 false)).setUp 0 false
      (some second)).1.machine.files.isDirectory log = false := by
    decide +kernel
  have spared : SparesAll log ((console.takeAll (before 2 false)).setUp 0 false (some second)).1
      (after 1 true) := by
    refine ⟨trivial, ⟨?_, ?_⟩, spares_put [] "later" ?_ ?_, trivial, trivial, trivial⟩
    · decide +kernel
    · decide +kernel
    · decide +kernel
    · decide +kernel
  have granted : (console.takeAll (before 2 false)).machine.files.refusals
      ((console.takeAll (before 2 false)).machine.files.aim log) = {} := by
    decide +kernel
  obtain ⟨cleared, place, opens⟩ := exists_writable_setUp started fits tree works granted free
  obtain ⟨complete, alike⟩ :=
    log_complete console (before 2 false ++ .setUp 0 false (some second) :: after 1 true)
  obtain ⟨-, -, read⟩ := complete _ _ _ _ _ log place rfl started cleared opens spared
  have entered : entries (console.takeAll (before 2 false)).clock (after 1 true) = made := by
    decide +kernel
  rw [entered] at read
  have filled : made ≠ [] := List.cons_ne_nil _ _
  have unflagged :
      (before 0 true ++ .setUp 3 true (some second) :: after 0 false).map Step.unflagged
        = (before 2 false ++ .setUp 0 false (some second) :: after 1 true).map Step.unflagged :=
    rfl
  exact ⟨started, spared, read.resolve_right fun none => filled none.1, (alike _ unflagged).2,
    by decide +kernel⟩

/-- A set-up succeeds where the directory can be made, even if the path of the log file in it is too
long for anything to be there, and what is logged then goes nowhere. -/
theorem setUp_of_long {console : Console} {dir : Path} {made : FileSystem}
    (makes : console.machine.files.makeDirectories dir = (made, .ok ()))
    (whole : hasNul dir.bytes = false)
    (long : pathLimit ≤ (dir.child logFileName).bytes.length) (verbosity : UInt8) (quiet : Bool)
    (call : Call) :
    let log := dir.child logFileName
    (console.setUp verbosity quiet (some dir)).2 = .ok log ∧
      (console.takeAll [.setUp verbosity quiet (some dir), .call call]).logFile = some log ∧
      ∀ files : FileSystem, files.isDirectory log = false ∧
        ∀ content, files.read log ≠ .ok content := by
  intro log
  have began : console.setUp verbosity quiet (some dir) = ({ console with
      machine := { console.machine with files := withoutOldLog made log }
      verbosity, quiet, logFile := some log }, .ok log) := by
    simp only [setUp, logDirectory, makes, log]
  have logs := logs_perform (console.setUp verbosity quiet (some dir)).1 call
  have lost (files : FileSystem) : files.find log = .error .nameTooLong :=
    find_of_long (isFileName_logFileName.hasNul_child whole) long
  refine ⟨by rw [began], logs.logFile.trans (by rw [began]), fun files => ⟨?_, ?_⟩⟩
  · rw [isDirectory, lost]
  · intro content read
    rw [FileSystem.read, lost] at read
    cases read

/-- The working directory, written with so many dots. -/
def dots (n : Nat) : Path := ⟨(List.replicate n [Path.dot, Path.slash]).flatten⟩

theorem length_dots (n : Nat) : (dots n).bytes.length = 2 * n := by
  simp [dots, Nat.mul_comm]

theorem hasNul_dots (n : Nat) : hasNul (dots n).bytes = false := by
  rw [hasNul, List.contains_eq_mem, decide_eq_false_iff_not]
  intro member
  obtain ⟨bytes, among, nul⟩ := List.mem_flatten.mp member
  rw [List.eq_of_mem_replicate among] at nul
  exact absurd nul (by decide)

theorem isIdle_of_mem_dots {n : Nat} {segment : Bytes} (member : segment ∈ (dots n).segments) :
    Path.isIdle segment = true := by
  induction n with
  | zero =>
      rw [List.mem_singleton.mp member]
      rfl
  | succ n ih =>
      have one : [Path.dot].splitOn Path.slash = [[Path.dot]] := by decide
      have first : (dots (n + 1)).bytes = [Path.dot] ++ Path.slash :: (dots n).bytes := rfl
      rw [Path.segments, first, splitOn_append_slash, one] at member
      rcases List.mem_append.mp member with dot | rest
      · rw [List.mem_singleton.mp dot]
        rfl
      · exact ih rest

/-- There is nothing to make for it if there is a working directory. -/
theorem makeDirectories_dots {fs : FileSystem} (works : fs.HasCwd) {n : Nat}
    (short : 2 * (n + 1) < pathLimit) :
    fs.makeDirectories (dots (n + 1)) = (fs, .ok ()) := by
  have admitted : admissible (dots (n + 1)) = .ok () := by
    rw [admissible, hasNul_dots, length_dots, if_neg (Nat.not_le.mpr short)]
    rfl
  have walked : fs.walk (fs.origin (dots (n + 1))) (dots (n + 1)).segments = .ok fs.cwd :=
    walk_idle works fun _ => isIdle_of_mem_dots
  have located : fs.locate (dots (n + 1)) = .ok fs.cwd :=
    bind_eq_ok_iff.mpr ⟨_, admitted, walked⟩
  refine makeDirectories_of_isDirectory ?_
  rw [isDirectory, find_eq_ok_iff.mpr ⟨located, works⟩]

theorem le_length_child_dots (n : Nat) :
    2 * n + 13 ≤ ((dots n).child logFileName).bytes.length := by
  have named : (encode logFileName).length = 13 := by decide
  rw [isFileName_logFileName.bytes_child, List.length_append, named]
  split
  · rw [length_dots]
  · rw [List.length_append, length_dots]
    omega

/-- A console is set up in the working directory, written with so many dots that the directory can
be found but not the log file in it. The set-up succeeds, and what is logged is lost. So it is lost
where the system refuses to open the log file; and where it refuses to remove an old one, that is
still in front of it. -/
theorem log_incomplete :
    let hello : Call := .info "hello"
    let env : Environment := ⟨none, none, none, none⟩
    let console := fresh ⟨env, .empty⟩ "noon" false
    let log := (dots 2045).child logFileName
    let refusing (refusals : FileSystem.Refusals) : Console :=
      fresh ⟨env,
        { cwd := []
          nodes := [([encode "stagehand.log"], .file (encode "old\n"))]
          refusals := fun _ => refusals }⟩ "noon" false
    let unopened := refusing { opening := some .permissionDenied }
    let unremoved := refusing { removing := some .permissionDenied }
    let here : Path := ⟨encode "./stagehand.log"⟩
    let steps (dir : Path) : List Step := [.setUp 0 false (some dir), .call hello]
    entries "noon" [.call hello] = [("noon", ⟨.info, "hello"⟩)] ∧
    ((console.setUp 0 false (some (dots 2045))).2 = .ok log ∧
      SparesAll log (console.setUp 0 false (some (dots 2045))).1 [.call hello] ∧
      (console.setUp 0 false (some (dots 2045))).1.machine.files.isDirectory log = false ∧
      (console.takeAll (steps (dots 2045))).logFile = some log ∧
      (console.takeAll (steps (dots 2045))).machine.files.isDirectory log = false ∧
      ∀ content, (console.takeAll (steps (dots 2045))).machine.files.read log ≠ .ok content) ∧
    ((unopened.setUp 0 false (some (dots 1))).2 = .ok here ∧
      (unopened.takeAll (steps (dots 1))).machine.files.read here = .error .notFound) ∧
    (unremoved.setUp 0 false (some (dots 1))).2 = .ok here ∧
      (unremoved.takeAll (steps (dots 1))).machine.files.read here
        = .ok (encode "old\n[noon] INFO hello\n") := by
  intro hello env console log refusing unopened unremoved here steps
  have works : FileSystem.empty.HasCwd := rfl
  have made : console.machine.files.makeDirectories (dots 2045) = (.empty, .ok ()) :=
    makeDirectories_dots works (by decide)
  have long : pathLimit ≤ ((dots 2045).child logFileName).bytes.length :=
    Nat.le_trans (by decide) (le_length_child_dots 2045)
  obtain ⟨succeeded, kept, lost⟩ := setUp_of_long made (hasNul_dots 2045) long 0 false hello
  refine ⟨rfl, ⟨succeeded, ⟨trivial, trivial⟩, (lost _).1, kept, (lost _).1, (lost _).2⟩,
    ⟨?_, ?_⟩, ?_, ?_⟩
  · decide +kernel
  · decide +kernel
  · decide +kernel
  · decide +kernel

end SessionHost.Console
