import SessionHost.Proofs.Command.Opening
import SessionHost.Proofs.Config.Keeping
import SessionHost.Proofs.Console.LogFile

/-!
Host and engine read the same configuration.

The host loads the configuration when the program begins, and the engine loads it again when it is
started. In between the host has made the directory of its log file, removed an old log file and
added lines to a new one. `run_shares_config` says that both get the same if the log file is not
made where the configuration is and no file comes into reach when its directory is made;
`shared_config_lost` that neither can be left out.
-/

namespace SessionHost.Command

open Text Engine Session FileSystem

/-! ### What a load depends on -/

/-- The configuration in what was read from its file: nothing set if nothing was read, or nothing of
this form. -/
def configIn (read : Except FileSystem.Error Bytes) : Config :=
  (read.toOption.bind fun content => decode? content >>= Config.parse?).getD {}

/-- Loading a configuration reads its file and looks at nothing else. -/
theorem startConfig_eq (machine : Machine) :
    startConfig machine =
      match Config.path machine with
      | .ok target => configIn (machine.files.read target)
      | .error _ => {} := by
  unfold startConfig Config.load
  cases Config.path machine with
  | error error => rfl
  | ok target =>
      simp only [bind, Except.bind, Config.loadFrom, FileSystem.readText]
      cases read : machine.files.read target with
      | error error =>
          by_cases holds : machine.files.holds target <;> simp [holds, configIn, Except.toOption]
      | ok content =>
          have holds : machine.files.holds target = true := by
            obtain ⟨led, stands⟩ := read_eq_ok_iff.mp read
            exact holds_iff.mpr ⟨_, _, find_eq_ok_iff.mpr ⟨led, stands⟩⟩
          rw [if_pos holds]
          cases decoded : decode? content with
          | none => simp [configIn, Except.toOption, decoded]
          | some text =>
              cases parsed : Config.parse? text <;>
                simp [configIn, Except.toOption, decoded, parsed]

theorem startingConfig_fst (machine : Machine) :
    (startingConfig machine).1 = startConfig machine := by
  unfold startingConfig startConfig
  cases Config.load machine <;> rfl

/-- A log is no configuration. -/
theorem configIn_log {seconds : Nat} {content : Bytes}
    (log : Console.IsLog (Console.stamp seconds) content) : configIn (.ok content) = {} := by
  cases spelled : decode? content with
  | none => simp [configIn, Except.toOption, spelled]
  | some text =>
      simp [configIn, Except.toOption, spelled, Config.parse?, log.parse?_eq_none spelled]

/-! ### A log apart from the configuration -/

/-- The files once the directory of the log file was made, and the path of the log file. -/
def logHome (machine : Machine) : FileSystem × Option Path :=
  Console.logHome machine ((startConfig machine).logDirectory machine.environment).toOption

/-- Keeping a log leaves the configuration alone. Where the configuration file is, no log file is
made; and neither the configuration file nor a pointer file that counts comes into reach when the
directory of the log file is made. -/
structure LogSpares (machine : Machine) : Prop where
  elsewhere : ∀ target, Config.path machine = .ok target → machine.files.isFile target = true →
    ¬ Console.LogPlace (logHome machine).1 (logHome machine).2 (machine.files.aim target)
  target : ∀ target, Config.path machine = .ok target →
    (logHome machine).1.isFile target = true → machine.files.isFile target = true
  pointer : Config.environmentPath? machine.environment = none → ∀ pointer,
    Config.pointerPath machine.environment = .ok pointer →
    (logHome machine).1.isFile pointer = true → machine.files.isFile pointer = true

/-- Along paths that never go up nothing comes into reach, so that only the place of the log file
matters. -/
theorem logSpares_of_neverUp {machine : Machine} (tree : machine.files.IsTree)
    (target : ∀ path, Config.path machine = .ok path → NeverUp path)
    (pointer : ∀ path, Config.pointerPath machine.environment = .ok path → NeverUp path)
    (elsewhere : ∀ target, Config.path machine = .ok target →
      machine.files.isFile target = true →
      ¬ Console.LogPlace (logHome machine).1 (logHome machine).2 (machine.files.aim target)) :
    LogSpares machine where
  elsewhere := elsewhere
  target path found :=
    tree.isFile_of_neverUp (Console.grows_logHome machine _) (target path found)
  pointer _ path found :=
    tree.isFile_of_neverUp (Console.grows_logHome machine _) (pointer path found)

/-- A log file is never made in the place of the pointer file. -/
theorem not_logPlace_pointer {machine : Machine} {pointer : Path}
    (found : Config.pointerPath machine.environment = .ok pointer) :
    ¬ Console.LogPlace (logHome machine).1 (logHome machine).2 (machine.files.aim pointer) := by
  intro leads
  obtain ⟨own, rfl⟩ : ∃ own : Path, pointer = own.child ".stagehand_config_path" := by
    unfold Config.pointerPath at found
    cases known : Config.ownDirectory machine.environment with
    | error error => rw [known] at found; cases found
    | ok own => rw [known] at found; exact ⟨own, (Except.ok.inj found).symm⟩
  have name := Console.getLast?_of_logPlace leads
  rw [getLast?_aim_child own (by decide) (by decide)] at name
  exact absurd name (by decide)

section

variable {machine : Machine}

/-- **A log that spares the configuration** leaves it where it is, with all that is in its file. -/
theorem LogSpares.keeps {console : Console} {seconds : Nat} (spares : LogSpares machine)
    (tree : machine.files.IsTree)
    (same : console.machine.environment = machine.environment)
    (keeps : console.KeepsLog (logHome machine).1 (logHome machine).2 (Console.stamp seconds)) :
    Config.path console.machine = Config.path machine ∧
      startConfig console.machine = startConfig machine ∧
      ∀ target content, Config.path machine = .ok target →
        machine.files.read target = .ok content →
        console.machine.files.read target = .ok content := by
  have grows : Grows machine.files (logHome machine).1 := Console.grows_logHome machine _
  have found : Config.path console.machine = Config.path machine := by
    refine Config.path_eq_of_read same fun unnamed pointer named content => ?_
    exact keeps.rewrites.read_eq_ok_iff tree grows (not_logPlace_pointer named)
      (spares.pointer unnamed pointer named)
  have kept : ∀ target content, Config.path machine = .ok target →
      machine.files.read target = .ok content →
      console.machine.files.read target = .ok content := by
    intro target content named read
    have file := isFile_iff.mpr ((read_eq_ok_iff.mp read).imp_right fun stands => ⟨content, stands⟩)
    exact keeps.rewrites.read_eq_ok tree grows (spares.elsewhere target named file) read
  refine ⟨found, ?_, kept⟩
  rw [startConfig_eq, startConfig_eq, found]
  cases named : Config.path machine with
  | error error => rfl
  | ok target =>
      simp only
      cases before : machine.files.read target with
      | ok content => rw [kept target content named before]
      | error missing =>
          cases after : console.machine.files.read target with
          | error error => rfl
          | ok content =>
              have absent : ¬ (logHome machine).1.isFile target = true := by
                intro file
                obtain ⟨led, bytes, stood⟩ := isFile_iff.mp (spares.target target named file)
                rw [read_eq_ok_iff.mpr ⟨led, stood⟩] at before
                cases before
              obtain ⟨leads, stands⟩ := read_eq_ok_iff.mp after
              have aims : console.machine.files.aim target = (logHome machine).1.aim target :=
                aim_eq_of_cwd keeps.rewrites.cwd target
              -- What is there only now is the log file, as nothing else is made.
              have log : Console.LogPlace (logHome machine).1 (logHome machine).2
                  ((logHome machine).1.aim target) := by
                by_contra elsewhere
                exact absent (keeps.rewrites.isFile elsewhere
                  (isFile_iff.mpr ⟨leads, content, stands⟩))
              rw [aims] at leads stands
              obtain begun | ⟨old, stood⟩ := keeps.content _ content log stands
              · exact configIn_log begun
              · exact absurd (isFile_iff.mpr ⟨keeps.rewrites.locate leads, old, stood⟩) absent

/-- A program that is made ready keeps a log and nothing else. -/
theorem keepsLog_prepare (options : Options) (seconds : Nat) (color : Bool) :
    let config := startConfig machine
    let ready := prepare options config (.fresh machine (Console.stamp seconds) color)
    ready.KeepsLog (logHome machine).1 (logHome machine).2 (Console.stamp seconds) ∧
      ready.machine.environment = machine.environment := by
  intro config ready
  let first := Console.fresh machine (Console.stamp seconds) color
  let dir := (config.logDirectory machine.environment).toOption
  have kept (console : Console) (outcome : Except Console.SetupError Path)
      (made : first.setUp options.verbosity options.quiet dir = (console, outcome)) :
      console.KeepsLog (logHome machine).1 (logHome machine).2 (Console.stamp seconds) ∧
        console.machine.environment = machine.environment := by
    have keeps := Console.keepsLog_setUp (show first.logFile = none from rfl) options.verbosity
      options.quiet dir
    have same : (first.setUp options.verbosity options.quiet dir).1.machine.environment
        = machine.environment := by
      rw [Console.setUp_fst]
      rfl
    rw [made] at keeps same
    exact ⟨keeps, same⟩
  change Console.KeepsLog _ _ _ (prepare options config first) ∧
    (prepare options config first).machine.environment = machine.environment
  simp only [prepare]
  split
  · rename_i made
    exact kept _ _ made
  · rename_i made
    obtain ⟨keeps, same⟩ := kept _ _ made
    exact ⟨⟨keeps.logFile, keeps.stamped, keeps.rewrites, keeps.content⟩, same⟩

end

/-! ### Runs -/

/-- The application that the program starts has the configuration that is loaded at this moment, and
keeps it. -/
theorem exists_openWith_app {profile : Path} {appId : String} {console : Console}
    (file : console.machine.files.isFile profile = true) (text : allBlank appId = false)
    (whole : hasNul (encode appId) = false) :
    ∃ app, (openWith runtime profile appId (console, none)).1.2 = some app ∧ app.id = appId ∧
      app.config = startConfig (underWay appId console).machine := by
  obtain ⟨app, kept, id, config⟩ := openSession_runtime_keeps Console.machine theHandle
    profile.bytes Console.sink (underWay appId console) (newApplication appId console)
  refine ⟨app, ?_, id, config⟩
  have started := start_runtime Console.machine text whole (entry profile)
    (underWay appId console) none
  rw [underWay] at started
  simp only [openWith, file, if_true, started, entry]
  rw [underWay, newApplication, underWay] at kept
  revert kept
  generalize openSession Console.machine runtime theHandle profile.bytes Console.sink _ = opened
  obtain ⟨⟨host, inside⟩, outcome⟩ := opened
  intro kept
  cases outcome <;> exact kept

/-- Opening a profile does not panic, so that the program exits after some calls on its console. -/
theorem exists_run_eq {words : List Bytes} {options : Options} {profile : Path}
    (arguments : readArguments words = .run options (.openProfile profile)) (console : Console) :
    ∃ code calls, run words console = .exit code
      ((prepare options (startConfig console.machine) console).performAll calls) := by
  have begun := startingConfig_fst console.machine
  cases started : startingConfig console.machine with
  | mk config fault =>
      rw [started] at begun
      obtain rfl : config = startConfig console.machine := begun
      generalize prepared : prepare options (startConfig console.machine) console = ready
      let warned := ready.performAll (warnings fault)
      let appId := (startConfig console.machine).applicationId
      let calls := transcript profile appId warned
      have told : ready.performAll (warnings fault ++ calls) = warned.performAll calls :=
        Console.performAll_append ready _ _
      rw [run, arguments]
      simp only [runTask, started, perform, prepared, openProfile_eq]
      cases ends : verdict profile appId warned with
      | ok code => exact ⟨code, warnings fault ++ calls, by rw [told]⟩
      | failed error =>
          let last : List Console.Call :=
            .error error.message :: if 0 < options.verbosity then [.showLogPath] else []
          refine ⟨error.exitCode, (warnings fault ++ calls) ++ last, ?_⟩
          rw [Console.performAll_append, told]
          rfl
      | panicked text =>
          unfold verdict at ends
          split at ends
          · split at ends
            · cases ends
            · split at ends <;> cases ends
          · cases ends

/-- **Host and engine read the same configuration.** Let a program be run to open a profile, on a
tree of files where keeping a log spares the configuration. If it comes to starting the engine, then
the engine begins an application with the configuration that the program began with, be it loaded or
not, and that application keeps it. However the run ends, the configuration is then found where it
was, loading it gives the same, and what was in its file still is. -/
theorem run_shares_config {machine : Machine} (tree : machine.files.IsTree)
    (spares : LogSpares machine) {words : List Bytes} {options : Options} {profile : Path}
    (arguments : readArguments words = .run options (.openProfile profile)) (seconds : Nat)
    (color : Bool) :
    let console := Console.fresh machine (Console.stamp seconds) color
    let config := (startingConfig machine).1
    let appId := config.applicationId
    let ready := (prepare options config console).performAll (warnings (startingConfig machine).2)
    (ready.machine.files.isFile profile = true → hasNul (encode appId) = false →
      begin (underWay appId ready).machine (some (terminate (encode appId))) true
          = .application (.fresh appId config) ∧
        ∃ app, (openWith runtime profile appId (ready, none)).1.2 = some app ∧ app.id = appId ∧
          app.config = config) ∧
      ∃ code later, run words console = .exit code later ∧
        Config.path later.machine = Config.path machine ∧
        (startingConfig later.machine).1 = config ∧
        ∀ target content, Config.path machine = .ok target →
          machine.files.read target = .ok content →
          later.machine.files.read target = .ok content := by
  intro console config appId ready
  have begun : config = startConfig machine := startingConfig_fst machine
  obtain ⟨keeps, same⟩ := keepsLog_prepare options seconds color
  -- The program only makes calls on the console that was prepared.
  have spared (calls : List Console.Call) := spares.keeps tree
    ((Console.environment_performAll _ calls).trans same) (keeps.performAll calls)
  constructor
  · intro file whole
    have text : allBlank appId = false := config.allBlank_applicationId
    have shared : startConfig (underWay appId ready).machine = config := by
      rw [underWay, ← Console.performAll_append, begun]
      exact (spared _).2.1
    rw [begin_terminate _ text whole, shared]
    obtain ⟨app, kept, id, same⟩ := exists_openWith_app file text whole
    exact ⟨rfl, app, kept, id, same.trans shared⟩
  · obtain ⟨code, calls, ran⟩ := exists_run_eq arguments console
    obtain ⟨found, loaded, kept⟩ := spared calls
    refine ⟨code, _, ran, found, ?_, kept⟩
    rw [startingConfig_fst, begun]
    exact loaded

/-- The log file is made beside the profile, where an old one stands. -/
theorem run_shares_config_old_log :
    let saved := encode "app-id = \"io.demo\"\nlog-dir = \"logs\"\n"
    let own : Location := [encode "home", encode ".config", encode "stagehand"]
    let machine : Machine :=
      { environment := ⟨some (encode "/home"), none, none, none⟩
        files :=
          { cwd := [encode "work"]
            nodes :=
              [(own.take 1, .directory), (own.take 2, .directory), (own, .directory),
                (own ++ [encode "stagehand.toml"], .file saved),
                ([encode "work"], .directory), ([encode "work", encode "logs"], .directory),
                ([encode "work", encode "logs", encode "stagehand.log"], .file (encode "old")),
                ([encode "work", encode "game.toml"], .file (encode "title = \"Game\"\n"))]
            nodup := by decide +revert } }
    let config : Config := { appId := some "io.demo", logDir := some "logs" }
    let console := Console.fresh machine (Console.stamp 951782400) false
    let words := [encode "-v", encode "game.toml"]
    let options : Options := ⟨false, 1⟩
    let ready := prepare options config console
    readArguments words = .run options (.openProfile ⟨encode "game.toml"⟩) ∧
      (startingConfig machine).1 = config ∧
      begin (underWay "io.demo" ready).machine (some (terminate (encode "io.demo"))) true
        = .application (.fresh "io.demo" config) ∧
      ∃ code later, run words console = .exit code later ∧
        (startingConfig later.machine).1 = config ∧
        later.machine.files.read ⟨encode "/home/.config/stagehand/stagehand.toml"⟩ = .ok saved := by
  intro saved own machine config console words options ready
  have tree : machine.files.IsTree := by decide +kernel
  have found : Config.path machine = .ok ⟨encode "/home/.config/stagehand/stagehand.toml"⟩ := by
    decide +kernel
  have begun : startingConfig machine = (config, none) := by decide +kernel
  have log : (logHome machine).2 = some ⟨encode "logs/stagehand.log"⟩ := by decide +kernel
  have spares : LogSpares machine := by
    refine logSpares_of_neverUp tree ?_ ?_ ?_
    · intro path named
      obtain rfl := Except.ok.inj (found.symm.trans named)
      decide +kernel
    · intro path named
      obtain rfl := Except.ok.inj named
      decide +kernel
    · rintro target named file ⟨other, kept, led⟩
      obtain rfl := Except.ok.inj (found.symm.trans named)
      obtain rfl := Option.some.inj (log.symm.trans kept)
      revert led
      decide +kernel
  have arguments : readArguments words = .run options (.openProfile ⟨encode "game.toml"⟩) := by
    decide +kernel
  obtain ⟨shared, code, later, ran, -, loaded, kept⟩ :=
    run_shares_config tree spares arguments 951782400 false
  rw [begun] at shared loaded
  refine ⟨arguments, by rw [begun], (shared ?_ ?_).1, code, later, ran, loaded, ?_⟩
  · decide +kernel
  · decide +kernel
  · exact kept _ _ found (by decide +kernel)

/-- The engine can get another configuration than the host. The first of two machines keeps its log
in the configuration file, so that the log takes the place of the configuration. On the second the
home directory is given along a directory that is missing, and the configuration is found only once
this was made for the log. -/
theorem shared_config_lost :
    let profile : Location × Node := ([encode "game.toml"], .file (encode "title = \"Game\"\n"))
    let saved := encode "log-dir = \".\"\nrecords-dir = \"save\"\n"
    let own : Location := [encode "home", encode ".config", encode "stagehand"]
    let replaced : Machine :=
      { environment := ⟨some (encode "home"), none, none, some (encode "stagehand.log")⟩
        files :=
          { cwd := []
            nodes := [([encode "stagehand.log"], .file saved), profile]
            nodup := by decide +revert } }
    let found : Machine :=
      { environment := ⟨some (encode "new/../home"), none, none, none⟩
        files :=
          { cwd := []
            nodes :=
              [(own.take 1, .directory), (own.take 2, .directory), (own, .directory),
                (own ++ [encode "stagehand.toml"], .file (encode "records-dir = \"save\"\n")),
                profile]
            nodup := by decide +revert } }
    let config (machine : Machine) : Config := (startingConfig machine).1
    let starting (machine : Machine) : Console :=
      underWay (config machine).applicationId
        ((prepare ⟨false, 0⟩ (config machine)
          (.fresh machine (Console.stamp 951782400) false)).performAll
            (warnings (startingConfig machine).2))
    readArguments [encode "game.toml"] = .run ⟨false, 0⟩ (.openProfile ⟨encode "game.toml"⟩) ∧
      (∀ machine ∈ [replaced, found],
        let appId := (config machine).applicationId
        machine.files.IsTree ∧ hasNul (encode appId) = false ∧
          (starting machine).machine.files.isFile ⟨encode "game.toml"⟩ = true ∧
          ∃ other ≠ config machine,
            begin (starting machine).machine (some (terminate (encode appId))) true
              = .application (.fresh appId other)) ∧
      replaced.files.read ⟨encode "stagehand.log"⟩ = .ok saved ∧
      (starting replaced).machine.files.read ⟨encode "stagehand.log"⟩ ≠ .ok saved := by
  intro profile saved own replaced found config starting
  have computed : ∀ machine ∈ [replaced, found],
      machine.files.IsTree ∧ hasNul (encode (config machine).applicationId) = false ∧
        (starting machine).machine.files.isFile ⟨encode "game.toml"⟩ = true ∧
        startConfig (starting machine).machine ≠ config machine := by
    decide +kernel
  refine ⟨by decide +kernel, ?_, by decide +kernel, by decide +kernel⟩
  intro machine member appId
  obtain ⟨tree, whole, file, differ⟩ := computed machine member
  have text : allBlank appId = false := Config.allBlank_applicationId _
  exact ⟨tree, whole, file, _, differ, begin_terminate _ text whole⟩

end SessionHost.Command
