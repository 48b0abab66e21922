import SessionHost.Command.Configure
import SessionHost.Proofs.Config.Pointing
import SessionHost.Proofs.Console.Calls

/-!
What is said about precedence when the configuration is redirected.

The environment goes before the pointer file. Whoever makes the pointer file name a path is warned
of that, but by another test than the one that decides where the configuration is found.
`precedence_truthful_iff` says for which values the two agree, and `precedence_misstated` that
blanks and bytes that are no text are not among them.
-/

namespace SessionHost.Command

open Text

/-- The warning that the environment goes before the pointer file. -/
def precedenceWarning : Console.Call := .warn "STAGEHAND_CONFIG is set and takes precedence"

/-- What is asked of the console once the pointer file names a path. -/
def redirection (env : Environment) (pointer target : Path) : List Console.Call :=
  .debug ("Wrote " ++ pointer.display) ::
    (if hasPrecedence env then [precedenceWarning] else [])
      ++ [.success ("Config path set to " ++ target.display)]

/-- A value that names a file: a text that is not blank. -/
def NamesFile (value : Bytes) : Prop := ∃ text, decode? value = some text ∧ allBlank text = false

theorem NamesFile.ne_nil {value : Bytes} (names : NamesFile value) : value ≠ [] := by
  rintro rfl
  obtain ⟨text, valid, filled⟩ := names
  obtain rfl : "" = text := Option.some.inj ((decode?_encode "").symm.trans valid)
  exact absurd filled (by decide)

/-- A path that is set is told of on the console that has the pointer file. -/
theorem setPath_eq_ok_iff {console later : Console} {target : Path} :
    setPath target console = (later, .ok ()) ↔
      ∃ files pointer, Config.setPointer console.machine target = (files, .ok pointer) ∧
        (withFiles console files).performAll
          (redirection console.machine.environment pointer target) = later := by
  unfold setPath
  obtain ⟨files, outcome⟩ := Config.setPointer console.machine target
  cases outcome with
  | error error => simp
  | ok pointer =>
      constructor
      · intro done
        exact ⟨files, pointer, rfl, (Prod.mk.inj done).1⟩
      · rintro ⟨_, _, same, told⟩
        obtain ⟨rfl, ended⟩ := Prod.mk.inj same
        obtain rfl := Except.ok.inj ended
        exact Prod.ext told rfl

section

variable {env : Environment} {pointer target : Path}

/-- The warning is given exactly if the variable is set to anything but nothing. -/
theorem precedenceWarning_mem_redirection_iff :
    precedenceWarning ∈ redirection env pointer target ↔
      ∃ value, env.configFile = some value ∧ value ≠ [] := by
  have given : precedenceWarning ∈ redirection env pointer target ↔ hasPrecedence env = true := by
    by_cases here : hasPrecedence env = true <;> simp [redirection, precedenceWarning, here]
  rw [given, hasPrecedence]
  cases env.configFile with
  | none => simp
  | some value => simp

/-- The environment decides where the configuration is found exactly if its variable names a
file. -/
theorem source_eq_environment_iff_namesFile {machine : Machine} :
    Config.source machine = .ok .environment ↔
      ∃ value, machine.environment.configFile = some value ∧ NamesFile value := by
  rw [Config.source_eq_environment_iff, ne_eq, Config.environmentPath?_eq_none_iff]
  unfold NamesFile
  push Not
  simp only [Bool.not_eq_true, exists_and_left]

end

/-- **When the warning is true.** Let a path be set without an error. The warning is given exactly
if the variable of the environment is set and not empty, and afterwards the configuration is found
by the environment exactly if the variable names a file. So there is always a warning when the
environment decides. That there is one only then means that the variable is unset, is empty or names
a file. -/
theorem precedence_truthful_iff {console later : Console} {target : Path} {curious : Bool}
    (done : configure (.setPath target) curious console = (later, .ok ())) :
    let named := console.machine.environment.configFile
    ∃ files pointer, Config.setPointer console.machine target = (files, .ok pointer) ∧
      let calls := redirection console.machine.environment pointer target
      (withFiles console files).performAll calls = later ∧
        (precedenceWarning ∈ calls ↔ ∃ value, named = some value ∧ value ≠ []) ∧
        (Config.source later.machine = .ok .environment ↔
          ∃ value, named = some value ∧ NamesFile value) ∧
        (Config.source later.machine = .ok .environment → precedenceWarning ∈ calls) ∧
        ((precedenceWarning ∈ calls ↔ Config.source later.machine = .ok .environment) ↔
          ∀ value, named = some value → value = [] ∨ NamesFile value) := by
  intro named
  obtain ⟨files, pointer, set, told⟩ := setPath_eq_ok_iff.mp done
  refine ⟨files, pointer, set, ?_⟩
  intro calls
  have warned : precedenceWarning ∈ calls ↔ ∃ value, named = some value ∧ value ≠ [] :=
    precedenceWarning_mem_redirection_iff
  have decided : Config.source later.machine = .ok .environment ↔
      ∃ value, named = some value ∧ NamesFile value := by
    rw [source_eq_environment_iff_namesFile, ← told, Console.environment_performAll]
    rfl
  have warns : Config.source later.machine = .ok .environment → precedenceWarning ∈ calls := by
    rw [warned, decided]
    rintro ⟨value, here, names⟩
    exact ⟨value, here, names.ne_nil⟩
  refine ⟨told, warned, decided, warns, ?_, ?_⟩
  · intro agree value here
    by_cases empty : value = []
    · exact .inl empty
    · obtain ⟨other, same, names⟩ := decided.mp (agree.mp (warned.mpr ⟨value, here, empty⟩))
      obtain rfl := Option.some.inj (here.symm.trans same)
      exact .inr names
  · intro allowed
    refine ⟨fun given => ?_, warns⟩
    obtain ⟨value, here, filled⟩ := warned.mp given
    exact decided.mpr ⟨value, here, (allowed value here).resolve_left filled⟩

/-- The variable names a file with a blank around its path, and the warning about it is true. -/
theorem precedence_truthful_padded :
    let files : FileSystem := { cwd := [], nodes := [], nodup := List.nodup_nil }
    let env : Environment := ⟨some (encode "/home"), none, none, some (encode "host.toml\n")⟩
    let console : Console := Console.fresh ⟨env, files⟩ "noon" false
    ∃ later pointer, configure (.setPath ⟨encode "new.toml"⟩) false console = (later, .ok ()) ∧
      precedenceWarning ∈ redirection env pointer ⟨encode "new.toml"⟩ ∧
      Config.source later.machine = .ok .environment := by
  intro files env console
  have done : (configure (.setPath ⟨encode "new.toml"⟩) false console).2 = .ok () := by
    decide +kernel
  generalize made : configure (.setPath ⟨encode "new.toml"⟩) false console = result at done
  obtain ⟨later, outcome⟩ := result
  obtain rfl : outcome = .ok () := done
  obtain ⟨_, pointer, -, -, -, decided, warns, -⟩ := precedence_truthful_iff made
  have names : NamesFile (encode "host.toml\n") := ⟨_, decode?_encode _, by decide +kernel⟩
  have found : Config.source later.machine = .ok .environment := decided.mpr ⟨_, rfl, names⟩
  exact ⟨later, pointer, rfl, warns found, found⟩

/-- The variable holds blanks, or a byte that is no text. The console warns that it takes
precedence, and the configuration is found by the pointer file. -/
theorem precedence_misstated :
    let files : FileSystem := { cwd := [], nodes := [], nodup := List.nodup_nil }
    ∀ value ∈ [encode "  ", [0xFF]],
      let env : Environment := ⟨some (encode "/home"), none, none, some value⟩
      let done := configure (.setPath ⟨encode "new.toml"⟩) false
        (Console.fresh ⟨env, files⟩ "noon" false)
      done.2 = .ok () ∧
        "warning: STAGEHAND_CONFIG is set and takes precedence" ∈ done.1.err ∧
        Config.resolve done.1.machine = .ok (.pointer, ⟨encode "new.toml"⟩) := by
  decide +kernel

end SessionHost.Command
