import Mathlib.Control.Monad.Basic
import SessionHost.Command.Configure
import SessionHost.Proofs.Config.Saving

/-!
Setting a key for good.

Loading and saving each find out anew where the configuration is, and a save can change the files
from which this is found out. `path_of_store` says when it does not: the pointer file must be
another file than the one that is saved, and it must not come into reach only because directories
are made. `load_of_save` is what this means for a value that is set, and `saved_values_lost` shows
that neither condition can be left out.
-/

namespace SessionHost.Config

open Text

/-! ### Keys -/

theorem Key.ofName?_eq_some_iff {name : String} {key : Key} :
    Key.ofName? name = some key ↔ key.name = name := by
  constructor
  · intro found
    simpa using List.find?_some found
  · rintro rfl
    cases key <;> decide

/-- A name stands for a key exactly if it is the name of this key. -/
theorem key_eq_ok_iff {name : String} {key : Key} :
    Config.key name = .ok key ↔ key.name = name := by
  rw [← Key.ofName?_eq_some_iff, Config.key]
  cases Key.ofName? name <;> simp

theorem value?_put (config : Config) (key other : Key) (value : String) :
    (config.put key value).value? other
      = if other = key then some value else config.value? other := by
  cases key <;> cases other <;> rfl

/-- Setting a name changes what is under this name only. -/
theorem get_of_set {config updated : Config} {name value : String}
    (set : config.set name value = .ok updated) (other : String) :
    updated.get other = if other = name then .ok (some value) else config.get other := by
  obtain ⟨key, named, rfl⟩ : ∃ key, Config.key name = .ok key ∧ config.put key value = updated := by
    unfold Config.set at set
    cases named : Config.key name with
    | error error => rw [named] at set; cases set
    | ok key => rw [named] at set; exact ⟨key, rfl, Except.ok.inj set⟩
  obtain rfl := key_eq_ok_iff.mp named
  unfold get
  cases asked : Config.key other with
  | error error =>
      rw [if_neg]
      · rfl
      · rintro rfl
        rw [named] at asked
        cases asked
  | ok key' =>
      obtain rfl := key_eq_ok_iff.mp asked
      have same : key'.name = key.name ↔ key' = key :=
        ⟨fun equal => Key.name_toList_injective (congrArg String.toList equal), congrArg Key.name⟩
      simp only [Except.map, value?_put, same]
      split <;> rfl

/-! ### Where the configuration is found -/

/-- The pointer file counts if it can be read and names a path. -/
theorem pointedPath?_eq_some_iff {files : FileSystem} {pointer named : Path} :
    pointedPath? files pointer = some named ↔
      ∃ content text, files.read pointer = .ok content ∧ decode? content = some text ∧
        namedPath? text = some named := by
  unfold pointedPath? FileSystem.readText
  cases files.read pointer with
  | error error => simp [bind, Except.bind]
  | ok content => cases decoded : decode? content <;> simp [bind, Except.bind, decoded]

/-- A file is not the pointer file, and a pointer file that is there can be reached before any
directory is made. -/
structure PointerApart (files : FileSystem) (pointer target : Path) : Prop where
  elsewhere : files.aim target ≠ files.aim pointer
  reached : ∀ content, files.node? (files.aim pointer) = some (.file content) →
    files.holds pointer

/-- Two machines find the configuration at one path if their environments are the same and they
read the same in the pointer file, where it counts. -/
theorem path_eq_of_read {machine later : Machine}
    (same : later.environment = machine.environment)
    (read : environmentPath? machine.environment = none → ∀ pointer,
      pointerPath machine.environment = .ok pointer → ∀ content,
        later.files.read pointer = .ok content ↔ machine.files.read pointer = .ok content) :
    path later = path machine := by
  unfold path resolve
  rw [same]
  cases named : environmentPath? machine.environment with
  | some _ => rfl
  | none =>
      cases found : pointerPath machine.environment with
      | error error => rfl
      | ok pointer =>
          have pointed : pointedPath? later.files pointer
              = pointedPath? machine.files pointer := by
            ext target
            rw [pointedPath?_eq_some_iff, pointedPath?_eq_some_iff]
            simp only [read named pointer found]
          simp only [bind, Except.bind, pointed]

/-- The configuration is found at one place before and after it was stored there. -/
theorem path_of_store {machine : Machine} {changed : FileSystem} {target : Path} {content : Bytes}
    (apart : environmentPath? machine.environment = none → ∀ pointer,
      pointerPath machine.environment = .ok pointer → PointerApart machine.files pointer target)
    (stored : store machine.files target content = (changed, .ok ())) :
    path { machine with files := changed } = path machine := by
  obtain ⟨made, grows, written⟩ := grows_and_write_of_store stored
  refine path_eq_of_read rfl fun named pointer found content => ?_
  obtain ⟨elsewhere, reached⟩ := apart named pointer found
  exact FileSystem.read_elsewhere grows written elsewhere reached

/-! ### Values that are set -/

open Command in
/-- **What was set is what is read.** A name is set in the configuration that was loaded, and the
result is saved. If the environment names the configuration file or it is apart from the pointer
file, then afterwards it is found at the same place, loading it gives all that was loaded before
but for the value under this name, and asking for a name shows accordingly. -/
theorem load_of_save {machine : Machine} {config updated : Config} {name value : String}
    {changed : FileSystem} (loaded : load machine = .ok config)
    (set : config.set name value = .ok updated)
    (saved : updated.save machine = (changed, .ok ()))
    (apart : environmentPath? machine.environment = none → ∀ pointer target,
      pointerPath machine.environment = .ok pointer → path machine = .ok target →
      PointerApart machine.files pointer target) :
    let later : Machine := { machine with files := changed }
    path later = path machine ∧ load later = .ok updated ∧
      (∀ other, (load later >>= (·.get other)) =
        if other = name then .ok (some value) else load machine >>= (·.get other)) ∧
      ∀ (console : Console) (curious : Bool) (other : String), console.machine = later →
        configure (.get other) curious console =
          match if other = name then .ok (some value) else config.get other with
          | .ok (some text) => (console.print text, .ok ())
          | .ok none => (console.perform (.warn (other ++ " is not set")), .ok ())
          | .error error => (console, .error error) := by
  intro later
  obtain ⟨target, found⟩ : ∃ target, path machine = .ok target := by
    cases found : path machine with
    | ok target => exact ⟨target, rfl⟩
    | error error =>
        rw [save, found] at saved
        cases (Prod.mk.inj saved).2
  have stored : store machine.files target (encode updated.render) = (changed, .ok ()) := by
    rwa [save, found] at saved
  have still : path later = path machine :=
    path_of_store (fun named pointer known => apart named pointer target known found) stored
  -- The path is found a second time, on the changed files, before what was written is read there.
  have reloaded : load later = .ok updated := by
    obtain ⟨made, written⟩ := write_of_store stored
    obtain ⟨holds, read⟩ := FileSystem.readText_of_write written
    rw [load, still, found]
    simp only [bind, Except.bind, loadFrom, later, holds, if_pos, read, parse?_render_eq]
  refine ⟨still, reloaded, fun other => ?_, fun console curious other here => ?_⟩
  · rw [reloaded, loaded]
    exact get_of_set set other
  · rw [← get_of_set set other]
    simp only [configure, here, reloaded, bind, Except.bind]
    cases updated.get other with
    | error error => rfl
    | ok value? => cases value? <;> rfl

/-- A relative path with blanks around it in the pointer file names a file that holds one value
already. A second one is set. -/
theorem load_of_save_pointed :
    let pointer : Location :=
      [encode "home", encode ".config", encode "stagehand", encode ".stagehand_config_path"]
    let machine : Machine :=
      { environment := ⟨some (encode "/home"), none, none, none⟩
        files :=
          { cwd := [encode "work"]
            nodes :=
              [(pointer.take 1, .directory), (pointer.take 2, .directory),
                (pointer.take 3, .directory), (pointer, .file (encode " ../conf/host.toml\n")),
                ([encode "work"], .directory), ([encode "conf"], .directory),
                ([encode "conf", encode "host.toml"], .file (encode "app-id = \"io.demo\"\n"))]
            nodup := by decide +revert } }
    let config : Config := { appId := some "io.demo" }
    let updated : Config := { config with recordsDir := some "a\n\"b\"" }
    ∃ changed, load machine = .ok config ∧
      config.set "records-dir" "a\n\"b\"" = .ok updated ∧
      updated.save machine = (changed, .ok ()) ∧
      path { machine with files := changed } = .ok ⟨encode "../conf/host.toml"⟩ ∧
      load { machine with files := changed } = .ok updated := by
  intro pointer machine config updated
  have loaded : load machine = .ok config := by decide +kernel
  have set : config.set "records-dir" "a\n\"b\"" = .ok updated := by decide +kernel
  have found : path machine = .ok ⟨encode "../conf/host.toml"⟩ := by decide +kernel
  have apart : environmentPath? machine.environment = none → ∀ pointer target,
      pointerPath machine.environment = .ok pointer → path machine = .ok target →
      PointerApart machine.files pointer target := by
    intro _ pointer target known found'
    obtain rfl := Except.ok.inj known
    obtain rfl := Except.ok.inj (found.symm.trans found')
    exact ⟨by decide +kernel, fun _ _ => by decide +kernel⟩
  have done : (updated.save machine).2 = .ok () := by decide +kernel
  generalize made : updated.save machine = result at done
  obtain ⟨changed, outcome⟩ := result
  obtain rfl : outcome = .ok () := done
  obtain ⟨still, reloaded, -⟩ := load_of_save loaded set made apart
  exact ⟨changed, loaded, set, rfl, still.trans found, reloaded⟩

/-- Without the conditions on the pointer file a value that was saved can be lost. In the first of
two machines that file names itself, along a directory that is missing, and is overwritten. In the
second the home directory is given along such a directory, so that the pointer file is found only
once this was made. -/
theorem saved_values_lost :
    let pointer : Location :=
      [encode "home", encode ".config", encode "stagehand", encode ".stagehand_config_path"]
    let machine (home pointed : String) : Machine :=
      { environment := ⟨some (encode home), none, none, none⟩
        files :=
          { cwd := []
            nodes :=
              [(pointer.take 1, .directory), (pointer.take 2, .directory),
                (pointer.take 3, .directory), (pointer, .file (encode pointed))]
            nodup := by
              change [pointer.take 1, pointer.take 2, pointer.take 3, pointer].Nodup
              decide +revert } }
    let updated : Config := { appId := some "io.v" }
    ({} : Config).set "app-id" "io.v" = .ok updated ∧
      ∀ before ∈ [machine "home" "new/../home/.config/stagehand/.stagehand_config_path",
          machine "new/../home" "other.toml"],
        let later : Machine := { before with files := (updated.save before).1 }
        load before = .ok {} ∧ (updated.save before).2 = .ok () ∧
          path later ≠ path before ∧ load later = .ok {} := by
  intro pointer machine updated
  decide +kernel

end SessionHost.Config
