import SessionHost.Proofs.Config.Saving
import SessionHost.Proofs.Text.Blank

/-!
The pointer file leads to what it was made to name.

A path is written to the pointer file as it is, and read from there without the blanks around it.
`path_of_setPointer` says where the configuration is found after that, and `padded_targets_lost`
that it is elsewhere if the path has such blanks.
-/

namespace SessionHost.Config

open Text

/-- A text names a path exactly if it is not blank. -/
theorem namedPath?_eq {text : String} :
    namedPath? text = if allBlank text then none else some (Path.ofText (trim text)) := rfl

/-- The environment names a configuration file unless the variable is missing, no text or blank. -/
theorem environmentPath?_eq_none_iff {env : Environment} :
    environmentPath? env = none ↔
      ∀ bytes text, env.configFile = some bytes → decode? bytes = some text →
        allBlank text = true := by
  unfold environmentPath?
  cases env.configFile with
  | none => simp
  | some bytes =>
      cases spelled : decode? bytes with
      | none =>
          simp only [Option.bind_eq_bind, Option.bind_some, spelled, Option.bind_none, true_iff]
          intro other value here valid
          obtain rfl := Option.some.inj here
          rw [spelled] at valid
          cases valid
      | some text =>
          simp only [Option.bind_eq_bind, Option.bind_some, spelled, namedPath?_eq]
          constructor
          · intro unnamed other value here valid
            obtain rfl := Option.some.inj here
            obtain rfl := Option.some.inj (spelled.symm.trans valid)
            by_contra filled
            rw [if_neg filled] at unnamed
            cases unnamed
          · intro blank
            rw [if_pos (blank bytes text rfl spelled)]

/-- Where the path of the configuration file is taken from. -/
def source (machine : Machine) : Except Error Source := (resolve machine).map Prod.fst

/-- It is taken from the environment whenever that names one. -/
theorem source_eq_environment_iff {machine : Machine} :
    source machine = .ok .environment ↔ environmentPath? machine.environment ≠ none := by
  unfold source resolve
  cases environmentPath? machine.environment with
  | some named => exact ⟨fun _ => Option.some_ne_none named, fun _ => rfl⟩
  | none =>
      cases found : pointerPath machine.environment with
      | error error => simp [Except.map, bind, Except.bind]
      | ok pointer =>
          cases pointed : pointedPath? machine.files pointer with
          | some named => simp [Except.map, bind, Except.bind, pointed, pure, Except.pure]
          | none =>
              cases own : ownDirectory machine.environment <;>
                simp [Except.map, bind, Except.bind, pointed, pure, Except.pure]

/-- After the pointer file was written, it can be read as it was written. -/
theorem readText_of_setPointer {machine : Machine} {target pointer : Path} {text : String}
    {changed : FileSystem} (spelled : decode? target.bytes = some text)
    (set : setPointer machine target = (changed, .ok pointer)) :
    pointerPath machine.environment = .ok pointer ∧ changed.readText pointer = .ok text := by
  have shown : target.display = text := by
    rw [Path.display, decode?_eq_some_iff.mp spelled, lossy_encode]
  unfold setPointer at set
  split at set
  · cases (Prod.mk.inj set).2
  · rename_i place found
    rw [shown] at set
    generalize stored : store machine.files place (encode text) = result at set
    obtain ⟨files, outcome⟩ := result
    obtain ⟨rfl, ended⟩ := Prod.mk.inj set
    cases outcome with
    | error error => cases ended
    | ok done =>
        obtain rfl := Except.ok.inj ended
        obtain ⟨made, written⟩ := write_of_store stored
        exact ⟨found, (FileSystem.readText_of_write written).2⟩

/-- So it is found where the text in it leads, or in the program's own directory if that is
blank. -/
theorem resolve_of_setPointer {machine : Machine} {target pointer : Path} {text : String}
    {changed : FileSystem} (unnamed : environmentPath? machine.environment = none)
    (spelled : decode? target.bytes = some text)
    (set : setPointer machine target = (changed, .ok pointer)) :
    resolve { machine with files := changed }
      = if allBlank text then
          (ownDirectory machine.environment).map fun own => (.fixed, own.child "stagehand.toml")
        else .ok (.pointer, Path.ofText (trim text)) := by
  obtain ⟨found, read⟩ := readText_of_setPointer spelled set
  have named : pointedPath? changed pointer = namedPath? text := by
    rw [pointedPath?, read]
  unfold resolve
  simp only [unnamed, found, bind, Except.bind, named, namedPath?_eq]
  by_cases blank : allBlank text = true
  · simp only [if_pos blank]
    cases ownDirectory machine.environment <;> rfl
  · simp only [if_neg blank]
    rfl

/-- **The pointer file leads to its target.** Let the environment name no configuration file, and
let a path that is text and not empty be set. If that succeeds, the configuration is found by the
pointer file, at this path without the blanks around it. So it is found at exactly this path if
there are none, and only then; if there is nothing but blanks, it is found where it would be without
a pointer file. -/
theorem path_of_setPointer {machine : Machine} {target pointer : Path} {text : String}
    {changed : FileSystem}
    (unnamed : ∀ bytes value, machine.environment.configFile = some bytes →
      decode? bytes = some value → allBlank value = true)
    (spelled : decode? target.bytes = some text) (filled : target.bytes ≠ [])
    (set : setPointer machine target = (changed, .ok pointer)) :
    let later : Machine := { machine with files := changed }
    (Unpadded text → path later = .ok target) ∧
      (resolve later = .ok (.pointer, target) ↔ Unpadded text) ∧
      resolve later
        = if allBlank text then
            (ownDirectory machine.environment).map fun own =>
              (.fixed, own.child "stagehand.toml")
          else .ok (.pointer, Path.ofText (trim text)) := by
  intro later
  have found := resolve_of_setPointer (environmentPath?_eq_none_iff.mpr unnamed) spelled set
  have bytes : target.bytes = encode text := decode?_eq_some_iff.mp spelled
  have target_eq : target = Path.ofText text := congrArg Path.mk bytes
  have exact_iff : resolve later = .ok (.pointer, target) ↔ Unpadded text := by
    rw [found, ← trim_eq_self_iff]
    by_cases blank : allBlank text = true
    · have nothing : trim text = "" := String.isEmpty_iff.mp blank
      rw [if_pos blank, nothing]
      constructor
      · intro fixed
        cases own : ownDirectory machine.environment <;> rw [own] at fixed <;> cases fixed
      · rintro rfl
        exact absurd bytes filled
    · rw [if_neg blank, target_eq]
      constructor
      · intro same
        have path : Path.ofText (trim text) = Path.ofText text :=
          (Prod.mk.inj (Except.ok.inj same)).2
        exact encode_injective (Path.mk.inj path)
      · intro same
        rw [same]
  refine ⟨fun unpadded => ?_, exact_iff, found⟩
  rw [path, exact_iff.mpr unpadded]
  rfl

/-- A path with a blank inside is set where nothing is yet. The variable of the environment holds
blanks. -/
theorem path_of_setPointer_inner_blank :
    let machine : Machine :=
      { environment := ⟨some (encode "/home"), none, none, some (encode " \t")⟩
        files := { cwd := [], nodes := [], nodup := List.nodup_nil } }
    let target : Path := ⟨encode "my conf.toml"⟩
    ∃ changed pointer, setPointer machine target = (changed, .ok pointer) ∧
      path { machine with files := changed } = .ok target := by
  intro machine target
  have unnamed : ∀ bytes value, machine.environment.configFile = some bytes →
      decode? bytes = some value → allBlank value = true :=
    environmentPath?_eq_none_iff.mp (by decide +kernel)
  have spelled : decode? target.bytes = some "my conf.toml" := by decide +kernel
  have done : (setPointer machine target).2
      = .ok ⟨encode "/home/.config/stagehand/.stagehand_config_path"⟩ := by decide +kernel
  generalize made : setPointer machine target = result at done
  obtain ⟨changed, outcome⟩ := result
  obtain rfl : outcome = _ := done
  obtain ⟨found, -, -⟩ := path_of_setPointer unnamed spelled (by decide +kernel) made
  exact ⟨changed, _, rfl, found (by decide +kernel)⟩

/-- A path with a blank at an end, or of blanks only, is set without an error and is not where the
configuration is found then. -/
theorem padded_targets_lost :
    let machine : Machine :=
      { environment := ⟨some (encode "home"), none, none, none⟩
        files := { cwd := [], nodes := [], nodup := List.nodup_nil } }
    ∀ text ∈ [" new.toml", "new.toml\n", "  "],
      let target : Path := ⟨encode text⟩
      let later : Machine := { machine with files := (setPointer machine target).1 }
      (setPointer machine target).2 = pointerPath machine.environment ∧
        (pointerPath machine.environment).isOk ∧ path later ≠ .ok target := by
  decide +kernel

end SessionHost.Config
