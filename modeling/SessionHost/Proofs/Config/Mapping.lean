import Mathlib.Data.List.Induction
import SessionHost.Proofs.Config.Keeping

/-!
A configuration as a map over its keys.

`setAll` sets names one after the other, and `value?_setAll` says what a key then has. What can be
asked of a configuration, what is listed of it and what is saved of it speak of the same four names:
`asked_listed_and_saved_alike`.
-/

namespace SessionHost.Config

open Toml

/-! ### Setting names in a row -/

/-- The configuration after a name was set, or as it was if the name is no key. -/
def settle (config : Config) (name value : String) : Config :=
  match config.set name value with
  | .ok updated => updated
  | .error _ => config

/-- The configuration after names were set in order. -/
def setAll (config : Config) (sets : List (String × String)) : Config :=
  sets.foldl (fun config entry => config.settle entry.1 entry.2) config

/-- The value that a name was set to last, if it was set. -/
def lastSet? (sets : List (String × String)) (name : String) : Option String :=
  sets.reverse.lookup name

theorem setAll_append_singleton (config : Config) (sets : List (String × String))
    (name value : String) :
    config.setAll (sets ++ [(name, value)]) = (config.setAll sets).settle name value := by
  rw [setAll, List.foldl_append]
  rfl

theorem lastSet?_append_singleton (sets : List (String × String)) (name value other : String) :
    lastSet? (sets ++ [(name, value)]) other
      = if other = name then some value else lastSet? sets other := by
  rw [lastSet?, List.reverse_append, List.reverse_singleton, List.singleton_append,
    List.lookup_cons]
  by_cases same : other = name
  · simp [same]
  · rw [beq_false_of_ne same, if_neg same]
    rfl

theorem Key.name_injective {key other : Key} (same : key.name = other.name) : key = other :=
  name_toList_injective (congrArg String.toList same)

/-- Setting a name gives its key the value and leaves the other keys alone. -/
theorem value?_settle (config : Config) (name value : String) (key : Key) :
    (config.settle name value).value? key
      = if key.name = name then some value else config.value? key := by
  unfold settle Config.set
  cases named : Config.key name with
  | error error =>
      have other : key.name ≠ name := fun same => by
        rw [key_eq_ok_iff.mpr same] at named
        cases named
      rw [if_neg other]
      rfl
  | ok found =>
      obtain rfl := key_eq_ok_iff.mp named
      have same : key.name = found.name ↔ key = found := ⟨Key.name_injective, congrArg Key.name⟩
      simp only [Except.map, value?_put, same]

/-- After sets a key has the value that its name was set to last, and the one it had before if its
name was not set. -/
theorem value?_setAll (config : Config) (sets : List (String × String)) (key : Key) :
    (config.setAll sets).value? key = (lastSet? sets key.name).or (config.value? key) := by
  induction sets using List.reverseRecOn with
  | nil => rfl
  | append_singleton sets entry ih =>
      rw [setAll_append_singleton, value?_settle, lastSet?_append_singleton, ih]
      split <;> rfl

/-! ### Names -/

/-- The names of the keys in the order in which they are listed. -/
def names : List String := Key.all.map Key.name

theorem mem_names_iff {name : String} : name ∈ names ↔ ∃ key : Key, key.name = name := by
  have all (key : Key) : key ∈ Key.all := by cases key <;> decide
  simp [names, all]

/-- A name that is no key is refused by its name. -/
theorem key_eq_error_iff {name : String} {error : Error} :
    Config.key name = .error error ↔ name ∉ names ∧ error = .unknownKey name := by
  rw [mem_names_iff]
  unfold Config.key
  cases found : Key.ofName? name with
  | some key =>
      simp only [reduceCtorEq, false_iff, not_and]
      exact fun unknown => absurd ⟨key, Key.ofName?_eq_some_iff.mp found⟩ unknown
  | none =>
      have unknown : ¬ ∃ key : Key, key.name = name := by
        rintro ⟨key, named⟩
        rw [Key.ofName?_eq_some_iff.mpr named] at found
        cases found
      simp only [unknown, not_false_eq_true, true_and, Except.error.injEq]
      exact eq_comm

section

variable (config : Config) (sets : List (String × String))

/-- Asking for a name after sets shows what it was set to last, and a name that is no key is
refused. -/
theorem get_setAll (name : String) :
    (({} : Config).setAll sets).get name
      = if name ∈ names then .ok (lastSet? sets name) else .error (.unknownKey name) := by
  by_cases member : name ∈ names
  · obtain ⟨key, rfl⟩ := mem_names_iff.mp member
    have unset : ({} : Config).value? key = none := by cases key <;> rfl
    rw [if_pos member, Config.get, key_eq_ok_iff.mpr rfl, Except.map, value?_setAll, unset,
      Option.or_none]
  · rw [if_neg member, Config.get, key_eq_error_iff.mpr ⟨member, rfl⟩]
    rfl

/-- A set changes nothing if the name is no key, and says so. -/
theorem set_eq (name value : String) :
    config.set name value
      = if name ∈ names then .ok (config.settle name value) else .error (.unknownKey name) := by
  by_cases member : name ∈ names
  · obtain ⟨key, rfl⟩ := mem_names_iff.mp member
    rw [if_pos member, settle, Config.set, key_eq_ok_iff.mpr rfl]
    rfl
  · rw [if_neg member, Config.set, key_eq_error_iff.mpr ⟨member, rfl⟩]
    rfl

theorem settle_of_notMem {name : String} (unknown : name ∉ names) (value : String) :
    config.settle name value = config := by
  rw [settle, set_eq, if_neg unknown]

/-! ### What is listed and what is saved -/

/-- What is listed after sets: the names that were set, in the order of the keys. -/
theorem values_setAll :
    (({} : Config).setAll sets).values.map (fun entry => (entry.1.name, entry.2))
      = names.filterMap fun name => (lastSet? sets name).map fun value => (name, value) := by
  rw [values, names, List.map_filterMap, List.filterMap_map]
  refine List.filterMap_congr fun key _ => ?_
  have unset : ({} : Config).value? key = none := by cases key <;> rfl
  rw [value?_setAll, unset, Option.or_none, Option.map_map]
  rfl

/-- A configuration is empty exactly if nothing is listed of it. -/
theorem isEmpty_iff_values_eq_nil : config.isEmpty = true ↔ config.values = [] := by
  have unset : config.isEmpty = true ↔ ∀ key, config.value? key = none := by
    simp only [isEmpty, Bool.and_eq_true, Option.isNone_iff_eq_none]
    constructor
    · rintro ⟨⟨⟨appId, settings⟩, records⟩, log⟩ (_ | _ | _ | _)
      exacts [appId, settings, records, log]
    · exact fun none => ⟨⟨⟨none .appId, none .settingsDir⟩, none .recordsDir⟩, none .logDir⟩
  have all (key : Key) : key ∈ Key.all := by cases key <;> decide
  simp [unset, values, all]

/-- The entries of the saved form are what is listed. -/
theorem lines_eq :
    config.lines.map (fun entry => (entry.1, Value.text entry.2))
      = (config.values.map fun entry => (entry.1.name, entry.2)).map fun entry =>
          (entry.1.toList, .text entry.2.toList) := by
  rw [lines, List.map_map, List.map_map]
  rfl

/-- A name that the saved form can have is the name of a key. -/
theorem mem_names_of_saved {name : String} {table : Table}
    (saved : Toml.parse? config.render = some table)
    (got : (table.get? name.toList).isSome = true) : name ∈ names := by
  obtain rfl := Option.some.inj ((parse?_render config).symm.trans saved)
  obtain ⟨entry, member, named⟩ := List.lookup_isSome_iff.mp got
  obtain ⟨line, saved, rfl⟩ := List.mem_map.mp member
  have key : name.toList ∈ config.lines.map Prod.fst := by
    rw [eq_of_beq named]
    exact List.mem_map_of_mem saved
  rw [map_fst_lines] at key
  obtain ⟨key, -, same⟩ := List.mem_map.mp key
  exact mem_names_iff.mpr ⟨key, String.toList_injective same⟩

end

/-- **A configuration is a map over four names.** Let names be set in any order on an empty
configuration. Asking for one of the four names shows the text that it was set to last; asking for
any other name and setting it are refused with this name, and change nothing. What is listed are the
names that were set with these texts, each once and always in the same order, and this is what the
saved form has as its entries. The configuration is empty exactly if nothing is listed, and exactly
if nothing is saved. The names that can be saved are those that can be asked for and set. -/
theorem asked_listed_and_saved_alike (sets : List (String × String)) :
    let names : List String := ["app-id", "settings-dir", "records-dir", "log-dir"]
    let config := ({} : Config).setAll sets
    let listed := config.values.map fun entry => (entry.1.name, entry.2)
    (∀ name, config.get name
      = if name ∈ names then .ok (lastSet? sets name) else .error (.unknownKey name)) ∧
    (∀ name value,
      let later := ({} : Config).setAll (sets ++ [(name, value)])
      config.set name value = (if name ∈ names then .ok later else .error (.unknownKey name)) ∧
        (name ∈ names ∨ later = config)) ∧
    listed = (names.filterMap fun name => (lastSet? sets name).map fun value => (name, value)) ∧
    (∀ name value, (name, value) ∈ listed ↔ config.get name = .ok (some value)) ∧
    (config.isEmpty = true ↔ config.values = []) ∧
    (∃ table, Toml.parse? config.render = some table ∧ ofTable? table = some config ∧
      table.entries = (listed.map fun entry => (entry.1.toList, .text entry.2.toList)) ∧
      (config.isEmpty = true ↔ table.entries = [])) ∧
    ∀ name, name ∈ names ↔
      ∃ later table, Toml.parse? (({} : Config).setAll (sets ++ later)).render = some table ∧
        (table.get? name.toList).isSome = true := by
  intro names' config listed
  have same : names' = names := rfl
  have listing : listed = names.filterMap fun name =>
      (lastSet? sets name).map fun value => (name, value) := values_setAll sets
  have empty : config.isEmpty = true ↔ config.values = [] := isEmpty_iff_values_eq_nil config
  refine ⟨get_setAll sets, fun name value => ?_, listing, fun name value => ?_, empty, ?_,
    fun name => ?_⟩
  · rw [same]
    have later : ({} : Config).setAll (sets ++ [(name, value)]) = config.settle name value :=
      setAll_append_singleton {} sets name value
    rw [later]
    exact ⟨set_eq config name value, or_iff_not_imp_left.mpr fun unknown =>
      settle_of_notMem config unknown value⟩
  · rw [listing, get_setAll]
    simp only [List.mem_filterMap, Option.map_eq_some_iff, Prod.mk.injEq]
    constructor
    · rintro ⟨other, member, text, set, rfl, rfl⟩
      rw [if_pos member, set]
    · intro got
      split at got
      · rename_i member
        exact ⟨name, member, value, Except.ok.inj got, rfl, rfl⟩
      · cases got
  · refine ⟨_, parse?_render config, ?_, lines_eq config, ?_⟩
    · have read := parse?_render_eq config
      rwa [parse?, parse?_render] at read
    · rw [empty, lines_eq, List.map_eq_nil_iff, List.map_eq_nil_iff]
  · rw [same]
    constructor
    · intro member
      obtain ⟨key, rfl⟩ := mem_names_iff.mp member
      refine ⟨[(key.name, "")], _, parse?_render _, ?_⟩
      rw [Table.get?, lookup_lines, setAll_append_singleton, value?_settle, if_pos rfl]
      rfl
    · rintro ⟨later, table, saved, got⟩
      exact mem_names_of_saved _ saved got

example : (({} : Config).setAll [("log-dir", "a"), ("theme", "b"), ("app-id", "c"),
    ("log-dir", "d")]).values = [(.appId, "c"), (.logDir, "d")] := by decide

end SessionHost.Config
