import SessionHost.Config.Storage
import SessionHost.Proofs.FileSystem.Growth
import SessionHost.Proofs.Toml.Lines

/-!
A configuration that was saved is loaded as it was.
-/

namespace SessionHost.Config

open Text Toml

/-! ### The saved form -/

theorem Key.isBareKey_name (key : Key) : IsBareKey key.name.toList where
  nonempty := by cases key <;> decide
  bare := List.all_eq_true.mp (by cases key <;> rfl)

theorem Key.name_toList_injective {key other : Key} (same : key.name.toList = other.name.toList) :
    key = other := by
  cases key <;> cases other <;> first | rfl | exact absurd same (by decide)

/-- The characters of the keys that are set, with those of their values. -/
def lines (config : Config) : List (List Char × List Char) :=
  config.values.map fun entry => (entry.1.name.toList, entry.2.toList)

theorem toList_render (config : Config) : config.render.toList = config.lines.flatMap textLine := by
  rw [render, String.toList_ofList, lines, List.flatMap_map]
  rfl

/-- The keys that are saved are those that are set, in their order. -/
theorem map_fst_lines (config : Config) :
    config.lines.map Prod.fst
      = (Key.all.filter fun key => (config.value? key).isSome).map fun key => key.name.toList := by
  have keys : config.values.map Prod.fst
      = Key.all.filter fun key => (config.value? key).isSome := by
    rw [values, List.map_filterMap, ← List.filterMap_eq_filter]
    congr 1
    funext key
    cases set : config.value? key <;> simp [Option.guard, set]
  rw [← keys, lines, List.map_map, List.map_map]
  rfl

/-- No key is saved twice. -/
theorem nodup_lines (config : Config) : (config.lines.map Prod.fst).Nodup := by
  have distinct : Key.all.Nodup := by decide
  rw [map_fst_lines]
  refine List.Pairwise.map _ ?_ (distinct.filter _)
  intro key other differ same
  exact differ (Key.name_toList_injective same)

theorem isBareKey_of_mem_lines {config : Config} {entry : List Char × List Char}
    (member : entry ∈ config.lines) : IsBareKey entry.1 := by
  obtain ⟨value, -, rfl⟩ := List.mem_map.mp member
  exact Key.isBareKey_name value.1

/-- The saved form is a document with the keys that are set. -/
theorem parse?_render (config : Config) :
    Toml.parse? config.render
      = some ⟨.header, config.lines.map fun entry => (entry.1, .text entry.2)⟩ := by
  have read : readLines .fresh (config.lines.flatMap textLine)
      = some ⟨⟨.header, config.lines.map fun entry => (entry.1, .text entry.2)⟩, []⟩ :=
    readLines_textLine (fun _ => isBareKey_of_mem_lines) (fun _ _ => rfl) config.nodup_lines
  have unmarked (rest : List Char) : config.lines.flatMap textLine ≠ '\uFEFF' :: rest :=
    flatMap_textLine_ne_cons (fun _ => isBareKey_of_mem_lines) (by decide) rest
  rw [Toml.parse?, toList_render]
  split
  · rename_i rest marked
    exact absurd marked (unmarked rest)
  · rw [read]
    rfl

/-- Looking up a key among the texts of some keys. -/
theorem lookup_filterMap (config : Config) (keys : List Key) (key : Key) :
    ((keys.filterMap fun key => (config.value? key).map fun value => (key, value)).map fun entry =>
        (entry.1.name.toList, Value.text entry.2.toList)).lookup key.name.toList
      = if key ∈ keys then (config.value? key).map fun value => .text value.toList else none := by
  induction keys with
  | nil => rfl
  | cons first keys ih =>
      cases set : config.value? first with
      | none =>
          rw [List.filterMap_cons_none (by simp [set]), ih]
          by_cases same : key = first
          · subst same
            simp [set]
          · simp [same]
      | some value =>
          rw [List.filterMap_cons_some (by rw [set]; rfl), List.map_cons, List.lookup_cons, ih]
          by_cases same : key = first
          · subst same
            simp [set]
          · have other : (key.name.toList == first.name.toList) = false := by
              rw [beq_eq_false_iff_ne]
              exact fun equal => same (Key.name_toList_injective equal)
            simp [same, other]

/-- In this document each key has its value. -/
theorem lookup_lines (config : Config) (key : Key) :
    (config.lines.map fun entry => (entry.1, Value.text entry.2)).lookup key.name.toList
      = (config.value? key).map fun value => .text value.toList := by
  have found := lookup_filterMap config Key.all key
  rw [if_pos (by cases key <;> decide)] at found
  rw [← found, lines, List.map_map]
  rfl

/-- The saved form stands for the configuration. -/
theorem parse?_render_eq (config : Config) : parse? config.render = some config := by
  have text (key : Key) :
      Table.optionalText? ⟨.header, config.lines.map fun entry => (entry.1, .text entry.2)⟩ key.name
        = some (config.value? key) := by
    rw [Table.optionalText?, Table.get?, lookup_lines]
    cases config.value? key with
    | none => rfl
    | some value => simp
  rw [parse?, parse?_render]
  simp only [Option.bind_eq_bind, Option.bind_some, ofTable?, text]
  rfl

/-! ### Files -/

/-- What was stored was written last of all, and before it only directories were made. -/
theorem grows_and_write_of_store {files changed : FileSystem} {path : Path} {content : Bytes}
    (stored : store files path content = (changed, .ok ())) :
    ∃ made : FileSystem, FileSystem.Grows files made ∧
      made.write path content = (changed, .ok ()) := by
  have provided : files.provide path content = (changed, .ok ()) := by
    unfold store at stored
    generalize files.provide path content = result at stored
    obtain ⟨after, outcome⟩ := result
    cases outcome with
    | ok done => rw [(Prod.mk.inj stored).1]
    | error cause => cases (Prod.mk.inj stored).2
  obtain ⟨made, grows, ⟨error, failed⟩ | wrote⟩ := files.provide_cases path content
  · cases failed.symm.trans provided
  · exact ⟨made, grows, wrote.symm.trans provided⟩

theorem write_of_store {files changed : FileSystem} {path : Path} {content : Bytes}
    (stored : store files path content = (changed, .ok ())) :
    ∃ made : FileSystem, made.write path content = (changed, .ok ()) :=
  (grows_and_write_of_store stored).imp fun _ => And.right

/-- **What was saved is loaded.** If a configuration could be saved to a file, then loading from
this file gives it back: every value is the text that it was, whatever is in it, and what was not
set is not set. -/
theorem loadFrom_of_saveTo {config : Config} {files changed : FileSystem} {path : Path}
    (saved : config.saveTo files path = (changed, .ok ())) :
    loadFrom changed path = .ok config := by
  obtain ⟨made, written⟩ := write_of_store saved
  obtain ⟨holds, read⟩ := FileSystem.readText_of_write written
  rw [loadFrom, holds, if_pos rfl, read]
  simp only [parse?_render_eq]

/-- A file in a directory that has to be made first, with texts of several kinds: runs of both
quotes and a backslash, a line end between controls, nothing at all, and one that is not set. -/
theorem loadFrom_of_saveTo_several_kinds :
    let config : Config :=
      { appId := some "\"\"\"\x27\x27\x27\\"
        settingsDir := some "\r\n\x7f"
        recordsDir := some "" }
    ∃ changed,
      config.saveTo .empty ⟨encode "conf/stagehand.toml"⟩ = (changed, .ok ()) ∧
        loadFrom changed ⟨encode "conf/stagehand.toml"⟩ = .ok config := by
  have stored (content : Bytes) :
      (store .empty ⟨encode "conf/stagehand.toml"⟩ content).2 = .ok () := rfl
  intro config
  have saved := stored (encode config.render)
  generalize made : store .empty ⟨encode "conf/stagehand.toml"⟩ (encode config.render) = result
    at saved
  obtain ⟨changed, outcome⟩ := result
  obtain rfl : outcome = .ok () := saved
  exact ⟨changed, made, loadFrom_of_saveTo made⟩

end SessionHost.Config
