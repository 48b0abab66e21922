import SessionHost.Engine.Plugin

/-!
The names of the plugins that are found.

`Finds` says which names a profile comes to, and `finds_discover` that `discover` finds these.
-/

namespace SessionHost.Engine

/-- What is sorted by a key stands in the order of the key. -/
theorem pairwise_mergeSort_of_key {α β : Type} [LT β] [DecidableLT β] [LE β] [Std.IsLinearOrder β]
    [Std.LawfulOrderLT β] (key : α → β) (xs : List α) :
    (xs.mergeSort fun a b => !decide (key b < key a)).Pairwise fun a b => key a ≤ key b := by
  have ordered_iff (a b : α) : (!decide (key b < key a)) = true ↔ key a ≤ key b := by
    rw [Bool.not_eq_true', decide_eq_false_iff_not, Std.not_lt]
  have trans (a b c : α) (ab : (!decide (key b < key a)) = true)
      (bc : (!decide (key c < key b)) = true) : (!decide (key c < key a)) = true := by
    rw [ordered_iff] at *
    exact Std.le_trans ab bc
  have total (a b : α) :
      ((!decide (key b < key a)) || !decide (key a < key b)) = true := by
    rw [Bool.or_eq_true, ordered_iff, ordered_iff]
    exact Std.le_total
  exact (List.pairwise_mergeSort trans total xs).imp (ordered_iff _ _).mp

namespace PluginEntry

/-- The scanned plugins stand in the order of their names. -/
theorem pairwise_scan (root : Path) (fileNames : List Bytes) :
    (scan root fileNames).Pairwise fun a b => a.name ≤ b.name :=
  pairwise_mergeSort_of_key _ _

/-- The names of the scanned plugins are the stems of the manifests, whatever their order. -/
theorem map_name_scan_perm (root : Path) (fileNames : List Bytes) :
    ((scan root fileNames).map (·.name)).Perm
      ((fileNames.filter fun fileName =>
          Path.extension? fileName = some (Text.encode Manifest.extension)).map
        fun fileName => Text.lossy (Path.stem fileName)) := by
  have names : (fileNames.filterMap (ofFileName? root)).map (·.name)
      = (fileNames.filter fun fileName =>
          Path.extension? fileName = some (Text.encode Manifest.extension)).map
        fun fileName => Text.lossy (Path.stem fileName) := by
    induction fileNames with
    | nil => rfl
    | cons fileName rest ih =>
        by_cases manifest : Path.extension? fileName = some (Text.encode Manifest.extension)
        · simp [ofFileName?, manifest, ih]
        · simp [ofFileName?, manifest, ih]
  rw [← names]
  exact (List.mergeSort_perm _ _).map _

/-- The names of the plugins that a profile lists are the names that it lists. -/
theorem map_name_filter_named (root : Path) (p : Path → Bool) (names : List String) :
    (((names.map (named root)).filter fun entry => p entry.path).map (·.name))
      = names.filter fun name => p (root.child (name ++ "." ++ Manifest.extension)) := by
  rw [List.filter_map, List.map_map]
  exact List.map_id _

end PluginEntry

/-- The names that a profile's plugins come to: of the names that it lists, in their order and as
often as they are listed, those whose manifest is a file; or, if it lists none, the stems of all
manifests in its plugin directory, sorted. -/
inductive Finds (files : FileSystem) (root : Path) (plugins : List String) :
    List String → Prop where
  | listed (lists : plugins ≠ []) :
      Finds files root plugins
        (plugins.filter fun name =>
          files.isFile (root.child (name ++ "." ++ Manifest.extension)))
  | scanned {fileNames : List Bytes} {names : List String} (empty : plugins = [])
      (shown : files.list root = .ok fileNames)
      (stems : names.Perm
        ((fileNames.filter fun fileName =>
            Path.extension? fileName = some (Text.encode Manifest.extension)).map
          fun fileName => Text.lossy (Path.stem fileName)))
      (sorted : names.Pairwise (· ≤ ·)) :
      Finds files root plugins names

/-- The plugins of a profile are found. -/
theorem finds_discover {files : FileSystem} {plugins : List String} {pluginDir : String}
    {path : Path} {entries : List PluginEntry}
    (found : discover files plugins pluginDir path = .ok entries) :
    Finds files (Profile.pluginRoot pluginDir path) plugins (entries.map (·.name)) := by
  unfold discover at found
  cases plugins with
  | nil =>
      cases listed : files.list (Profile.pluginRoot pluginDir path) with
      | error cause => simp [listed] at found
      | ok fileNames =>
          simp only [listed, List.isEmpty_nil, if_true, Except.ok.injEq] at found
          subst found
          refine .scanned rfl listed (PluginEntry.map_name_scan_perm _ _) ?_
          exact List.pairwise_map.mpr (PluginEntry.pairwise_scan _ _)
  | cons name rest =>
      simp only [List.isEmpty_cons, Bool.false_eq_true, if_false, Except.ok.injEq] at found
      subst found
      rw [PluginEntry.map_name_filter_named _ files.isFile]
      exact .listed (List.cons_ne_nil _ _)

end SessionHost.Engine
