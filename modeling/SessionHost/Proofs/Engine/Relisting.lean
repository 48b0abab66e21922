import SessionHost.Proofs.Engine.Answers

/-!
Plugins that are scanned, and listed by their names after that.

A scan takes the names of plugins from file names, and a list of plugins makes file names out of
names. `named_of_ofFileName?` says that this leads back to the same manifest if its file name is
text. What a list does not ask for in vain is a file, so that `discover_scanned` has the files among
the scanned plugins come back, and `scanned_plugins_lost` shows what does not.
-/

namespace SessionHost.Engine

open Text FileSystem

namespace PluginEntry

variable {root : Path} {fileName : Bytes} {fileNames : List Bytes} {entry : PluginEntry}

/-- A plugin has the name that makes up its manifest's file name together with the extension, if
that file name is text. -/
theorem encode_name_of_ofFileName? (scanned : ofFileName? root fileName = some entry)
    (valid : (decode? fileName).isSome = true) :
    encode (entry.name ++ "." ++ Manifest.extension) = fileName := by
  unfold ofFileName? at scanned
  split at scanned
  · rename_i manifest
    obtain rfl := Option.some.inj scanned
    have parts : fileName = Path.stem fileName ++ Path.dot :: encode Manifest.extension :=
      Path.eq_stem_append manifest
    obtain ⟨text, spelled⟩ := Option.isSome_iff_exists.mp valid
    have whole : Path.stem fileName ++ Path.dot :: encode Manifest.extension = encode text := by
      rw [← parts]
      exact decode?_eq_some_iff.mp spelled
    -- The dot and the extension are single bytes, so that the stem is a text of its own.
    obtain ⟨start, stem⟩ := exists_encode_of_append (by decide +kernel) whole
    simp only [stem, lossy_encode]
    rw [parts, stem, encode_append, encode_append, List.append_assoc]
    rfl
  · cases scanned

/-- A plugin that is listed by the name it was scanned with has the manifest that was scanned, if
the file name of that is text. -/
theorem named_of_ofFileName? (scanned : ofFileName? root fileName = some entry)
    (valid : (decode? fileName).isSome = true) : named root entry.name = entry := by
  have again := encode_name_of_ofFileName? scanned valid
  unfold ofFileName? at scanned
  split at scanned
  · obtain rfl := Option.some.inj scanned
    unfold named Path.child Path.ofText
    rw [again]
  · cases scanned

theorem mem_scan : entry ∈ scan root fileNames ↔
    ∃ fileName ∈ fileNames, ofFileName? root fileName = some entry := by
  unfold scan
  rw [(List.mergeSort_perm _ _).mem_iff, List.mem_filterMap]

end PluginEntry

/-- The manifests that a plugin directory shows have file names that are text. -/
def ManifestsNamed (files : FileSystem) (root : Path) : Prop :=
  ∀ fileNames, files.list root = .ok fileNames → ∀ fileName ∈ fileNames,
    isManifestName fileName = true → (decode? fileName).isSome = true

/-- The plugins of a profile that lists none are a scan of its plugin directory. -/
theorem exists_scan_of_discover {files : FileSystem} {pluginDir : String} {path : Path}
    {entries : List PluginEntry} (found : discover files [] pluginDir path = .ok entries) :
    let root := Profile.pluginRoot pluginDir path
    ∃ fileNames, files.list root = .ok fileNames ∧ PluginEntry.scan root fileNames = entries := by
  intro root
  unfold discover at found
  rw [List.isEmpty_nil, if_pos rfl] at found
  split at found
  · rename_i fileNames listed
    exact ⟨fileNames, listed, Except.ok.inj found⟩
  · cases found

/-- **What was scanned is found again by its names,** where the manifests have names that are text.
A profile that lists no plugins has the plugins of a scan. If it lists their names instead, in the
same order, then it has those of them whose manifest is a file, names and paths alike, and nothing
else. So it has the same plugins exactly if all of them are files. -/
theorem discover_scanned {files : FileSystem} {pluginDir : String} {path : Path}
    {entries : List PluginEntry} (found : discover files [] pluginDir path = .ok entries)
    (filled : entries ≠ [])
    (named : ManifestsNamed files (Profile.pluginRoot pluginDir path)) :
    let again := discover files (entries.map (·.name)) pluginDir path
    again = .ok (entries.filter fun entry => files.isFile entry.path) ∧
      (again = .ok entries ↔ ∀ entry ∈ entries, files.isFile entry.path = true) := by
  intro again
  obtain ⟨fileNames, listed, scanned⟩ := exists_scan_of_discover found
  have same : ∀ entry ∈ entries,
      PluginEntry.named (Profile.pluginRoot pluginDir path) entry.name = entry := by
    intro entry member
    rw [← scanned] at member
    obtain ⟨fileName, shown, scannedAs⟩ := PluginEntry.mem_scan.mp member
    apply PluginEntry.named_of_ofFileName? scannedAs
    apply named fileNames listed fileName shown
    unfold PluginEntry.ofFileName? at scannedAs
    by_cases manifest : Path.extension? fileName = some (encode Manifest.extension)
    · exact decide_eq_true manifest
    · rw [if_neg manifest] at scannedAs
      cases scannedAs
  have kept : again = .ok (entries.filter fun entry => files.isFile entry.path) := by
    have listing : (entries.map (·.name)).isEmpty = false := by simpa using filled
    have entries_eq : (entries.map (·.name)).map
        (PluginEntry.named (Profile.pluginRoot pluginDir path)) = entries := by
      rw [List.map_map]
      exact (List.map_congr_left same).trans (List.map_id _)
    simp only [again, discover, listing, Bool.false_eq_true, if_false, entries_eq]
  refine ⟨kept, ?_⟩
  rw [kept, Except.ok.injEq]
  exact List.filter_eq_self

/-- A directory with a dotted name, a plain one and a manifest that is a directory itself. The first
two come back. -/
theorem discover_scanned_dotted_name :
    let files : FileSystem :=
      { cwd := []
        nodes :=
          [([encode "plugins"], .directory), ([encode "plugins", encode "a.b.toml"], .file []),
            ([encode "plugins", encode "c.toml"], .file []),
            ([encode "plugins", encode "d.toml"], .directory)] }
    let root : Path := ⟨encode "plugins"⟩
    let file (name : String) : PluginEntry := .named root name
    discover files [] "plugins" ⟨encode "game.toml"⟩ = .ok [file "a.b", file "c", file "d"] ∧
      ManifestsNamed files root ∧
      discover files ["a.b", "c", "d"] "plugins" ⟨encode "game.toml"⟩
        = .ok [file "a.b", file "c"] := by
  intro files root file
  have shown : files.list root = .ok [encode "a.b.toml", encode "c.toml", encode "d.toml"] := by
    decide +kernel
  have inside : Profile.pluginRoot "plugins" ⟨encode "game.toml"⟩ = root := by decide
  have scanned : PluginEntry.scan root [encode "a.b.toml", encode "c.toml", encode "d.toml"]
      = [file "a.b", file "c", file "d"] := by
    have entries : [encode "a.b.toml", encode "c.toml", encode "d.toml"].filterMap
        (PluginEntry.ofFileName? root) = [file "a.b", file "c", file "d"] := by
      decide +kernel
    rw [PluginEntry.scan, entries]
    exact List.mergeSort_of_pairwise (by decide +kernel)
  have found : discover files [] "plugins" ⟨encode "game.toml"⟩
      = .ok [file "a.b", file "c", file "d"] := by
    simp only [discover, List.isEmpty_nil, if_true, inside, shown, scanned]
  have named : ManifestsNamed files root := by
    intro fileNames listed
    obtain rfl := Except.ok.inj (shown.symm.trans listed)
    decide +kernel
  have kept : [file "a.b", file "c", file "d"].filter (fun entry => files.isFile entry.path)
      = [file "a.b", file "c"] := by
    decide +kernel
  refine ⟨found, named, ?_⟩
  rw [← kept]
  exact (discover_scanned found (List.cons_ne_nil _ _) (inside.symm ▸ named)).1

/-- A scan can show plugins that are not found by their names: one whose manifest is a directory,
and one whose manifest has a name that is no text. -/
theorem scanned_plugins_lost :
    let files (name : Bytes) (node : Node) : FileSystem :=
      { cwd := []
        nodes := [([encode "plugins"], .directory), ([encode "plugins", name], node)]
        nodup := by simp }
    let root : Path := ⟨encode "plugins"⟩
    ∀ lost ∈ [(encode "x.toml", Node.directory), ([0xFF] ++ encode ".toml", Node.file [])],
      let found : PluginEntry := ⟨lossy (Path.stem lost.1), root.join ⟨lost.1⟩⟩
      discover (files lost.1 lost.2) [] "plugins" ⟨encode "game.toml"⟩ = .ok [found] ∧
        discover (files lost.1 lost.2) [found.name] "plugins" ⟨encode "game.toml"⟩ = .ok [] := by
  intro files root lost member
  have inside : Profile.pluginRoot "plugins" ⟨encode "game.toml"⟩ = root := by decide
  have shown : (files lost.1 lost.2).list root = .ok [lost.1] := by
    revert lost
    decide +kernel
  have entry : PluginEntry.ofFileName? root lost.1
      = some ⟨lossy (Path.stem lost.1), root.join ⟨lost.1⟩⟩ := by
    revert lost
    decide +kernel
  have scanned : PluginEntry.scan root [lost.1]
      = [⟨lossy (Path.stem lost.1), root.join ⟨lost.1⟩⟩] := by
    rw [PluginEntry.scan, List.filterMap_cons_some entry, List.filterMap_nil,
      List.mergeSort_singleton]
  refine ⟨?_, ?_⟩
  · simp only [discover, List.isEmpty_nil, if_true, inside, shown, scanned]
  · revert lost
    decide +kernel

end SessionHost.Engine
