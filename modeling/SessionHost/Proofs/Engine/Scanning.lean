import SessionHost.Proofs.Engine.Relisting
import SessionHost.Proofs.Text.Order

/-!
What a scan of a plugin directory finds.

Where file names are text, a plugin stands for its manifest and a manifest for its plugin
(`map_manifestName_filterMap`). A scan is in the order of the names of plugins, which is not that of
the file names: `a-b.toml` comes before `a.toml`, and the plugin `a` before `a-b`. Main statement:
`discover_finds_all`.
-/

namespace SessionHost.Engine

open Text FileSystem

/-- A file name is that of a manifest if it ends in the extension, and in something before it. -/
theorem isManifestName_iff {fileName : Bytes} :
    isManifestName fileName = true ↔ ∃ start, start ≠ [] ∧ fileName = start ++ encode ".toml" := by
  have ending : encode ".toml" = Path.dot :: encode Manifest.extension := by decide
  rw [isManifestName, decide_eq_true_eq, Path.extension?_eq_some_iff (by decide), ending]

namespace PluginEntry

variable {root : Path} {fileNames others : List Bytes} {entry : PluginEntry}

/-- The file name that a plugin's manifest has. -/
def manifestName (entry : PluginEntry) : Bytes := encode (entry.name ++ ".toml")

theorem manifestName_eq (entry : PluginEntry) :
    entry.manifestName = encode (entry.name ++ "." ++ Manifest.extension) := by
  rw [String.append_assoc]
  rfl

theorem isSome_ofFileName? (root : Path) (fileName : Bytes) :
    (ofFileName? root fileName).isSome = isManifestName fileName := by
  unfold ofFileName? isManifestName
  split
  · rename_i manifest
    simp [manifest]
  · rename_i other
    simp [other]

/-- Other files than manifests do not count. -/
theorem filterMap_ofFileName? (root : Path) (fileNames : List Bytes) :
    fileNames.filterMap (ofFileName? root)
      = (fileNames.filter isManifestName).filterMap (ofFileName? root) := by
  rw [List.filterMap_filter]
  congr 1
  funext fileName
  split
  · rfl
  · rename_i other
    rw [← isSome_ofFileName? root, Bool.not_eq_true, Option.isSome_eq_false_iff,
      Option.isNone_iff_eq_none] at other
    exact other

variable (valid : ∀ fileName ∈ fileNames, (decode? fileName).isSome = true)

include valid

/-- The plugins of a directory have the manifests in it, one for one. -/
theorem map_manifestName_filterMap :
    (fileNames.filterMap (ofFileName? root)).map manifestName
      = fileNames.filter isManifestName := by
  induction fileNames with
  | nil => rfl
  | cons fileName rest ih =>
      have here := isSome_ofFileName? root fileName
      rw [List.filterMap_cons, List.filter_cons, ← here]
      rw [List.forall_mem_cons] at valid
      cases scanned : ofFileName? root fileName with
      | none => simpa using ih valid.2
      | some entry =>
          have same := encode_name_of_ofFileName? scanned valid.1
          simp [manifestName_eq, same, ih valid.2]

theorem map_manifestName_scan_perm :
    ((scan root fileNames).map manifestName).Perm (fileNames.filter isManifestName) := by
  rw [← map_manifestName_filterMap valid]
  exact (List.mergeSort_perm _ _).map _

/-- A scanned plugin is the plugin of its name. -/
theorem named_of_mem_scan (member : entry ∈ scan root fileNames) :
    named root entry.name = entry := by
  obtain ⟨fileName, shown, scanned⟩ := mem_scan.mp member
  exact named_of_ofFileName? scanned (valid fileName shown)

/-- No two plugins of a scan have the same name. -/
theorem pairwise_lt_scan (nodup : fileNames.Nodup) :
    (scan root fileNames).Pairwise fun a b => a.name < b.name := by
  have different : ((scan root fileNames).map manifestName).Nodup :=
    (map_manifestName_scan_perm valid).nodup_iff.mpr (nodup.filter _)
  refine (pairwise_scan root fileNames).imp₂ (fun a b ordered other => ?_)
    (List.pairwise_map.mp different)
  refine Std.lt_of_le_of_ne ordered fun same => other ?_
  rw [manifestName, manifestName, same]

/-- The order in which file names come, and those of no manifests, make no difference. -/
theorem scan_eq_of_perm
    (perm : (others.filter isManifestName).Perm (fileNames.filter isManifestName)) :
    scan root others = scan root fileNames := by
  have all : (scan root others).Perm (scan root fileNames) := by
    refine (List.mergeSort_perm _ _).trans (.trans ?_ (List.mergeSort_perm _ _).symm)
    rw [filterMap_ofFileName? root others, filterMap_ofFileName? root fileNames]
    exact perm.filterMap _
  refine all.eq_of_pairwise (fun a b there here ab ba => ?_) (pairwise_scan root others)
    (pairwise_scan root fileNames)
  rw [← named_of_mem_scan valid (all.mem_iff.mp there), ← named_of_mem_scan valid here,
    String.le_antisymm ab ba]

end PluginEntry

/-- **A scan finds every manifest once, in order.** A profile lists no plugins, and its plugin
directory can be listed and shows names that are text. Then there is one plugin for each manifest,
that is, for each name that ends in the extension after something else. The name of the plugin is
what stands before the extension, and its path is that of the manifest in the directory. The plugins
are in the strict order of the bytes of their names.

Any other tree whose directory shows the same manifests, in whatever order, has the same plugins. -/
theorem discover_finds_all {files : FileSystem} {pluginDir : String} {path : Path}
    {fileNames : List Bytes}
    (listed : files.list (Profile.pluginRoot pluginDir path) = .ok fileNames)
    (valid : ∀ fileName ∈ fileNames, (decode? fileName).isSome = true) :
    let root := Profile.pluginRoot pluginDir path
    (∀ fileName, isManifestName fileName = true ↔
        ∃ start, start ≠ [] ∧ fileName = start ++ encode ".toml") ∧
      ∃ entries, discover files [] pluginDir path = .ok entries ∧
        (entries.map fun entry => encode (entry.name ++ ".toml")).Perm
          (fileNames.filter isManifestName) ∧
        (∀ entry ∈ entries, entry.path = root.join ⟨encode (entry.name ++ ".toml")⟩) ∧
        (entries.Pairwise fun a b => encode a.name < encode b.name) ∧
        ∀ other others, other.list root = .ok others →
          (others.filter isManifestName).Perm (fileNames.filter isManifestName) →
          discover other [] pluginDir path = .ok entries := by
  intro root
  have finds {tree : FileSystem} {shown : List Bytes} (here : tree.list root = .ok shown) :
      discover tree [] pluginDir path = .ok (PluginEntry.scan root shown) := by
    rw [discover, List.isEmpty_nil, if_pos rfl, here]
  refine ⟨fun _ => isManifestName_iff, PluginEntry.scan root fileNames, finds listed,
    PluginEntry.map_manifestName_scan_perm valid, fun entry member => ?_, ?_,
    fun other others listed' perm => ?_⟩
  · have name := PluginEntry.manifestName_eq entry
    rw [PluginEntry.manifestName] at name
    rw [name]
    exact (congrArg PluginEntry.path (PluginEntry.named_of_mem_scan valid member)).symm
  · exact (PluginEntry.pairwise_lt_scan valid (nodup_of_list listed)).imp encode_lt_encode
  · rw [finds listed', PluginEntry.scan_eq_of_perm valid perm]

/-- Three manifests, one of them with a dot in its name, among files that are none. They are found in
the order of their names, in a tree that shows other files and in another order as well. -/
theorem discover_finds_all_dashed_name :
    let root : Path := ⟨encode "plugins"⟩
    let place (name : String) : Location := [encode "plugins", encode name]
    let files : FileSystem :=
      { cwd := []
        nodes :=
          [([encode "plugins"], .directory), (place ".toml", .file []), (place "a.toml", .file []),
            (place "a-b.toml", .directory), (place "b.c.toml", .file []),
            (place "toml", .file [])]
        nodup := by decide +revert }
    let other : FileSystem :=
      { cwd := []
        nodes :=
          [(place "b.c.toml", .file []), (place "a-b.toml", .directory),
            (place "notes.txt", .file []), (place "a.toml", .file []),
            ([encode "plugins"], .directory)]
        nodup := by decide +revert }
    let found : List PluginEntry := ["a", "a-b", "b.c"].map (PluginEntry.named root)
    files.list root = .ok ([".toml", "a.toml", "a-b.toml", "b.c.toml", "toml"].map encode) ∧
      other.list root = .ok (["b.c.toml", "a-b.toml", "notes.txt", "a.toml"].map encode) ∧
      discover files [] "plugins" ⟨encode "game.toml"⟩ = .ok found ∧
      discover other [] "plugins" ⟨encode "game.toml"⟩ = .ok found := by
  intro root place files other found
  have listed : files.list root
      = .ok ([".toml", "a.toml", "a-b.toml", "b.c.toml", "toml"].map encode) := by
    decide +kernel
  have listed' : other.list root
      = .ok (["b.c.toml", "a-b.toml", "notes.txt", "a.toml"].map encode) := by
    decide +kernel
  have inside : Profile.pluginRoot "plugins" ⟨encode "game.toml"⟩ = root := by decide
  have scanned : PluginEntry.scan root
      ([".toml", "a.toml", "a-b.toml", "b.c.toml", "toml"].map encode) = found := by
    have manifests : ([".toml", "a.toml", "a-b.toml", "b.c.toml", "toml"].map encode).filterMap
        (PluginEntry.ofFileName? root) = found := by
      decide +kernel
    rw [PluginEntry.scan, manifests]
    exact List.mergeSort_of_pairwise (by decide +kernel)
  have made : discover files [] "plugins" ⟨encode "game.toml"⟩ = .ok found := by
    simp only [discover, List.isEmpty_nil, if_true, inside, listed, scanned]
  obtain ⟨-, entries, same, -, -, -, alike⟩ := @discover_finds_all files "plugins"
    ⟨encode "game.toml"⟩ _ (inside.symm ▸ listed) (by decide +kernel)
  obtain rfl := Except.ok.inj (made.symm.trans same)
  exact ⟨listed, listed', made, alike other _ (inside.symm ▸ listed') (by decide +kernel)⟩

end SessionHost.Engine
