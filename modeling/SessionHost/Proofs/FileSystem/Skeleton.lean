import Mathlib.Data.List.Induction
import Mathlib.Data.List.Nodup
import SessionHost.Proofs.FileSystem.Growth

/-!
Trees that differ in their files only.

What is in a file shows only to who reads it, and whether it is there only to who asks for its name.
`SameSkeleton` has two trees agree on their directories, and on the files with some names. Then they
agree on where paths lead, on which files of these names there are and on which of these names a
directory shows.
-/

namespace SessionHost

namespace Path

/-- A name with an extension is its stem, a dot and the extension. -/
theorem eq_stem_append {name extension : Bytes} (extended : extension? name = some extension) :
    name = stem name ++ dot :: extension := by
  have split (bytes : Bytes) (long : bytes.drop ((bytes.takeWhile (· != dot)).length + 1) ≠ []) :
      bytes = bytes.takeWhile (· != dot)
        ++ dot :: bytes.drop ((bytes.takeWhile (· != dot)).length + 1) := by
    induction bytes with
    | nil => exact absurd rfl long
    | cons byte rest ih =>
        by_cases last : byte = dot
        · subst last
          simp
        · have goes : (byte != dot) = true := by simp [last]
          rw [List.takeWhile_cons, if_pos goes] at long ⊢
          exact congrArg (byte :: ·) (ih long)
  unfold extension? splitName at extended
  unfold stem splitName
  simp only [List.length_reverse] at extended ⊢
  split at extended
  · cases extended
  · rename_i long
    rw [if_neg long]
    rw [List.isEmpty_reverse, List.isEmpty_iff] at long
    obtain rfl := Option.some.inj extended
    have whole := congrArg List.reverse (split name.reverse long)
    rwa [List.reverse_reverse, List.reverse_append, List.reverse_cons, List.append_assoc] at whole

/-- What stands before and after a dot are stem and extension, if nothing after it is a dot. -/
theorem splitName_append {start extension : Bytes} (filled : start ≠ [])
    (dotless : dot ∉ extension) :
    splitName (start ++ dot :: extension) = (start, some extension) := by
  have plain : ∀ byte ∈ extension.reverse, (byte != dot) = true := by
    intro byte member
    rw [List.mem_reverse] at member
    rw [bne_iff_ne]
    rintro rfl
    exact dotless member
  have reversed : (start ++ dot :: extension).reverse
      = extension.reverse ++ dot :: start.reverse := by simp
  have taken : (start ++ dot :: extension).reverse.takeWhile (· != dot) = extension.reverse := by
    rw [reversed, List.takeWhile_append_of_pos plain, List.takeWhile_cons_of_neg (by simp),
      List.append_nil]
  unfold splitName
  simp only [taken, List.reverse_reverse]
  have before :
      ((start ++ dot :: extension).reverse.drop (extension.length + 1)).reverse = start := by
    have length : extension.reverse.length = extension.length := List.length_reverse
    rw [reversed, ← length, ← List.drop_drop, List.drop_left]
    simp
  rw [before, if_neg]
  simpa using filled

/-- The names with an extension are those that something stands in front of, with the dot between. -/
theorem extension?_eq_some_iff {name extension : Bytes} (dotless : dot ∉ extension) :
    extension? name = some extension ↔
      ∃ start, start ≠ [] ∧ name = start ++ dot :: extension := by
  constructor
  · intro extended
    refine ⟨stem name, ?_, eq_stem_append extended⟩
    unfold extension? splitName at extended
    unfold stem splitName
    simp only at extended ⊢
    split at extended
    · cases extended
    · rename_i long
      rw [if_neg long]
      simpa using long
  · rintro ⟨start, filled, rfl⟩
    rw [extension?, splitName_append filled dotless]
end Path

namespace FileSystem

/-- Bytes without a slash are one segment. -/
theorem splitOn_of_notMem {bytes : Bytes} (whole : Path.slash ∉ bytes) :
    bytes.splitOn Path.slash = [bytes] := by
  refine List.splitOnP_eq_singleton fun byte member => ?_
  rw [beq_eq_false_iff_ne]
  rintro rfl
  exact whole member

/-- A slash ends a segment. -/
theorem splitOn_append_slash (before rest : Bytes) :
    (before ++ Path.slash :: rest).splitOn Path.slash
      = before.splitOn Path.slash ++ rest.splitOn Path.slash :=
  List.splitOnP_append_cons before rest (beq_iff_eq.mpr rfl)

/-- The last segment of a path has all that the path ends in, up to the last slash. -/
theorem suffix_lastSegment {rest : Bytes} (whole : Path.slash ∉ rest) (before : Bytes) :
    rest <:+ lastSegment ⟨before ++ rest⟩ := by
  induction before using List.reverseRecOn generalizing rest with
  | nil =>
      rw [lastSegment, Path.segments, List.nil_append, splitOn_of_notMem whole]
      exact List.suffix_rfl
  | append_singleton init byte ih =>
      rw [List.append_assoc, List.singleton_append]
      by_cases slash : byte = Path.slash
      · subst slash
        rw [lastSegment, Path.segments, splitOn_append_slash, splitOn_of_notMem whole,
          List.getLast?_concat]
        exact List.suffix_rfl
      · have longer : Path.slash ∉ byte :: rest := by
          rw [List.mem_cons, not_or]
          exact ⟨Ne.symm slash, whole⟩
        exact (List.suffix_cons byte rest).trans (ih longer)

/-- The last segment of a child is its name. -/
theorem lastSegment_child (base : Path) {name : String}
    (whole : Path.slash ∉ Text.encode name) : lastSegment (base.child name) = Text.encode name := by
  have relative : (Path.ofText name).isAbsolute = false := by
    rw [Path.isAbsolute, decide_eq_false_iff_not]
    exact fun first => whole (List.mem_of_mem_head? first)
  have below (before : Bytes) :
      lastSegment ⟨before ++ Path.slash :: Text.encode name⟩ = Text.encode name := by
    rw [lastSegment, Path.segments, splitOn_append_slash, splitOn_of_notMem whole,
      List.getLast?_concat, Option.getD_some]
  rw [Path.child, Path.join, relative, if_neg Bool.false_ne_true]
  split
  · rename_i ended
    rw [Bool.or_eq_true, List.isEmpty_iff, decide_eq_true_eq] at ended
    rcases ended with empty | slash
    · rw [empty, List.nil_append, lastSegment, Path.segments, Path.ofText, splitOn_of_notMem whole]
      rfl
    · obtain ⟨init, ends⟩ := List.getLast?_eq_some_iff.mp slash
      rw [ends, List.append_assoc, List.singleton_append]
      exact below init
  · exact below base.bytes

variable {fs other : FileSystem}

/-- The place that a path means has the name in which the path ends, if that names something. -/
theorem aim_eq_append {path : Path} (named : namesExisting (lastSegment path) = false) :
    fs.aim path
      = path.segments.dropLast.foldl follow (fs.origin path) ++ [lastSegment path] := by
  rw [namesExisting, Bool.or_eq_false_iff, decide_eq_false_iff_not] at named
  rw [aim, segments_eq path, List.foldl_append, List.dropLast_concat, List.foldl_cons,
    List.foldl_nil]
  unfold follow
  rw [named.1, if_neg Bool.false_ne_true, if_neg named.2]

/-- So a child stands under its name. -/
theorem getLast?_aim_child (base : Path) {name : String} (whole : Path.slash ∉ Text.encode name)
    (named : namesExisting (Text.encode name) = false) :
    (fs.aim (base.child name)).getLast? = some (Text.encode name) := by
  rw [aim_eq_append]
  · rw [List.getLast?_concat, lastSegment_child base whole]
  · rw [lastSegment_child base whole]
    exact named

theorem isFile_iff {path : Path} :
    fs.isFile path = true ↔
      fs.locate path = .ok (fs.aim path) ∧
        ∃ content, fs.node? (fs.aim path) = some (.file content) := by
  constructor
  · intro file
    unfold isFile at file
    split at file
    · rename_i place content found
      obtain ⟨located, stands⟩ := find_eq_ok_iff.mp found
      obtain rfl := eq_aim_of_locate located
      exact ⟨located, content, stands⟩
    · cases file
  · rintro ⟨located, content, stands⟩
    rw [isFile, find_eq_ok_iff.mpr ⟨located, stands⟩]

/-- A path that leads to a file is not empty and holds no NUL. -/
theorem whole_of_isFile {fs : FileSystem} {path : Path} (file : fs.isFile path = true) :
    path.bytes ≠ [] ∧ Text.hasNul path.bytes = false := by
  obtain ⟨_, admitted, -⟩ := bind_eq_ok_iff.mp (isFile_iff.mp file).1
  unfold admissible at admitted
  split at admitted
  · cases admitted
  · rename_i whole
    split at admitted
    · cases admitted
    · rename_i some
      exact ⟨fun empty => some (by rw [empty]; rfl), Bool.eq_false_iff.mpr whole⟩

theorem list_eq_ok_iff {path : Path} {names : List Bytes} :
    fs.list path = .ok names ↔
      fs.locate path = .ok (fs.aim path) ∧ fs.node? (fs.aim path) = some .directory ∧
        fs.namesBelow (fs.aim path) = names := by
  constructor
  · intro listed
    obtain ⟨⟨place, node⟩, found, listed⟩ := bind_eq_ok_iff.mp listed
    obtain ⟨located, stands⟩ := find_eq_ok_iff.mp found
    obtain rfl := eq_aim_of_locate located
    cases node with
    | file content => cases listed
    | directory => exact ⟨located, stands, Except.ok.inj listed⟩
  · rintro ⟨located, stands, rfl⟩
    exact bind_eq_ok_iff.mpr ⟨_, find_eq_ok_iff.mpr ⟨located, stands⟩, rfl⟩

/-! ### Names in a directory -/

/-- The name of a location that is directly below a place. -/
def nameBelow? (place location : Location) : Option Bytes :=
  match location.getLast? with
  | some name => if location = place ++ [name] then some name else none
  | none => none

theorem nameBelow?_eq_some_iff {place location : Location} {name : Bytes} :
    nameBelow? place location = some name ↔ location = place ++ [name] := by
  constructor
  · intro below
    unfold nameBelow? at below
    split at below
    · split at below
      · rename_i last _ here
        obtain rfl := Option.some.inj below
        exact here
      · cases below
    · cases below
  · rintro rfl
    simp [nameBelow?]

theorem namesBelow_eq (place : Location) :
    fs.namesBelow place = (fs.nodes.map Prod.fst).filterMap (nameBelow? place) := by
  rw [List.filterMap_map]
  rfl

/-- The names in a directory are those that something stands under. -/
theorem mem_namesBelow {place : Location} {name : Bytes} :
    name ∈ fs.namesBelow place ↔ (fs.node? (place ++ [name])).isSome := by
  have below : place ++ [name] ≠ [] := by simp
  rw [namesBelow_eq, node?, if_neg below, List.lookup_isSome_iff, List.mem_filterMap]
  simp only [nameBelow?_eq_some_iff, exists_eq_right, List.mem_map, beq_iff_eq,
    @eq_comm _ (place ++ [name])]

/-- No name is in a directory twice. -/
theorem nodup_namesBelow (place : Location) : (fs.namesBelow place).Nodup := by
  rw [namesBelow_eq]
  refine fs.nodup.filterMap fun one two name first second => ?_
  rw [nameBelow?_eq_some_iff.mp first, nameBelow?_eq_some_iff.mp second]

/-- No name is listed twice. -/
theorem nodup_of_list {path : Path} {names : List Bytes} (listed : fs.list path = .ok names) :
    names.Nodup := by
  obtain ⟨-, -, rfl⟩ := list_eq_ok_iff.mp listed
  exact nodup_namesBelow _

/-! ### Trees with the same skeleton -/

/-- Two trees have the same directories, and the same files as far as their names count. -/
structure SameSkeleton (counts : Bytes → Prop) (fs other : FileSystem) : Prop where
  cwd : fs.cwd = other.cwd
  directory : ∀ place, fs.node? place = some .directory ↔ other.node? place = some .directory
  named : ∀ place name, counts name →
    ((fs.node? (place ++ [name])).isSome ↔ (other.node? (place ++ [name])).isSome)

namespace SameSkeleton

variable {counts : Bytes → Prop}

theorem symm (same : SameSkeleton counts fs other) : SameSkeleton counts other fs where
  cwd := same.cwd.symm
  directory place := (same.directory place).symm
  named place name counted := (same.named place name counted).symm

theorem trans {third : FileSystem} (first : SameSkeleton counts fs other)
    (second : SameSkeleton counts other third) : SameSkeleton counts fs third where
  cwd := first.cwd.trans second.cwd
  directory place := (first.directory place).trans (second.directory place)
  named place name counted :=
    (first.named place name counted).trans (second.named place name counted)

/-- A file is changed that is there, or one is made whose name does not count. -/
theorem put_file {place : Location} (free : fs.node? place ≠ some .directory)
    (quiet : (fs.node? place).isSome ∨ ∀ name ∈ place.getLast?, ¬ counts name) (content : Bytes) :
    SameSkeleton counts fs (fs.put place (.file content)) := by
  have below := ne_nil_of_free free
  refine ⟨rfl, fun other => ⟨?_, ?_⟩, fun above name counted => ?_⟩
  · exact keepsDirectories_put free content other
  · exact keepsDirectories_of_put below content other
  · rw [node?_put below]
    by_cases here : above ++ [name] = place
    · subst here
      rcases quiet with there | quiet
      · simp [there]
      · exact absurd counted (quiet name (by simp))
    · rw [if_neg here]

variable (same : SameSkeleton counts fs other)

include same

/-- Paths lead to the same places. -/
theorem locate_eq_ok_iff {path : Path} {place : Location} :
    fs.locate path = .ok place ↔ other.locate path = .ok place := by
  have there : KeepsDirectories fs other := fun place => (same.directory place).mp
  have back : KeepsDirectories other fs := fun place => (same.directory place).mpr
  exact ⟨there.locate same.cwd.symm, back.locate same.cwd⟩

/-- So a path with a name that counts leads to a file in both or in none. -/
theorem isFile_eq {path : Path} (counted : counts (lastSegment path))
    (named : namesExisting (lastSegment path) = false) : fs.isFile path = other.isFile path := by
  have aims : other.aim path = fs.aim path := aim_eq_of_cwd same.cwd.symm path
  -- What stands there is a file if it is something other than a directory.
  have file (tree : FileSystem) :
      (∃ content, tree.node? (fs.aim path) = some (.file content)) ↔
        (tree.node? (fs.aim path)).isSome ∧ tree.node? (fs.aim path) ≠ some .directory := by
    cases tree.node? (fs.aim path) with
    | none => simp
    | some node => cases node <;> simp
  have stands := same.named (path.segments.dropLast.foldl follow (fs.origin path)) _ counted
  rw [← aim_eq_append named] at stands
  rw [Bool.eq_iff_iff, isFile_iff, isFile_iff, aims, same.locate_eq_ok_iff, file, file, stands,
    Ne, same.directory]

/-- A directory that is shown in the one is shown in the other, with the same names as far as they
count. -/
theorem list_eq_ok {path : Path} {names : List Bytes} (listed : fs.list path = .ok names)
    {p : Bytes → Bool} (counted : ∀ name, p name = true → counts name) :
    ∃ others, other.list path = .ok others ∧ (names.filter p).Perm (others.filter p) := by
  obtain ⟨located, directory, rfl⟩ := list_eq_ok_iff.mp listed
  have aims : other.aim path = fs.aim path := aim_eq_of_cwd same.cwd.symm path
  refine ⟨other.namesBelow (fs.aim path), list_eq_ok_iff.mpr ?_, ?_⟩
  · rw [aims]
    exact ⟨same.locate_eq_ok_iff.mp located, (same.directory _).mp directory, rfl⟩
  · rw [List.perm_ext_iff_of_nodup ((nodup_namesBelow _).filter _) ((nodup_namesBelow _).filter _)]
    intro name
    rw [List.mem_filter, List.mem_filter, mem_namesBelow, mem_namesBelow]
    exact and_congr_left fun counts => same.named _ name (counted name counts)

/-- So a directory is shown in both or in none. -/
theorem list_rel {path : Path} {p : Bytes → Bool} (counted : ∀ name, p name = true → counts name) :
    Option.Rel List.Perm ((fs.list path).toOption.map (·.filter p))
      ((other.list path).toOption.map (·.filter p)) := by
  cases shown : fs.list path with
  | ok names =>
      obtain ⟨others, listed, perm⟩ := same.list_eq_ok shown counted
      rw [listed]
      exact .some perm
  | error error =>
      cases listed : other.list path with
      | error error => exact .none
      | ok others =>
          obtain ⟨names, shown', -⟩ := same.symm.list_eq_ok listed counted
          rw [shown] at shown'
          cases shown'

end SameSkeleton

end FileSystem

end SessionHost
