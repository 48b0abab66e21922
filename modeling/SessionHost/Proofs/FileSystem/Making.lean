import Mathlib.Data.List.TakeWhile
import SessionHost.Proofs.FileSystem.Below
import SessionHost.Proofs.FileSystem.Tree

/-!
Files in directories that were made.

Once the directories of a path were made, the path leads to a directory (`reaches_makeDirectories`),
and a file with a plain name may be written in it if its path is short enough and no directory has
that name (`Reaches.writable_child`). Made directories leave a tree a tree
(`IsTree.makeDirectories`), and a file of a tree has nothing below it that would go with it
(`IsTree.keepsDirectories_erase`).
-/

namespace SessionHost.FileSystem

variable {fs made other : FileSystem} {path base : Path} {here there place : Location}

/-! ### Walks -/

/-- Segments that stay can be walked from a directory. -/
theorem walk_idle (directory : fs.node? here = some .directory) {segments : List Bytes}
    (idle : ∀ segment ∈ segments, Path.isIdle segment = true) :
    fs.walk here segments = .ok here := by
  induction segments with
  | nil => rfl
  | cons segment rest ih =>
      obtain ⟨first, others⟩ := List.forall_mem_cons.mp idle
      have stays : fs.enter here segment = .ok here := by
        rw [enter_of_directory directory, if_pos first]
      rw [walk, List.foldlM_cons, stays]
      exact ih others

theorem walk_replicate_nil (directory : fs.node? here = some .directory) (n : Nat) :
    fs.walk here (List.replicate n []) = .ok here :=
  walk_idle directory fun segment member => by
    rw [List.eq_of_mem_replicate member]
    rfl

theorem foldl_follow_replicate_nil (here : Location) (n : Nat) :
    (List.replicate n []).foldl follow here = here := by
  induction n with
  | zero => rfl
  | succ n ih => exact ih

/-- A walk that can be made along more segments passes the place where they begin. -/
theorem walk_append_eq_ok_iff {before after : List Bytes} :
    fs.walk here (before ++ after) = .ok there ↔
      ∃ between, fs.walk here before = .ok between ∧ fs.walk between after = .ok there := by
  rw [walk, List.foldlM_append]
  exact bind_eq_ok_iff

/-- Empty segments at the end lead nowhere else. -/
theorem walk_of_append_replicate_nil {before : List Bytes} {n : Nat}
    (walked : fs.walk here (before ++ List.replicate n []) = .ok there) :
    fs.walk here before = .ok there := by
  obtain ⟨between, walked, stays⟩ := walk_append_eq_ok_iff.mp walked
  rwa [eq_foldl_of_walk stays, foldl_follow_replicate_nil]

/-- The path leads to a directory, whatever its length. -/
structure Reaches (fs : FileSystem) (path : Path) (place : Location) : Prop where
  walked : fs.walk (fs.origin path) path.segments = .ok place
  directory : fs.node? place = some .directory

/-- A directory is still reached in a tree that has all directories of the one. -/
theorem Reaches.of_keepsDirectories (reaches : fs.Reaches path place)
    (keeps : KeepsDirectories fs other) (same : other.cwd = fs.cwd) :
    other.Reaches path place where
  walked := by
    rw [origin, same]
    exact keeps.walk reaches.walked
  directory := keeps place reaches.directory

theorem reaches_of_isDirectory (directory : fs.isDirectory path = true) :
    admissible path = .ok () ∧ ∃ place, fs.Reaches path place := by
  unfold isDirectory at directory
  split at directory
  · rename_i place found
    obtain ⟨located, stands⟩ := find_eq_ok_iff.mp found
    obtain ⟨_, admitted, walked⟩ := bind_eq_ok_iff.mp located
    exact ⟨admitted, place, walked, stands⟩
  · cases directory

/-! ### Slashes at the end -/

theorem splitOn_append_replicate (bytes : Bytes) (n : Nat) :
    (bytes ++ List.replicate n Path.slash).splitOn Path.slash
      = bytes.splitOn Path.slash ++ List.replicate n [] := by
  induction n with
  | zero => simp
  | succ n ih =>
      rw [List.replicate_succ', List.replicate_succ', ← List.append_assoc, ← List.append_assoc,
        splitOn_append_slash, ih]
      rfl

/-- The slashes at the end of a path add segments that stay where they are. -/
theorem exists_segments_eq_stripSlashes (fs : FileSystem) (path : Path) :
    ∃ n, path.segments = (stripSlashes path).segments ++ List.replicate n [] ∧
      fs.origin (stripSlashes path) = fs.origin path := by
  let isSlash : UInt8 → Bool := (· = Path.slash)
  let kept := (path.bytes.reverse.dropWhile isSlash).reverse
  let ended := path.bytes.reverse.takeWhile isSlash
  have whole : path.bytes = kept ++ List.replicate ended.length Path.slash := by
    have slashes : ended = List.replicate ended.length Path.slash :=
      List.eq_replicate_iff.mpr ⟨rfl, fun byte member => by
        simpa [isSlash] using List.mem_takeWhile_imp member⟩
    have joined := congrArg List.reverse
      (List.takeWhile_append_dropWhile (p := isSlash) (l := path.bytes.reverse))
    rw [List.reverse_append, List.reverse_reverse] at joined
    rw [← joined, ← List.reverse_replicate, ← slashes]
  by_cases empty : kept = []
  · have same : stripSlashes path = path := by
      rw [stripSlashes, if_pos]
      exact List.isEmpty_iff.mpr empty
    exact ⟨0, by rw [same]; simp, by rw [same]⟩
  · have same : stripSlashes path = ⟨kept⟩ := by
      rw [stripSlashes, if_neg]
      exact fun none => empty (List.isEmpty_iff.mp none)
    refine ⟨ended.length, ?_, ?_⟩
    · rw [same, Path.segments, whole, splitOn_append_replicate]
      rfl
    · have first : kept.head? = path.bytes.head? := by
        obtain ⟨byte, rest, filled⟩ := List.exists_cons_of_ne_nil empty
        rw [whole, filled]
        rfl
      rw [same, origin, origin, Path.isAbsolute, Path.isAbsolute, first]

/-! ### Directories that were made -/

/-- What a directory is made as: a new name in a directory. -/
theorem put_of_makeDirectory (makes : fs.makeDirectory path = .ok made) :
    ∃ place, made = fs.put place .directory ∧ fs.node? place = none ∧
      fs.node? place.dropLast = some .directory ∧
      fs.walk (fs.origin path) (stripSlashes path).segments = .ok place ∧
      admissible path = .ok () := by
  obtain ⟨_, admitted, makes⟩ := bind_eq_ok_iff.mp makes
  obtain ⟨place, walked, makes⟩ := bind_eq_ok_iff.mp makes
  split at makes
  · cases makes
  · rename_i free
    rw [Bool.or_eq_true, not_or, Option.not_isSome_iff_eq_none] at free
    refine ⟨place, (Except.ok.inj makes).symm, free.2, ?_, walked, admitted⟩
    rw [segments_eq (stripSlashes path)] at walked
    obtain ⟨above, -, last⟩ := walk_append_eq_ok_iff.mp walked
    obtain ⟨_, entered, same⟩ := bind_eq_ok_iff.mp last
    rw [← Except.ok.inj same, eq_follow_of_enter entered, follow]
    rw [namesExisting, Bool.or_eq_true, not_or, decide_eq_true_eq] at free
    rw [if_neg free.1.1, if_neg free.1.2, List.dropLast_concat]
    exact directory_of_enter entered

theorem reaches_of_makeDirectory (makes : fs.makeDirectory path = .ok made) :
    admissible path = .ok () ∧ ∃ place, made.Reaches path place := by
  have grows := grows_of_makeDirectory makes
  obtain ⟨place, rfl, free, -, walked, admitted⟩ := put_of_makeDirectory makes
  have below : place ≠ [] := ne_nil_of_free (by rw [free]; simp)
  have stands : (fs.put place .directory).node? place = some .directory := by
    rw [node?_put below, if_pos rfl]
  obtain ⟨n, segments, -⟩ := exists_segments_eq_stripSlashes fs path
  refine ⟨admitted, place, ?_, stands⟩
  rw [segments]
  exact walk_append_eq_ok_iff.mpr
    ⟨place, grows.keepsDirectories.walk walked, walk_replicate_nil stands n⟩

/-- If a lineage could be made, its first path is empty or leads to a directory. -/
theorem reaches_of_makeLineage {above : List Path}
    (makes : fs.makeLineage (path :: above) = (made, .ok ())) :
    path.bytes = [] ∨ admissible path = .ok () ∧ ∃ place, made.Reaches path place := by
  unfold makeLineage at makes
  split at makes
  · rename_i empty
    exact .inl (List.isEmpty_iff.mp empty)
  · right
    split at makes
    · rename_i once
      obtain ⟨rfl, -⟩ := Prod.mk.inj makes
      exact reaches_of_makeDirectory once
    · split at makes
      · cases makes
      · split at makes
        · rename_i again
          obtain ⟨rfl, -⟩ := Prod.mk.inj makes
          exact reaches_of_makeDirectory again
        · split at makes
          · rename_i directory
            obtain ⟨rfl, -⟩ := Prod.mk.inj makes
            exact reaches_of_isDirectory directory
          · cases makes
    · split at makes
      · rename_i directory
        obtain ⟨rfl, -⟩ := Prod.mk.inj makes
        exact reaches_of_isDirectory directory
      · cases makes

theorem exists_lineage_eq (path : Path) : ∃ above, path.lineage = path :: above := by
  unfold Path.lineage
  cases path.bytes.length with
  | zero => exact ⟨[], rfl⟩
  | succ fuel =>
      rw [Path.lineage.go]
      cases path.parent? with
      | none => exact ⟨[], rfl⟩
      | some parent => exact ⟨_, rfl⟩

/-- There is a working directory. -/
def HasCwd (fs : FileSystem) : Prop := fs.node? fs.cwd = some .directory

instance (fs : FileSystem) : Decidable fs.HasCwd :=
  inferInstanceAs (Decidable (fs.node? fs.cwd = some .directory))

/-- **A path whose directories could be made leads to a directory.** The empty path does so as long
as there is a working directory. -/
theorem reaches_makeDirectories (works : fs.HasCwd)
    (makes : fs.makeDirectories path = (made, .ok ())) :
    Text.hasNul path.bytes = false ∧ ∃ place, made.Reaches path place := by
  have grows := fs.grows_makeDirectories path
  rw [makes] at grows
  obtain ⟨above, lineage⟩ := exists_lineage_eq path
  rw [makeDirectories, lineage] at makes
  rcases reaches_of_makeLineage makes with empty | ⟨admitted, reaches⟩
  · obtain ⟨bytes⟩ := path
    obtain rfl : bytes = [] := empty
    have here : fs.Reaches ⟨[]⟩ fs.cwd := ⟨walk_replicate_nil works 1, works⟩
    exact ⟨rfl, fs.cwd, here.of_keepsDirectories grows.keepsDirectories grows.cwd⟩
  · refine ⟨?_, reaches⟩
    unfold admissible at admitted
    split at admitted
    · cases admitted
    · exact Bool.eq_false_iff.mpr ‹_›

/-- Where a directory is, there is nothing to make. -/
theorem makeDirectories_of_isDirectory (directory : fs.isDirectory path = true) :
    fs.makeDirectories path = (fs, .ok ()) := by
  obtain ⟨admitted, place, reaches⟩ := reaches_of_isDirectory directory
  have filled : path.bytes.isEmpty = false := by
    unfold admissible at admitted
    split at admitted
    · cases admitted
    · split at admitted
      · cases admitted
      · exact Bool.eq_false_iff.mpr ‹_›
  have refused : fs.makeDirectory path = .error .alreadyExists := by
    obtain ⟨n, segments, -⟩ := exists_segments_eq_stripSlashes fs path
    have walked := reaches.walked
    rw [segments] at walked
    rw [makeDirectory, admitted]
    simp [bind, Except.bind, walk_of_append_replicate_nil walked, reaches.directory]
  obtain ⟨above, lineage⟩ := exists_lineage_eq path
  rw [makeDirectories, lineage, makeLineage, filled, if_neg Bool.false_ne_true, refused]
  simp only [directory, if_true]

/-- A path that is too long leads nowhere. -/
theorem find_of_long (whole : Text.hasNul path.bytes = false)
    (long : pathLimit ≤ path.bytes.length) : fs.find path = .error .nameTooLong := by
  have filled : path.bytes.isEmpty = false := by
    rw [List.isEmpty_eq_false_iff, ← List.length_pos_iff]
    exact Nat.lt_of_lt_of_le (by decide) long
  rw [find, locate, admissible, whole, filled, if_neg Bool.false_ne_true,
    if_neg Bool.false_ne_true, if_pos long]
  rfl

/-! ### Files that may be written -/

/-- A file may be written where its path leads if the path ends in a name, no directory is there and
opening is not refused. -/
theorem writable_eq_ok_iff :
    fs.writable path = .ok place ↔
      stripSlashes path = path ∧ namesExisting (lastSegment path) = false ∧
        fs.locate path = .ok place ∧ fs.node? place ≠ some .directory ∧
        (fs.refusals place).opening = none := by
  constructor
  · intro writable
    obtain ⟨located, free⟩ := locate_of_writable writable
    obtain ⟨_, -, writable⟩ := bind_eq_ok_iff.mp writable
    obtain ⟨above, -, writable⟩ := bind_eq_ok_iff.mp writable
    obtain ⟨_, -, writable⟩ := bind_eq_ok_iff.mp writable
    split at writable
    · cases writable
    · rename_i plain
      rw [Bool.or_eq_true, not_or, decide_eq_true_eq, ne_eq, not_not] at plain
      obtain ⟨whole, named⟩ := plain
      rw [whole] at named
      refine ⟨whole, Bool.eq_false_iff.mpr named, located, free, ?_⟩
      obtain ⟨there, -, opened⟩ := bind_eq_ok_iff.mp writable
      split at opened
      · cases opened
      · split at opened
        · cases opened
        · obtain rfl := Except.ok.inj opened
          assumption
  · rintro ⟨whole, named, located, free, granted⟩
    obtain ⟨_, admitted, walked⟩ := bind_eq_ok_iff.mp located
    rw [segments_eq path] at walked
    obtain ⟨above, begun, ended⟩ := walk_append_eq_ok_iff.mp walked
    obtain ⟨_, entered, same⟩ := bind_eq_ok_iff.mp ended
    rw [Except.ok.inj same] at entered
    have required := requireDirectory_eq_ok_iff.mpr (directory_of_enter entered)
    rw [writable, whole]
    refine bind_eq_ok_iff.mpr ⟨_, admitted, bind_eq_ok_iff.mpr ⟨above, begun,
      bind_eq_ok_iff.mpr ⟨_, required, ?_⟩⟩⟩
    rw [if_neg (by simp [named])]
    refine bind_eq_ok_iff.mpr ⟨place, entered, ?_⟩
    split
    · exact absurd ‹_› free
    · rw [granted]

/-- It still may where the path leads to the same place, no directory has come to be there and no
more is refused. -/
theorem writable_of_locate (writable : fs.writable path = .ok place)
    (leads : other.locate path = .ok place) (free : other.node? place ≠ some .directory)
    (same : other.refusals place = fs.refusals place) : other.writable path = .ok place := by
  obtain ⟨whole, named, -, -, granted⟩ := writable_eq_ok_iff.mp writable
  exact writable_eq_ok_iff.mpr ⟨whole, named, leads, free, same ▸ granted⟩

theorem node?_ne_of_isDirectory (located : fs.locate path = .ok place)
    (free : fs.isDirectory path = false) : fs.node? place ≠ some .directory := by
  intro directory
  rw [isDirectory, find_eq_ok_iff.mpr ⟨located, directory⟩] at free
  cases free

theorem contentAt_of_grows (grows : Grows fs other) (free : other.node? place ≠ some .directory) :
    other.contentAt place = fs.contentAt place := by
  cases stood : fs.node? place with
  | some node => rw [contentAt, contentAt, grows.kept place node stood, stood]
  | none =>
      have stands : other.node? place = none := by
        cases stands : other.node? place with
        | none => rfl
        | some node =>
            cases node with
            | directory => exact absurd stands free
            | file content =>
                have before := grows.file place content stands
                rw [stood] at before
                cases before
      rw [contentAt, contentAt, stands, stood]

/-- A name that a directory can hold. -/
structure IsFileName (name : String) : Prop where
  isName : Path.IsName (Text.encode name)
  short : (Text.encode name).length ≤ longestName
  whole : Text.hasNul (Text.encode name) = false

namespace IsFileName

variable {name : String} (fits : IsFileName name)

include fits

theorem filled : Text.encode name ≠ [] := by
  intro empty
  have named := fits.isName.2
  rw [empty] at named
  cases named

theorem bytes_child (base : Path) :
    (base.child name).bytes
      = (if base.bytes.isEmpty || base.bytes.getLast? = some Path.slash then base.bytes
          else base.bytes ++ [Path.slash]) ++ Text.encode name := by
  have relative : (Path.ofText name).isAbsolute = false := Path.isAbsolute_of_notMem fits.isName.1
  rw [Path.child, Path.join, relative, if_neg Bool.false_ne_true]
  split
  · rfl
  · rw [List.append_assoc]
    rfl

/-- A child ends in its name, so that there is no slash at its end. -/
theorem stripSlashes_child (base : Path) : stripSlashes (base.child name) = base.child name := by
  obtain ⟨start, last, ends⟩ := List.eq_nil_or_concat (Text.encode name) |>.resolve_left fits.filled
  rw [List.concat_eq_append] at ends
  have plain : last ≠ Path.slash := by
    rintro rfl
    exact fits.isName.1 (by simp [ends])
  have kept : ((base.child name).bytes.reverse.dropWhile (· = Path.slash)).reverse
      = (base.child name).bytes := by
    rw [fits.bytes_child base, ends, ← List.append_assoc, List.reverse_append,
      List.reverse_singleton, List.singleton_append,
      List.dropWhile_cons_of_neg (by simpa using plain)]
    simp
  rw [stripSlashes, kept]
  split <;> rfl

/-- The segments of a child are those of its base and its name, where an empty segment at the end
of the base makes way for the name. -/
theorem exists_segments_child (base : Path) :
    ∃ before n, base.segments = before ++ List.replicate n [] ∧
      (base.child name).segments = before ++ [Text.encode name] := by
  rw [Path.segments, Path.segments, fits.bytes_child base]
  obtain ⟨bytes⟩ := base
  split
  · rename_i ended
    rw [Bool.or_eq_true, List.isEmpty_iff, decide_eq_true_eq] at ended
    rcases ended with rfl | slash
    · exact ⟨[], 1, rfl, splitOn_of_notMem fits.isName.1⟩
    · obtain ⟨init, rfl⟩ := List.getLast?_eq_some_iff.mp slash
      refine ⟨init.splitOn Path.slash, 1, splitOn_append_replicate init 1, ?_⟩
      rw [List.append_assoc, List.singleton_append, splitOn_append_slash]
      exact congrArg _ (splitOn_of_notMem fits.isName.1)
  · refine ⟨bytes.splitOn Path.slash, 0, (List.append_nil _).symm, ?_⟩
    rw [List.append_assoc, List.singleton_append, splitOn_append_slash]
    exact congrArg _ (splitOn_of_notMem fits.isName.1)

theorem origin_child (fs : FileSystem) (base : Path) :
    fs.origin (base.child name) = fs.origin base := by
  have same : (base.child name).isAbsolute = base.isAbsolute := by
    rw [Path.isAbsolute, Path.isAbsolute, fits.bytes_child base]
    obtain ⟨bytes⟩ := base
    cases bytes with
    | nil => exact Path.isAbsolute_of_notMem fits.isName.1
    | cons byte rest => split <;> rfl
  rw [origin, origin, same]

theorem hasNul_child {base : Path} (unbroken : Text.hasNul base.bytes = false) :
    Text.hasNul (base.child name).bytes = false := by
  have named := fits.whole
  simp only [Text.hasNul, List.contains_eq_mem, decide_eq_false_iff_not] at unbroken named ⊢
  rw [fits.bytes_child base]
  split
  · simp [unbroken, named]
  · simp only [List.mem_append, List.mem_singleton, unbroken, named]
    decide

/-- A child may be walked to if it is short enough and its base holds no NUL. -/
theorem admissible_child {base : Path} (unbroken : Text.hasNul base.bytes = false)
    (short : (base.child name).bytes.length < pathLimit) :
    admissible (base.child name) = .ok () := by
  have some : (base.child name).bytes.isEmpty = false := by
    rw [fits.bytes_child base]
    simp [fits.filled]
  rw [admissible, fits.hasNul_child unbroken, some, if_neg Bool.false_ne_true,
    if_neg Bool.false_ne_true, if_neg (Nat.not_le.mpr short)]

end IsFileName

/-- In a directory that a path leads to, the name leads to its place. -/
theorem Reaches.locate_child {name : String} (reaches : fs.Reaches base place)
    (fits : IsFileName name) (unbroken : Text.hasNul base.bytes = false)
    (short : (base.child name).bytes.length < pathLimit) :
    fs.locate (base.child name) = .ok (place ++ [Text.encode name]) := by
  obtain ⟨before, n, segments, child⟩ := fits.exists_segments_child base
  have walked := reaches.walked
  rw [segments] at walked
  have entered : fs.enter place (Text.encode name) = .ok (place ++ [Text.encode name]) := by
    have named := fits.isName.2
    rw [namesExisting, Bool.or_eq_false_iff, decide_eq_false_iff_not] at named
    rw [enter_of_directory reaches.directory, if_neg (Bool.eq_false_iff.mp named.1),
      if_neg named.2, if_neg (Nat.not_lt.mpr fits.short)]
  refine bind_eq_ok_iff.mpr ⟨_, fits.admissible_child unbroken short, ?_⟩
  rw [child, fits.origin_child fs base]
  exact walk_append_eq_ok_iff.mpr
    ⟨place, walk_of_append_replicate_nil walked, bind_eq_ok_iff.mpr ⟨_, entered, rfl⟩⟩

/-- **A file may be written under a name in a directory that a path leads to.** -/
theorem Reaches.writable_child {name : String} (reaches : fs.Reaches base place)
    (fits : IsFileName name) (unbroken : Text.hasNul base.bytes = false)
    (short : (base.child name).bytes.length < pathLimit)
    (free : fs.isDirectory (base.child name) = false)
    (granted : (fs.refusals (place ++ [Text.encode name])).opening = none) :
    fs.writable (base.child name) = .ok (place ++ [Text.encode name]) := by
  have located := reaches.locate_child fits unbroken short
  refine writable_eq_ok_iff.mpr ⟨fits.stripSlashes_child base, ?_, located,
    node?_ne_of_isDirectory located free, granted⟩
  rw [lastSegment_child base fits.isName.1]
  exact fits.isName.2

/-! ### Trees that change -/

theorem isTree_iff :
    fs.IsTree ↔ ∀ place node, place ≠ [] → fs.node? place = some node →
      fs.node? place.dropLast = some .directory := by
  constructor
  · intro tree place node below stands
    rw [node?, if_neg below] at stands
    have stood : (fs.nodes.lookup place).isSome := by
      rw [stands]
      rfl
    obtain ⟨entry, member, here⟩ := List.lookup_isSome_iff.mp stood
    rw [beq_iff_eq.mp here]
    exact tree entry member
  · intro tree entry member
    by_cases root : entry.1 = []
    · rw [root]
      rfl
    · have stood : (fs.nodes.lookup entry.1).isSome :=
        List.lookup_isSome_iff.mpr ⟨entry, member, beq_self_eq_true _⟩
      obtain ⟨node, stands⟩ := Option.isSome_iff_exists.mp stood
      refine tree entry.1 node root ?_
      rw [node?, if_neg root, stands]

/-- A directory that is made stands in a directory. -/
theorem IsTree.makeDirectory (tree : fs.IsTree) (makes : fs.makeDirectory path = .ok made) :
    made.IsTree := by
  obtain ⟨place, rfl, free, above, -, -⟩ := put_of_makeDirectory makes
  have below : place ≠ [] := ne_nil_of_free (by rw [free]; simp)
  rw [isTree_iff] at tree ⊢
  intro other node counts stands
  have directory : fs.node? other.dropLast = some .directory := by
    rw [node?_put below] at stands
    split at stands
    · rename_i here
      rw [here]
      exact above
    · exact tree other node counts stands
  rw [node?_put below]
  split
  · rfl
  · exact directory

theorem IsTree.makeLineage (tree : fs.IsTree) (lineage : List Path) :
    (fs.makeLineage lineage).1.IsTree := by
  induction lineage with
  | nil => exact tree
  | cons path above ih =>
      unfold FileSystem.makeLineage
      split
      · exact tree
      · split
        · exact tree.makeDirectory ‹_›
        · split
          · rename_i failed
            rwa [failed] at ih
          · rename_i went
            rw [went] at ih
            split
            · exact ih.makeDirectory ‹_›
            · split <;> exact ih
        · split <;> exact tree

/-- **Making directories leaves a tree a tree.** -/
theorem IsTree.makeDirectories (tree : fs.IsTree) (path : Path) :
    (fs.makeDirectories path).1.IsTree :=
  tree.makeLineage path.lineage

/-- With a file of a tree no directory goes. -/
theorem IsTree.keepsDirectories_erase (tree : fs.IsTree) {content : Bytes}
    (stands : fs.node? place = some (.file content)) : KeepsDirectories fs (fs.erase place) := by
  intro other directory
  by_cases root : other = []
  · rw [root]
    rfl
  · rw [node?_erase root, if_neg]
    · exact directory
    · intro above
      have apart : place ≠ other := by
        rintro rfl
        rw [stands] at directory
        cases directory
      have higher := tree.directory_of_prefix directory (List.isPrefixOf_iff_prefix.mp above) apart
      rw [stands] at higher
      cases higher

end SessionHost.FileSystem
