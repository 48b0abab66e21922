import SessionHost.Proofs.FileSystem.Skeleton

/-!
Trees in which a few files are rewritten.

In a tree everything stands in a directory, so that nothing stands below a file. `Rewrites` says
that files at some places were removed or given content, any number of times. `Rewrites.kept` says
what that leaves alone, and `Rewrites.read_eq_ok_iff` that elsewhere the same can be read, unless a
path has come into reach.
-/

namespace SessionHost.FileSystem

/-! ### Trees -/

/-- Whatever stands somewhere stands in a directory. -/
def IsTree (fs : FileSystem) : Prop :=
  ∀ entry ∈ fs.nodes, fs.node? entry.1.dropLast = some .directory

instance (fs : FileSystem) : Decidable fs.IsTree :=
  inferInstanceAs (Decidable (∀ entry ∈ fs.nodes, _))

variable {fs made now last : FileSystem} {place : Location} {path : Path} {content : Bytes}

/-- Everything above what stands somewhere is a directory. -/
theorem IsTree.directory_of_prefix (tree : fs.IsTree) {below : Location} {node : Node}
    (stands : fs.node? below = some node) (above : place <+: below) (apart : place ≠ below) :
    fs.node? place = some .directory := by
  -- Induction on the names below the root, the last one first.
  induction below using List.reverseRecOn generalizing node with
  | nil => exact absurd (List.prefix_nil.mp above) apart
  | append_singleton init name ih =>
      have filled : init ++ [name] ≠ [] := by simp
      have stood : (fs.nodes.lookup (init ++ [name])).isSome := by
        rw [node?, if_neg filled] at stands
        rw [stands]
        rfl
      rw [List.lookup_isSome_iff] at stood
      obtain ⟨entry, member, here⟩ := stood
      have directory : fs.node? init = some .directory := by
        have directory := tree entry member
        rwa [← beq_iff_eq.mp here, List.dropLast_concat] at directory
      rcases List.prefix_concat_iff.mp above with same | higher
      · exact absurd same apart
      · by_cases top : place = init
        · rw [top]
          exact directory
        · exact ih directory higher top

/-- No segment of a path goes up. -/
def NeverUp (path : Path) : Prop := [Path.dot, Path.dot] ∉ path.segments

instance (path : Path) : Decidable (NeverUp path) :=
  inferInstanceAs (Decidable ([Path.dot, Path.dot] ∉ path.segments))

/-- A walk that never goes up passes only what is above its end, so that it gets to a file in every
tree where that file stands. -/
theorem IsTree.walk_of_neverUp (tree : fs.IsTree) {here : Location} {segments : List Bytes}
    (down : [Path.dot, Path.dot] ∉ segments) (stood : fs.node? place = some (.file content))
    (stands : made.node? place = some (.file content))
    (walked : made.walk here segments = .ok place) :
    fs.walk here segments = .ok place ∧ here <+: place := by
  induction segments generalizing here with
  | nil =>
      obtain rfl := Except.ok.inj walked
      exact ⟨rfl, List.prefix_rfl⟩
  | cons segment rest ih =>
      rw [FileSystem.walk, List.foldlM_cons] at walked ⊢
      rw [List.mem_cons, not_or] at down
      obtain ⟨next, entered, walked⟩ := bind_eq_ok_iff.mp walked
      obtain ⟨goes, below⟩ := ih down.2 walked
      have under : here <+: next := by
        rw [eq_follow_of_enter entered, follow, if_neg (Ne.symm down.1)]
        split
        · exact List.prefix_rfl
        · exact List.prefix_append here [segment]
      have directory := directory_of_enter entered
      have apart : here ≠ place := by
        rintro rfl
        rw [stands] at directory
        cases directory
      have was := tree.directory_of_prefix stood (under.trans below) apart
      rw [enter_of_directory directory, ← enter_of_directory was] at entered
      exact ⟨bind_eq_ok_iff.mpr ⟨next, entered, goes⟩, under.trans below⟩

/-- Along a path that never goes up, a file that stood in a tree could be reached before directories
were made. -/
theorem IsTree.isFile_of_neverUp (tree : fs.IsTree) (grows : Grows fs made) (down : NeverUp path)
    (file : made.isFile path = true) : fs.isFile path = true := by
  obtain ⟨led, content, stands⟩ := isFile_iff.mp file
  rw [aim_eq_of_cwd grows.cwd] at led stands
  have stood := grows.file _ content stands
  obtain ⟨_, admitted, walked⟩ := bind_eq_ok_iff.mp led
  rw [origin, grows.cwd, ← origin] at walked
  obtain ⟨goes, -⟩ := tree.walk_of_neverUp down stood stands walked
  exact isFile_iff.mpr ⟨bind_eq_ok_iff.mpr ⟨_, admitted, goes⟩, content, stood⟩

/-! ### Files that are rewritten -/

/-- A file is removed where the path leads to one, unless that is refused. -/
theorem removeFile_eq_ok_iff :
    fs.removeFile path = .ok now ↔ ∃ place content, fs.find path = .ok (place, .file content) ∧
      (fs.refusals place).removing = none ∧ now = fs.erase place := by
  rw [removeFile, isDirectory, remove]
  cases fs.find path with
  | error error => simp [bind, Except.bind]
  | ok found =>
      obtain ⟨place, node⟩ := found
      cases node with
      | directory => simp
      | file content =>
          simp only [bind, Except.bind, Bool.false_eq_true, if_false]
          cases removing : (fs.refusals place).removing with
          | none => simp [removing, eq_comm]
          | some error => simp [removing]

/-- The one tree comes from the other: at some places a file was removed, or a file given a content,
any number of times. -/
inductive Rewrites (places : Location → Prop) (fs : FileSystem) : FileSystem → Prop where
  | refl : Rewrites places fs fs
  | erase {now : FileSystem} {place : Location} {content : Bytes} :
      Rewrites places fs now → places place → now.node? place = some (.file content) →
      Rewrites places fs (now.erase place)
  | put {now : FileSystem} {place : Location} (content : Bytes) :
      Rewrites places fs now → places place → now.node? place ≠ some .directory →
      Rewrites places fs (now.put place (.file content))

theorem ne_nil_of_file (stands : fs.node? place = some (.file content)) : place ≠ [] :=
  ne_nil_of_free (by rw [stands]; simp)

/-- What stands somewhere after a file was removed stood there before. -/
theorem node?_of_erase {other : Location} {node : Node}
    (stands : (fs.erase place).node? other = some node) : fs.node? other = some node := by
  by_cases root : other = []
  · subst root
    exact stands
  · rw [node?_erase root] at stands
    split at stands
    · cases stands
    · exact stands

namespace Rewrites

variable {places : Location → Prop}

theorem cwd (rewrites : Rewrites places fs now) : now.cwd = fs.cwd := by
  induction rewrites with
  | refl => rfl
  | erase _ _ _ ih => exact ih
  | put _ _ _ _ ih => exact ih

theorem refusals (rewrites : Rewrites places fs now) : now.refusals = fs.refusals := by
  induction rewrites with
  | refl => rfl
  | erase _ _ _ ih => exact ih
  | put _ _ _ _ ih => exact ih

/-- No directory is made. -/
theorem keepsDirectories (rewrites : Rewrites places fs now) : KeepsDirectories now fs := by
  intro other directory
  induction rewrites with
  | refl => exact directory
  | erase _ _ _ ih => exact ih (node?_of_erase directory)
  | put content _ _ free ih =>
      exact ih (keepsDirectories_of_put (ne_nil_of_free free) content other directory)

/-- No file is made elsewhere. -/
theorem file (rewrites : Rewrites places fs now) (elsewhere : ¬ places place)
    (stands : now.node? place = some (.file content)) : fs.node? place = some (.file content) := by
  induction rewrites with
  | refl => exact stands
  | erase _ _ _ ih => exact ih (node?_of_erase stands)
  | put _ _ here free ih =>
      rw [node?_put (ne_nil_of_free free), if_neg] at stands
      · exact ih stands
      · rintro rfl
        exact elsewhere here

/-- **What a tree had is still there**, even if directories were made before, but for files at these
places. -/
theorem kept (rewrites : Rewrites places made now) (tree : fs.IsTree) (grows : Grows fs made)
    {node : Node} (stood : fs.node? place = some node) (safe : places place → node = .directory) :
    now.node? place = some node := by
  -- Induction on the changes: the file that is changed is not above the place, as only directories
  -- are.
  induction rewrites generalizing place node with
  | refl => exact grows.kept place node stood
  | @erase now other content _ here file ih =>
      have stands := ih stood safe
      by_cases root : place = []
      · subst root
        exact stands
      · rw [node?_erase root, if_neg]
        · exact stands
        · intro above
          by_cases same : other = place
          · subst same
            rw [safe here, file] at stands
            cases stands
          · have directory := ih
              (tree.directory_of_prefix stood (List.isPrefixOf_iff_prefix.mp above) same)
              fun _ => rfl
            rw [file] at directory
            cases directory
  | @put now other content _ here free ih =>
      have stands := ih stood safe
      rw [node?_put (ne_nil_of_free free), if_neg]
      · exact stands
      · rintro rfl
        rw [safe here] at stands
        exact free stands

/-- Where a path leads afterwards it led before. -/
theorem locate (rewrites : Rewrites places fs now) (led : now.locate path = .ok place) :
    fs.locate path = .ok place :=
  rewrites.keepsDirectories.locate rewrites.cwd.symm led

/-- So a path that leads to a file elsewhere led to it before. -/
theorem isFile (rewrites : Rewrites places fs now) (elsewhere : ¬ places (fs.aim path))
    (file : now.isFile path = true) : fs.isFile path = true := by
  obtain ⟨led, content, stands⟩ := isFile_iff.mp file
  rw [aim_eq_of_cwd rewrites.cwd] at led stands
  exact isFile_iff.mpr ⟨rewrites.locate led, content, rewrites.file elsewhere stands⟩

section

variable (rewrites : Rewrites places made now) (tree : fs.IsTree) (grows : Grows fs made)

include rewrites grows

theorem aim_eq (path : Path) : now.aim path = fs.aim path :=
  aim_eq_of_cwd (rewrites.cwd.trans grows.cwd) path

include tree

/-- What could be read elsewhere can still be read. -/
theorem read_eq_ok (elsewhere : ¬ places (fs.aim path)) (read : fs.read path = .ok content) :
    now.read path = .ok content := by
  have keeps : KeepsDirectories fs now :=
    fun _ directory => rewrites.kept tree grows directory fun _ => rfl
  exact keeps.read_of_read (rewrites.cwd.trans grows.cwd) read
    fun stood => rewrites.kept tree grows stood fun here => absurd here elsewhere

/-- **Elsewhere the same can be read**, if no path comes into reach when directories are made. -/
theorem read_eq_ok_iff (elsewhere : ¬ places (fs.aim path))
    (reached : made.isFile path = true → fs.isFile path = true) :
    now.read path = .ok content ↔ fs.read path = .ok content := by
  constructor
  · intro read
    obtain ⟨leads, stands⟩ := FileSystem.read_eq_ok_iff.mp read
    rw [rewrites.aim_eq grows path] at leads stands
    have there := rewrites.file elsewhere stands
    have file : made.isFile path = true := by
      rw [isFile_iff, aim_eq_of_cwd grows.cwd]
      exact ⟨rewrites.locate leads, content, there⟩
    obtain ⟨led, -⟩ := isFile_iff.mp (reached file)
    exact FileSystem.read_eq_ok_iff.mpr ⟨led, grows.file _ _ there⟩
  · exact rewrites.read_eq_ok tree grows elsewhere

end

end Rewrites

end SessionHost.FileSystem
