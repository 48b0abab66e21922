import SessionHost.Proofs.FileSystem.Writing

/-!
Directories that are made.

Making directories lets a tree grow, which says that what stood somewhere still stands there, and
that all that is new are directories. `aim` is the place that a path means whatever stands in the
tree: if a walk along the path gets to its end, then it ends there. `Grows.read` says what can be
read along a path after a tree has grown, and `provide_failed` what is left behind when a file could
not be provided.
-/

namespace SessionHost.FileSystem

variable {fs other : FileSystem}

/-! ### Growth -/

/-- The other tree has all that the one has, and besides it only directories. -/
structure Grows (fs other : FileSystem) : Prop where
  cwd : other.cwd = fs.cwd
  refusals : other.refusals = fs.refusals
  kept : ∀ place node, fs.node? place = some node → other.node? place = some node
  file : ∀ place content, other.node? place = some (.file content) →
    fs.node? place = some (.file content)

namespace Grows

theorem refl (fs : FileSystem) : Grows fs fs := ⟨rfl, rfl, fun _ _ => id, fun _ _ => id⟩

theorem trans {third : FileSystem} (first : Grows fs other) (second : Grows other third) :
    Grows fs third where
  cwd := second.cwd.trans first.cwd
  refusals := second.refusals.trans first.refusals
  kept place node stood := second.kept place node (first.kept place node stood)
  file place content stands := first.file place content (second.file place content stands)

theorem keepsDirectories (grows : Grows fs other) : KeepsDirectories fs other :=
  fun place => grows.kept place .directory

end Grows

/-- One directory is made where nothing was. -/
theorem grows_of_makeDirectory {path : Path} (made : fs.makeDirectory path = .ok other) :
    Grows fs other := by
  obtain ⟨_, -, made⟩ := bind_eq_ok_iff.mp made
  obtain ⟨place, -, made⟩ := bind_eq_ok_iff.mp made
  split at made
  · cases made
  · rename_i free
    obtain rfl := Except.ok.inj made
    rw [Bool.or_eq_true, not_or, Option.not_isSome_iff_eq_none] at free
    have below : place ≠ [] := by
      rintro rfl
      exact absurd free.2 (by simp [node?])
    refine ⟨rfl, rfl, fun there node stood => ?_, fun there content stands => ?_⟩
    · rw [node?_put below, if_neg]
      · exact stood
      · rintro rfl
        rw [free.2] at stood
        cases stood
    · rw [node?_put below] at stands
      split at stands
      · cases stands
      · exact stands

/-- However far making a lineage came, the tree has grown. -/
theorem grows_makeLineage (fs : FileSystem) (lineage : List Path) :
    Grows fs (fs.makeLineage lineage).1 := by
  -- Only where a path is not found is the rest of the lineage made, and the path tried again.
  induction lineage with
  | nil => exact .refl fs
  | cons path above ih =>
      unfold makeLineage
      split
      · exact .refl fs
      · split
        · exact grows_of_makeDirectory ‹_›
        · split
          · rename_i made _ failed
            rwa [failed] at ih
          · rename_i made went
            rw [went] at ih
            split
            · exact ih.trans (grows_of_makeDirectory ‹_›)
            · split <;> exact ih
        · split <;> exact .refl fs

/-- So it has when directories were made. -/
theorem grows_makeDirectories (fs : FileSystem) (path : Path) :
    Grows fs (fs.makeDirectories path).1 :=
  grows_makeLineage fs path.lineage

/-- A file is provided by making directories and then writing it, unless the directories cannot be
made. -/
theorem provide_cases (fs : FileSystem) (path : Path) (content : Bytes) :
    ∃ made, Grows fs made ∧
      ((∃ error, fs.provide path content = (made, .error error)) ∨
        fs.provide path content = made.write path content) := by
  unfold provide
  split
  · exact ⟨fs, .refl fs, .inr rfl⟩
  · rename_i parent _
    have grows := fs.grows_makeDirectories parent
    split
    · rename_i made error failed
      rw [failed] at grows
      exact ⟨made, grows, .inl ⟨error, rfl⟩⟩
    · rename_i made all
      rw [all] at grows
      exact ⟨made, grows, .inr rfl⟩

/-! ### Where a path leads -/

/-- The place that a segment means, seen from a place. -/
def follow (here : Location) (segment : Bytes) : Location :=
  if Path.isIdle segment then here
  else if segment = [Path.dot, Path.dot] then here.dropLast
  else here ++ [segment]

/-- The place that a path means, whether or not it can be walked. -/
def aim (fs : FileSystem) (path : Path) : Location :=
  path.segments.foldl follow (fs.origin path)

/-- A step that can be made leads to the place that is meant. -/
theorem eq_follow_of_enter {here there : Location} {segment : Bytes}
    (entered : fs.enter here segment = .ok there) : there = follow here segment := by
  rw [enter_of_directory (directory_of_enter entered)] at entered
  unfold follow
  by_cases idle : Path.isIdle segment
  · rw [if_pos idle] at entered ⊢
    exact (Except.ok.inj entered).symm
  · rw [if_neg idle] at entered ⊢
    by_cases up : segment = [Path.dot, Path.dot]
    · rw [if_pos up] at entered ⊢
      exact (Except.ok.inj entered).symm
    · rw [if_neg up] at entered ⊢
      split at entered
      · cases entered
      · exact (Except.ok.inj entered).symm

theorem eq_foldl_of_walk {here there : Location} {segments : List Bytes}
    (walked : fs.walk here segments = .ok there) : there = segments.foldl follow here := by
  induction segments generalizing here with
  | nil => exact (Except.ok.inj walked).symm
  | cons segment rest ih =>
      rw [walk, List.foldlM_cons] at walked
      obtain ⟨next, entered, walked⟩ := bind_eq_ok_iff.mp walked
      rw [List.foldl_cons, ← eq_follow_of_enter entered]
      exact ih walked

/-- A path that leads somewhere leads to the place that it means. -/
theorem eq_aim_of_locate {path : Path} {place : Location} (located : fs.locate path = .ok place) :
    place = fs.aim path := by
  obtain ⟨_, -, walked⟩ := bind_eq_ok_iff.mp located
  exact eq_foldl_of_walk walked

/-- What a path means depends on the working directory only. -/
theorem aim_eq_of_cwd (same : other.cwd = fs.cwd) (path : Path) : other.aim path = fs.aim path := by
  rw [aim, aim, origin, origin, same]

theorem find_eq_ok_iff {path : Path} {place : Location} {node : Node} :
    fs.find path = .ok (place, node) ↔
      fs.locate path = .ok place ∧ fs.node? place = some node := by
  constructor
  · intro found
    obtain ⟨there, located, found⟩ := bind_eq_ok_iff.mp found
    split at found
    · rename_i stands
      obtain ⟨rfl, rfl⟩ := Prod.mk.inj (Except.ok.inj found)
      exact ⟨located, stands⟩
    · cases found
  · rintro ⟨located, stands⟩
    refine bind_eq_ok_iff.mpr ⟨place, located, ?_⟩
    rw [stands]

/-- A file can be read if it stands where the path means and the path leads there. -/
theorem read_eq_ok_iff {path : Path} {content : Bytes} :
    fs.read path = .ok content ↔
      fs.locate path = .ok (fs.aim path) ∧ fs.node? (fs.aim path) = some (.file content) := by
  constructor
  · intro read
    obtain ⟨⟨place, node⟩, found, read⟩ := bind_eq_ok_iff.mp read
    obtain ⟨located, stands⟩ := find_eq_ok_iff.mp found
    obtain rfl := eq_aim_of_locate located
    cases node with
    | file bytes =>
        obtain rfl := Except.ok.inj read
        exact ⟨located, stands⟩
    | directory => cases read
  · intro stands
    exact bind_eq_ok_iff.mpr ⟨_, find_eq_ok_iff.mpr stands, rfl⟩

theorem holds_iff {path : Path} :
    fs.holds path = true ↔ ∃ place node, fs.find path = .ok (place, node) := by
  unfold holds
  cases fs.find path with
  | error error => simp
  | ok found => exact ⟨fun _ => ⟨found.1, found.2, rfl⟩, fun _ => rfl⟩

/-- Where all directories are kept, a path that led somewhere still leads there. -/
theorem KeepsDirectories.locate (keeps : KeepsDirectories fs other) (same : other.cwd = fs.cwd)
    {path : Path} {place : Location} (located : fs.locate path = .ok place) :
    other.locate path = .ok place := by
  obtain ⟨_, admitted, walked⟩ := bind_eq_ok_iff.mp located
  have start : other.origin path = fs.origin path := by
    rw [origin, origin, same]
  refine bind_eq_ok_iff.mpr ⟨_, admitted, ?_⟩
  rw [start]
  exact keeps.walk walked

/-- So a file that is still there can still be read. -/
theorem KeepsDirectories.read_of_read (keeps : KeepsDirectories fs other)
    (same : other.cwd = fs.cwd) {path : Path} {content : Bytes} (read : fs.read path = .ok content)
    (still : fs.node? (fs.aim path) = some (.file content) →
      other.node? (fs.aim path) = some (.file content)) :
    other.read path = .ok content := by
  obtain ⟨led, stood⟩ := read_eq_ok_iff.mp read
  rw [read_eq_ok_iff, aim_eq_of_cwd same]
  exact ⟨keeps.locate same led, still stood⟩

/-! ### Files elsewhere -/

/-- A file that is put somewhere makes no directory. -/
theorem keepsDirectories_of_put {place : Location} (below : place ≠ []) (content : Bytes) :
    KeepsDirectories (fs.put place (.file content)) fs := by
  intro other directory
  rw [node?_put below] at directory
  split at directory
  · cases directory
  · exact directory

/-- A file that is put somewhere does not change what can be read elsewhere. -/
theorem read_put {place : Location} {path : Path} {bytes content : Bytes}
    (free : fs.node? place ≠ some .directory) (away : fs.aim path ≠ place) :
    (fs.put place (.file bytes)).read path = .ok content ↔ fs.read path = .ok content := by
  have below := ne_nil_of_free free
  have means : (fs.put place (.file bytes)).aim path = fs.aim path := aim_eq_of_cwd rfl path
  rw [read_eq_ok_iff, read_eq_ok_iff, means, node?_put below, if_neg away]
  refine and_congr_left fun _ => ⟨fun led => ?_, fun led => ?_⟩
  · exact (keepsDirectories_of_put below bytes).locate rfl led
  · exact (keepsDirectories_put free bytes).locate rfl led

/-- What could be read before directories were made is read after it. -/
theorem Grows.read_of_read {path : Path} {content : Bytes} (grows : Grows fs other)
    (read : fs.read path = .ok content) : other.read path = .ok content :=
  grows.keepsDirectories.read_of_read grows.cwd read (grows.kept _ _)

/-- Making directories does not change what can be read, if a file that stands there could be
reached already before. -/
theorem Grows.read {path : Path} {content : Bytes} (grows : Grows fs other)
    (reached : ∀ content, fs.node? (fs.aim path) = some (.file content) → fs.holds path) :
    other.read path = .ok content ↔ fs.read path = .ok content := by
  refine ⟨fun read => ?_, grows.read_of_read⟩
  obtain ⟨-, stands⟩ := read_eq_ok_iff.mp read
  rw [aim_eq_of_cwd grows.cwd] at stands
  have stood := grows.file _ content stands
  obtain ⟨there, _, found⟩ := holds_iff.mp (reached content stood)
  obtain ⟨led, -⟩ := find_eq_ok_iff.mp found
  obtain rfl := eq_aim_of_locate led
  exact read_eq_ok_iff.mpr ⟨led, stood⟩

/-- Some bytes are written where directories may have been made first. What can be read elsewhere
stays the same, if a file that stands there could be reached already before. -/
theorem read_elsewhere {made : FileSystem} {target path : Path} {bytes content : Bytes}
    (grows : Grows fs made) (written : made.write target bytes = (other, .ok ()))
    (elsewhere : fs.aim target ≠ fs.aim path)
    (reached : ∀ content, fs.node? (fs.aim path) = some (.file content) → fs.holds path) :
    other.read path = .ok content ↔ fs.read path = .ok content := by
  obtain ⟨place, writable, rfl⟩ := put_of_write written
  obtain ⟨located, free⟩ := locate_of_writable writable
  have away : made.aim path ≠ place := by
    rw [eq_aim_of_locate located, aim_eq_of_cwd grows.cwd, aim_eq_of_cwd grows.cwd]
    exact elsewhere.symm
  exact (read_put free away).trans (grows.read reached)

/-! ### Files that were not provided -/

/-- The writing of a content broke off: there is a file where the path leads, and a beginning of the
content is in it. Every other file is as it was. -/
structure BrokenOff (path : Path) (content : Bytes) (error : Error) (place : Location)
    (fs other : FileSystem) : Prop where
  cwd : other.cwd = fs.cwd
  leads : other.locate path = .ok place
  part : ∃ room, (fs.refusals place).filling = some (room, error) ∧ room < content.length ∧
    other.node? place = some (.file (content.take room))
  keepsDirectories : KeepsDirectories fs other
  elsewhere : ∀ there bytes, there ≠ place →
    (other.node? there = some (.file bytes) ↔ fs.node? there = some (.file bytes))

/-- What could be read elsewhere still is. -/
theorem BrokenOff.read_of_read {path read : Path} {content bytes : Bytes} {error : Error}
    {place : Location} (broken : BrokenOff path content error place fs other)
    (elsewhere : fs.locate read ≠ .ok place) (was : fs.read read = .ok bytes) :
    other.read read = .ok bytes := by
  have apart : fs.aim read ≠ place := by
    rintro rfl
    exact elsewhere (read_eq_ok_iff.mp was).1
  exact broken.keepsDirectories.read_of_read broken.cwd was (broken.elsewhere _ _ apart).mpr

/-- **A file that could not be provided** leaves new directories behind and no more, unless the
writing broke off. -/
theorem provide_failed {path : Path} {content : Bytes} {error : Error}
    (failed : fs.provide path content = (other, .error error)) :
    Grows fs other ∨ ∃ place, BrokenOff path content error place fs other := by
  obtain ⟨made, grows, ⟨cause, unmade⟩ | wrote⟩ := fs.provide_cases path content
  · obtain ⟨rfl, -⟩ := Prod.mk.inj (failed.symm.trans unmade)
    exact .inl grows
  · obtain ⟨-, rfl⟩ | ⟨place, room, writable, limited, short, rfl⟩ :=
      write_failed (wrote.symm.trans failed)
    · exact .inl grows
    · obtain ⟨located, free⟩ := locate_of_writable writable
      have below := ne_nil_of_free free
      have keeps := keepsDirectories_put free (content.take room)
      rw [grows.refusals] at limited
      refine .inr ⟨place, grows.cwd, keeps.locate rfl located, ⟨room, limited, short, ?_⟩,
        fun there directory => keeps there (grows.keepsDirectories there directory), ?_⟩
      · rw [node?_put below, if_pos rfl]
      · intro there bytes apart
        rw [node?_put below, if_neg apart]
        exact ⟨grows.file there bytes, grows.kept there _⟩

end SessionHost.FileSystem
