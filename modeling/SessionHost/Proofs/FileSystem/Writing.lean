import SessionHost.FileSystem.Change
import SessionHost.Proofs.Text.Utf8

/-!
A file that was written can be read.

Writing a file leaves all directories in place (`KeepsDirectories`), so that every path that led
somewhere still leads there. `find_of_write` says that the written path leads to the new content,
and `write_failed` what is left behind if the file did not take it all.
-/

namespace SessionHost.FileSystem

variable {fs other : FileSystem}

/-- Two steps come to a result if the first has one and the second makes it that. -/
theorem bind_eq_ok_iff {ε α β : Type} {first : Except ε α} {next : α → Except ε β} {result : β} :
    first >>= next = .ok result ↔ ∃ found, first = .ok found ∧ next found = .ok result := by
  cases first with
  | error error => simp [bind, Except.bind]
  | ok found => simp [bind, Except.bind]

/-! ### Directories that stay -/

/-- Every directory of the one tree is a directory of the other. -/
def KeepsDirectories (fs other : FileSystem) : Prop :=
  ∀ place, fs.node? place = some .directory → other.node? place = some .directory

theorem requireDirectory_eq_ok_iff {place : Location} :
    fs.requireDirectory place = .ok () ↔ fs.node? place = some .directory := by
  unfold requireDirectory
  cases fs.node? place with
  | none => simp
  | some node => cases node <;> simp

/-- A step from a directory does not depend on anything else in the tree. -/
theorem enter_of_directory {here : Location} (directory : fs.node? here = some .directory)
    (segment : Bytes) :
    fs.enter here segment =
      if Path.isIdle segment then .ok here
      else if segment = [Path.dot, Path.dot] then .ok here.dropLast
      else if longestName < segment.length then .error .nameTooLong
      else .ok (here ++ [segment]) := by
  rw [enter, requireDirectory_eq_ok_iff.mpr directory]
  rfl

/-- A step is from a directory. -/
theorem directory_of_enter {here there : Location} {segment : Bytes}
    (entered : fs.enter here segment = .ok there) : fs.node? here = some .directory := by
  obtain ⟨_, required, -⟩ := bind_eq_ok_iff.mp entered
  exact requireDirectory_eq_ok_iff.mp required

namespace KeepsDirectories

variable (keeps : KeepsDirectories fs other)

include keeps

/-- A step that can be made can still be made. -/
theorem enter {here there : Location} {segment : Bytes}
    (entered : fs.enter here segment = .ok there) : other.enter here segment = .ok there := by
  have directory := directory_of_enter entered
  rwa [enter_of_directory (keeps here directory), ← enter_of_directory directory]

/-- So can a walk. -/
theorem walk {here there : Location} {segments : List Bytes}
    (walked : fs.walk here segments = .ok there) : other.walk here segments = .ok there := by
  induction segments generalizing here with
  | nil => exact walked
  | cons segment rest ih =>
      rw [FileSystem.walk, List.foldlM_cons] at walked ⊢
      obtain ⟨next, entered, walked⟩ := bind_eq_ok_iff.mp walked
      exact bind_eq_ok_iff.mpr ⟨next, keeps.enter entered, ih walked⟩

end KeepsDirectories

/-- Where no directory is, is not the root. -/
theorem ne_nil_of_free {place : Location} (free : fs.node? place ≠ some .directory) :
    place ≠ [] := by
  rintro rfl
  exact free rfl

/-- A file that is put where no directory is leaves all directories as they are. -/
theorem keepsDirectories_put {place : Location} (free : fs.node? place ≠ some .directory)
    (content : Bytes) : KeepsDirectories fs (fs.put place (.file content)) := by
  intro other directory
  rw [node?_put (ne_nil_of_free free), if_neg]
  · exact directory
  · rintro rfl
    exact free directory

/-! ### Reading what was written -/

/-- A path has a segment. -/
theorem segments_eq (path : Path) :
    path.segments = path.segments.dropLast ++ [lastSegment path] := by
  have some : path.segments ≠ [] := List.splitOn_ne_nil _ _
  rw [lastSegment, List.getLast?_eq_some_getLast some, Option.getD_some,
    List.dropLast_concat_getLast some]

/-- Where a file may be written, its path leads, and no directory is there. -/
theorem locate_of_writable {path : Path} {place : Location}
    (writable : fs.writable path = .ok place) :
    fs.locate path = .ok place ∧ fs.node? place ≠ some .directory := by
  obtain ⟨_, admitted, writable⟩ := bind_eq_ok_iff.mp writable
  obtain ⟨above, walked, writable⟩ := bind_eq_ok_iff.mp writable
  obtain ⟨_, required, writable⟩ := bind_eq_ok_iff.mp writable
  split at writable
  · cases writable
  · rename_i plain
    obtain ⟨found, entered, writable⟩ := bind_eq_ok_iff.mp writable
    have whole : stripSlashes path = path := by
      rw [Bool.or_eq_true, not_or, decide_eq_true_eq] at plain
      exact Decidable.of_not_not plain.1
    rw [whole] at walked entered
    have located : fs.locate path = .ok found := by
      refine bind_eq_ok_iff.mpr ⟨_, admitted, ?_⟩
      rw [segments_eq path, walk, List.foldlM_append]
      refine bind_eq_ok_iff.mpr ⟨above, walked, ?_⟩
      rw [List.foldlM_cons]
      exact bind_eq_ok_iff.mpr ⟨found, entered, rfl⟩
    split at writable
    · cases writable
    · rename_i free
      split at writable
      · cases writable
      · obtain rfl := Except.ok.inj writable
        exact ⟨located, free⟩

/-- What is taken of a content without an error is all of it. -/
theorem Refusals.eq_of_fill {refusals : Refusals} {content filled : Bytes}
    (whole : refusals.fill content = (filled, .ok ())) : filled = content := by
  unfold fill at whole
  split at whole
  · split at whole
    · cases whole
    · exact (Prod.mk.inj whole).1.symm
  · exact (Prod.mk.inj whole).1.symm

/-- Otherwise it is a beginning that is not all. -/
theorem Refusals.fill_failed {refusals : Refusals} {content filled : Bytes} {error : Error}
    (failed : refusals.fill content = (filled, .error error)) :
    ∃ room, refusals.filling = some (room, error) ∧ room < content.length ∧
      filled = content.take room := by
  unfold fill at failed
  split at failed
  · rename_i room cause limited
    split at failed
    · rename_i short
      cases failed
      exact ⟨room, limited, short, rfl⟩
    · cases failed
  · cases failed

/-- A write puts a file where one may be written. -/
theorem put_of_write {path : Path} {content : Bytes}
    (written : fs.write path content = (other, .ok ())) :
    ∃ place, fs.writable path = .ok place ∧ other = fs.put place (.file content) := by
  unfold write at written
  split at written
  · cases written
  · rename_i place writable
    generalize filled : (fs.refusals place).fill content = part at written
    obtain ⟨part, outcome⟩ := part
    obtain ⟨rfl, rfl⟩ := Prod.mk.inj written
    exact ⟨place, writable, by rw [Refusals.eq_of_fill filled]⟩

/-- A write that fails was refused before the file was opened, and then nothing has changed, or it
was broken off, and then the beginning of the content is in the file. -/
theorem write_failed {path : Path} {content : Bytes} {error : Error}
    (failed : fs.write path content = (other, .error error)) :
    fs.writable path = .error error ∧ other = fs ∨
      ∃ place room, fs.writable path = .ok place ∧
        (fs.refusals place).filling = some (room, error) ∧ room < content.length ∧
        other = fs.put place (.file (content.take room)) := by
  unfold write at failed
  split at failed
  · rename_i refused
    cases failed
    exact .inl ⟨refused, rfl⟩
  · rename_i place writable
    generalize filled : (fs.refusals place).fill content = part at failed
    obtain ⟨part, outcome⟩ := part
    obtain ⟨rfl, rfl⟩ := Prod.mk.inj failed
    obtain ⟨room, limited, short, rfl⟩ := Refusals.fill_failed filled
    exact .inr ⟨place, room, writable, limited, short, rfl⟩

/-- After a write the path leads to the new content. -/
theorem find_of_write {path : Path} {content : Bytes}
    (written : fs.write path content = (other, .ok ())) :
    ∃ place, other.find path = .ok (place, .file content) := by
  obtain ⟨place, writable, rfl⟩ := put_of_write written
  obtain ⟨located, free⟩ := locate_of_writable writable
  have keeps := keepsDirectories_put free content
  obtain ⟨_, admitted, walked⟩ := bind_eq_ok_iff.mp located
  have still : (fs.put place (.file content)).locate path = .ok place :=
    bind_eq_ok_iff.mpr ⟨_, admitted, keeps.walk walked⟩
  refine ⟨place, bind_eq_ok_iff.mpr ⟨place, still, ?_⟩⟩
  rw [node?_put (ne_nil_of_free free), if_pos rfl]

/-- So it leads to the text, if a text was written. -/
theorem readText_of_write {path : Path} {text : String}
    (written : fs.write path (Text.encode text) = (other, .ok ())) :
    other.holds path = true ∧ other.readText path = .ok text := by
  obtain ⟨place, found⟩ := find_of_write written
  have read : other.read path = .ok (Text.encode text) := bind_eq_ok_iff.mpr ⟨_, found, rfl⟩
  constructor
  · rw [holds, found]
  · refine bind_eq_ok_iff.mpr ⟨_, read, ?_⟩
    rw [Text.decode?_encode]

end SessionHost.FileSystem
