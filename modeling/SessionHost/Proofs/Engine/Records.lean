import SessionHost.Engine.Record
import SessionHost.Proofs.Engine.Discovery
import SessionHost.Proofs.FileSystem.Skeleton

/-!
Records that are loaded together.

The files of records are loaded one after the other in the order of their names, and the first that
cannot be loaded spoils them all (`mapM_eq_error_iff`). `SavedRecord.loadAll_in_order` says what this
comes to, and that neither the order in which the directory is shown nor the other files in it
matter.
-/

namespace SessionHost.Engine

open Text FileSystem

/-! ### One after the other -/

section

variable {α β ε : Type} {f : α → Except ε β} {xs : List α}

theorem mapM_cons_of_error {x : α} {e : ε} (first : f x = .error e) :
    (x :: xs).mapM f = .error e := by
  rw [List.mapM_cons, first]
  rfl

theorem mapM_cons_of_ok {x : α} {y : β} (first : f x = .ok y) :
    (x :: xs).mapM f = (xs.mapM f).map (y :: ·) := by
  rw [List.mapM_cons, first]
  cases xs.mapM f <;> rfl

theorem mapM_congr {g : α → Except ε β} (same : ∀ x ∈ xs, f x = g x) :
    xs.mapM f = xs.mapM g := by
  induction xs with
  | nil => rfl
  | cons x xs ih =>
      rw [List.mapM_cons, List.mapM_cons, same x List.mem_cons_self,
        ih fun y member => same y (List.mem_cons_of_mem _ member)]

/-- All succeed, each with its own result. -/
theorem mapM_eq_ok_iff {ys : List β} :
    xs.mapM f = .ok ys ↔ List.Forall₂ (fun x y => f x = .ok y) xs ys := by
  induction xs generalizing ys with
  | nil => cases ys <;> simp [pure, Except.pure]
  | cons x xs ih =>
      cases first : f x with
      | error e =>
          rw [mapM_cons_of_error first]
          cases ys <;> simp [first]
      | ok y =>
          rw [mapM_cons_of_ok first]
          cases rest : xs.mapM f with
          | error e =>
              rw [rest] at ih
              cases ys <;> simp [Except.map, ← ih]
          | ok others =>
              rw [rest] at ih
              cases ys <;> simp [Except.map, ← ih, first]

/-- The first that fails makes the whole fail, in its way. -/
theorem mapM_eq_error_iff {e : ε} :
    xs.mapM f = .error e ↔
      ∃ before x after, xs = before ++ x :: after ∧ (∀ y ∈ before, ∃ b, f y = .ok b) ∧
        f x = .error e := by
  induction xs with
  | nil => simp [pure, Except.pure]
  | cons x xs ih =>
      cases first : f x with
      | error d =>
          rw [mapM_cons_of_error first]
          constructor
          · intro same
            obtain rfl := Except.error.inj same
            exact ⟨[], x, xs, rfl, by simp, first⟩
          · rintro ⟨before, y, after, whole, earlier, failed⟩
            cases before with
            | nil =>
                obtain rfl := List.head_eq_of_cons_eq whole
                exact congrArg Except.error (Except.error.inj (first.symm.trans failed))
            | cons z before =>
                obtain rfl := List.head_eq_of_cons_eq whole
                obtain ⟨b, done⟩ := earlier x List.mem_cons_self
                cases first.symm.trans done
      | ok y =>
          have later : (xs.mapM f).map (y :: ·) = .error e ↔ xs.mapM f = .error e := by
            cases xs.mapM f <;> simp [Except.map]
          rw [mapM_cons_of_ok first, later, ih]
          constructor
          · rintro ⟨before, z, after, rfl, earlier, failed⟩
            refine ⟨x :: before, z, after, rfl, ?_, failed⟩
            rw [List.forall_mem_cons]
            exact ⟨⟨y, first⟩, earlier⟩
          · rintro ⟨before, z, after, whole, earlier, failed⟩
            cases before with
            | nil =>
                obtain rfl := List.head_eq_of_cons_eq whole
                cases first.symm.trans failed
            | cons w before =>
                exact ⟨before, z, after, List.tail_eq_of_cons_eq whole,
                  fun v member => earlier v (List.mem_cons_of_mem _ member), failed⟩

/-- There are results exactly if none fails. -/
theorem exists_mapM_eq_ok_iff :
    (∃ ys, xs.mapM f = .ok ys) ↔ ∀ x ∈ xs, ∃ y, f x = .ok y := by
  constructor
  · rintro ⟨ys, done⟩ x member
    have all := mapM_eq_ok_iff.mp done
    clear done
    induction all with
    | nil => cases member
    | cons first _ ih =>
        rcases List.mem_cons.mp member with rfl | member
        · exact ⟨_, first⟩
        · exact ih member
  · intro all
    cases result : xs.mapM f with
    | ok ys => exact ⟨ys, rfl⟩
    | error e =>
        obtain ⟨before, x, after, rfl, -, failed⟩ := mapM_eq_error_iff.mp result
        obtain ⟨y, done⟩ := all x (by simp)
        rw [failed] at done
        cases done

end

namespace SavedRecord

/-! ### One record -/

/-- What can be read at a path spells a record. -/
def Spells (files : FileSystem) (path : Path) (record : SavedRecord) : Prop :=
  ∃ content, files.read path = .ok content ∧ parse? content = some record

/-- The error is what keeps a path from having a record: nothing can be read there, or what can be
read spells none. -/
def Spoils (files : FileSystem) (path : Path) (error : Error) : Prop :=
  (∃ cause, files.read path = .error cause ∧ error = .read path cause) ∨
    ∃ content, files.read path = .ok content ∧ parse? content = none ∧
      error = .malformedJson path

variable {files : FileSystem} {path : Path}

theorem load_eq_ok_iff {record : SavedRecord} :
    load files path = .ok record ↔ Spells files path record := by
  unfold load Spells readFile
  cases files.read path with
  | error cause => simp [bind, Except.bind, Except.mapError]
  | ok content =>
      cases spelled : parse? content <;> simp [bind, Except.bind, Except.mapError, spelled]

theorem load_eq_error_iff {error : Error} :
    load files path = .error error ↔ Spoils files path error := by
  unfold load Spoils readFile
  cases files.read path with
  | error cause => simp [bind, Except.bind, Except.mapError, eq_comm]
  | ok content =>
      cases spelled : parse? content <;>
        simp [bind, Except.bind, Except.mapError, spelled, eq_comm]

/-! ### Names of records -/

/-- A name is that of a record if it ends in the extension, and in something before it. -/
theorem isFileName_iff {name : Bytes} :
    isFileName name = true ↔ ∃ start, start ≠ [] ∧ name = start ++ encode ".json" := by
  have ending : encode ".json" = Path.dot :: encode extension := by decide
  rw [isFileName, decide_eq_true_eq, Path.extension?_eq_some_iff (by decide), ending]

theorem mem_fileNames_iff {names : List Bytes} {name : Bytes} :
    name ∈ fileNames names ↔ name ∈ names ∧ isFileName name = true := by
  rw [fileNames, (List.mergeSort_perm _ _).mem_iff, List.mem_filter]

theorem pairwise_le_fileNames (names : List Bytes) : (fileNames names).Pairwise (· ≤ ·) :=
  pairwise_mergeSort_of_key id _

/-- Names that are all different are in strict order. -/
theorem pairwise_lt_fileNames {names : List Bytes} (nodup : names.Nodup) :
    (fileNames names).Pairwise (· < ·) := by
  have different : (fileNames names).Pairwise (· ≠ ·) :=
    (List.mergeSort_perm _ _).nodup_iff.mpr (nodup.filter _)
  exact (pairwise_le_fileNames names).imp₂ (fun _ _ => Std.lt_of_le_of_ne) different

/-- The order in which names come, and names of no records, make no difference. -/
theorem fileNames_eq_of_perm {names others : List Bytes}
    (perm : (names.filter isFileName).Perm (others.filter isFileName)) :
    fileNames names = fileNames others := by
  have all : (fileNames names).Perm (fileNames others) :=
    (List.mergeSort_perm _ _).trans (perm.trans (List.mergeSort_perm _ _).symm)
  exact all.eq_of_pairwise (fun _ _ _ _ => List.le_antisymm) (pairwise_le_fileNames names)
    (pairwise_le_fileNames others)

/-! ### All records of a directory -/

/-- **Records are loaded all or not at all, in the order of their names.** In a directory that can be
listed the files of records are those whose names end in the extension after something else. Take
them in the order of the bytes of their full names, in which each of them stands once. The load comes
to records exactly if all of them can be read and spell one, and these are then their records in that
order. Otherwise it comes to the error of the first one that fails.

Another tree whose directory shows the same files of records, in any order and with any other files,
and in which they read the same, comes to the same result. -/
theorem loadAll_in_order {files : FileSystem} {dir : Path} {names : List Bytes}
    (listed : files.list dir = .ok names) :
    let ordered := fileNames names
    let place (name : Bytes) := dir.join ⟨name⟩
    (∀ name, isFileName name = true ↔ ∃ start, start ≠ [] ∧ name = start ++ encode ".json") ∧
      ordered.Pairwise (· < ·) ∧
      (∀ name, name ∈ ordered ↔ name ∈ names ∧ isFileName name = true) ∧
      ((∃ records, loadAll files dir = .ok records) ↔
        ∀ name ∈ names, isFileName name = true → ∃ record, Spells files (place name) record) ∧
      (∀ records, loadAll files dir = .ok records ↔
        List.Forall₂ (fun name record => Spells files (place name) record) ordered records) ∧
      (∀ error, loadAll files dir = .error error ↔
        ∃ before name after, ordered = before ++ name :: after ∧
          (∀ earlier ∈ before, ∃ record, Spells files (place earlier) record) ∧
          Spoils files (place name) error) ∧
      ∀ other others, other.list dir = .ok others →
        (others.filter isFileName).Perm (names.filter isFileName) →
        (∀ name ∈ names, isFileName name = true →
          other.read (place name) = files.read (place name)) →
        loadAll other dir = loadAll files dir := by
  intro ordered place
  have loads : loadAll files dir = ordered.mapM fun name => load files (place name) := by
    rw [loadAll, listed]
  refine ⟨fun _ => isFileName_iff, pairwise_lt_fileNames (nodup_of_list listed),
    fun _ => mem_fileNames_iff, ?_, fun records => ?_, fun error => ?_,
    fun other others listed' perm same => ?_⟩
  · rw [loads, exists_mapM_eq_ok_iff]
    simp only [load_eq_ok_iff, ordered, mem_fileNames_iff, and_imp]
  · rw [loads, mapM_eq_ok_iff]
    simp only [load_eq_ok_iff]
  · rw [loads, mapM_eq_error_iff]
    simp only [load_eq_ok_iff, load_eq_error_iff]
  · have loads' : loadAll other dir = ordered.mapM fun name => load other (place name) := by
      rw [loadAll, listed']
      exact congrArg (List.mapM fun name => load other (place name)) (fileNames_eq_of_perm perm)
    rw [loads, loads']
    refine mapM_congr fun name member => ?_
    obtain ⟨shown, counts⟩ := mem_fileNames_iff.mp member
    rw [load, load, readFile, readFile, same name shown counts]

/-- A directory with a record, a directory by the name of a record, a file that spells none, and two
files that do not count. The directory among them spoils the load, in whatever order they are
shown. Another file that spells no record spoils it in the same place, and if there are records in
all three files they are loaded in order. -/
theorem loadAll_in_order_spoilt :
    let dir : Path := ⟨encode "save"⟩
    let place (name : String) : Location := [encode "save", encode name]
    let files : FileSystem :=
      { cwd := []
        nodes :=
          [([encode "save"], .directory), (place ".json", .file []),
            (place "0.json", .file (encode "[]")), (place "a.json", .directory),
            (place "b.json", .file [0xFF]), (place "notes.txt", .file [])]
        nodup := by decide +revert }
    let other : FileSystem :=
      { cwd := []
        nodes :=
          [(place "b.json", .file [0xFF]), (place "a.json", .directory),
            (place "0.json", .file (encode "[]")), ([encode "save"], .directory)]
        nodup := by decide +revert }
    let malformed := files.put (place "a.json") (.file (encode "[null"))
    let whole := (files.put (place "a.json") (.file (encode "[\"x\"]"))).put (place "b.json")
      (.file (encode "\x7b\"cur_act\": 2\x7d"))
    let first : Path := dir.join ⟨encode "a.json"⟩
    files.list dir = .ok ([".json", "0.json", "a.json", "b.json", "notes.txt"].map encode) ∧
      other.list dir = .ok (["b.json", "a.json", "0.json"].map encode) ∧
      loadAll files dir = .error (.read first .isADirectory) ∧
      loadAll other dir = .error (.read first .isADirectory) ∧
      loadAll malformed dir = .error (.malformedJson first) ∧
      loadAll whole dir = .ok [⟨"", 0, []⟩, ⟨"x", 0, []⟩, ⟨"", 2, []⟩] := by
  intro dir place files other malformed whole first
  let names := [".json", "0.json", "a.json", "b.json", "notes.txt"].map encode
  have listed : files.list dir = .ok names := by decide +kernel
  have listed' : other.list dir = .ok (["b.json", "a.json", "0.json"].map encode) := by
    decide +kernel
  have ordered : fileNames names = [encode "0.json", encode "a.json", encode "b.json"] := by
    have counts : names.filter isFileName
        = [encode "0.json", encode "a.json", encode "b.json"] := by
      decide +kernel
    rw [fileNames, counts]
    exact List.mergeSort_of_pairwise (by decide +kernel)
  have spelled (content : Bytes) (paragraph : String) (act : UInt64)
      (computed : (parse? content).map (fun record =>
        (record.paragraph, record.act, record.locals.length)) = some (paragraph, act, 0)) :
      parse? content = some ⟨paragraph, act, []⟩ := by
    obtain ⟨⟨_, _, locals⟩, found, same⟩ := Option.map_eq_some_iff.mp computed
    simp only [Prod.mk.injEq, List.length_eq_zero_iff] at same
    obtain ⟨rfl, rfl, rfl⟩ := same
    exact found
  have zero : parse? (encode "[]") = some ⟨"", 0, []⟩ := spelled _ _ _ (by decide +kernel)
  -- The file before is read alike in all three trees.
  have spoilt (tree : FileSystem) (error : Error) (shown : tree.list dir = .ok names)
      (before : tree.read (dir.join ⟨encode "0.json"⟩) = .ok (encode "[]"))
      (spoils : Spoils tree first error) : loadAll tree dir = .error error := by
    obtain ⟨-, -, -, -, -, fails, -⟩ := loadAll_in_order shown
    refine (fails error).mpr ⟨[encode "0.json"], encode "a.json", [encode "b.json"], ordered, ?_,
      spoils⟩
    intro name member
    obtain rfl := List.mem_singleton.mp member
    exact ⟨_, _, before, zero⟩
  have failed : loadAll files dir = .error (.read first .isADirectory) :=
    spoilt files _ listed (by decide +kernel) (.inl ⟨.isADirectory, by decide +kernel, rfl⟩)
  refine ⟨listed, listed', failed, ?_, ?_, ?_⟩
  · obtain ⟨-, -, -, -, -, -, alike⟩ := loadAll_in_order listed
    exact (alike other _ listed' (by decide +kernel) (by decide +kernel)).trans failed
  · have unspelled : parse? (encode "[null") = none :=
      Option.isNone_iff_eq_none.mp (by decide +kernel)
    exact spoilt malformed _ (by decide +kernel) (by decide +kernel)
      (.inr ⟨_, by decide +kernel, unspelled, rfl⟩)
  · have shown : whole.list dir = .ok names := by decide +kernel
    obtain ⟨-, -, -, -, loads, -, -⟩ := loadAll_in_order shown
    refine (loads _).mpr ?_
    rw [ordered]
    have one : parse? (encode "[\"x\"]") = some ⟨"x", 0, []⟩ := spelled _ _ _ (by decide +kernel)
    have two : parse? (encode "\x7b\"cur_act\": 2\x7d") = some ⟨"", 2, []⟩ :=
      spelled _ _ _ (by decide +kernel)
    refine .cons ⟨_, ?_, zero⟩ (.cons ⟨_, ?_, one⟩ (.cons ⟨_, ?_, two⟩ .nil))
    · decide +kernel
    · decide +kernel
    · decide +kernel

end SavedRecord

end SessionHost.Engine
