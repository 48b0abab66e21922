import SessionHost.Proofs.FileSystem.Skeleton

/-!
What a path leads to below another.

A name that is joined to a path can be a path of its own. `Path.descent?` follows it without looking
at files, from wherever it is seen, and gives up where it would leave that place.
`aim_join_of_descent?` says that the joined path leads that far below. `refill` puts other contents
into the files of a tree, and `read_refill` is all that shows of that.
-/

namespace SessionHost

/-! ### Names and descents -/

namespace Path

/-- Bytes that can name something in a directory: one segment, and none that stays or goes up. -/
def IsName (bytes : Bytes) : Prop := slash ∉ bytes ∧ FileSystem.namesExisting bytes = false

instance (bytes : Bytes) : Decidable (IsName bytes) :=
  inferInstanceAs (Decidable (_ ∧ _))

/-- One segment further below a place, or `none` if the segment leads out of it. -/
def descend (below : List Bytes) (segment : Bytes) : Option (List Bytes) :=
  if isIdle segment then some below
  else if segment = [dot, dot] then
    if below = [] then none else some below.dropLast
  else some (below ++ [segment])

/-- The names that a path leads down from wherever it is seen, or `none` if it is absolute or leaves
the place on its way. -/
def descent? (path : Path) : Option (List Bytes) :=
  if path.isAbsolute then none else path.segments.foldlM descend []

theorem isAbsolute_of_notMem {bytes : Bytes} (whole : slash ∉ bytes) :
    isAbsolute ⟨bytes⟩ = false := by
  rw [isAbsolute, decide_eq_false_iff_not]
  exact fun first => whole (List.mem_of_mem_head? first)

/-- A name leads down to itself. -/
theorem IsName.descent?_eq {bytes : Bytes} (name : IsName bytes) :
    descent? ⟨bytes⟩ = some [bytes] := by
  obtain ⟨whole, fresh⟩ := name
  rw [FileSystem.namesExisting, Bool.or_eq_false_iff, decide_eq_false_iff_not] at fresh
  rw [descent?, isAbsolute_of_notMem whole, if_neg Bool.false_ne_true, segments,
    FileSystem.splitOn_of_notMem whole]
  simp [descend, fresh]

end Path

namespace FileSystem

variable {fs : FileSystem} {base other : Path}

/-- The joined path leads where the other one leads as seen from the base. -/
theorem aim_join (fs : FileSystem) (base other : Path) :
    fs.aim (base.join other)
      = other.segments.foldl follow (if other.isAbsolute then [] else fs.aim base) := by
  cases absolute : other.isAbsolute with
  | true => simp [Path.join, aim, origin, absolute]
  | false =>
      -- A slash at the end of the base gives it one more segment, which stays where it is.
      have joined (before : Bytes) :
          fs.aim ⟨before ++ Path.slash :: other.bytes⟩
            = other.segments.foldl follow (fs.aim ⟨before ++ [Path.slash]⟩) := by
        have start : fs.origin ⟨before ++ Path.slash :: other.bytes⟩
            = fs.origin ⟨before ++ [Path.slash]⟩ := by
          cases before <;> rfl
        rw [aim, aim, Path.segments, Path.segments, splitOn_append_slash, splitOn_append_slash,
          List.foldl_append, List.foldl_append, start]
        rfl
      have slashed (before : Bytes) (filled : before ≠ []) :
          fs.aim ⟨before ++ [Path.slash]⟩ = fs.aim ⟨before⟩ := by
        have start : fs.origin ⟨before ++ [Path.slash]⟩ = fs.origin ⟨before⟩ := by
          cases before with
          | nil => exact absurd rfl filled
          | cons byte rest => rfl
        rw [aim, aim, Path.segments, Path.segments, splitOn_append_slash, List.foldl_append, start]
        rfl
      obtain ⟨bytes⟩ := base
      simp only [Path.join, absolute, Bool.false_eq_true, if_false]
      rcases List.eq_nil_or_concat bytes with rfl | ⟨init, last, rfl⟩
      · have start : fs.origin other = fs.cwd := by
          rw [origin, absolute]
          rfl
        simp only [List.isEmpty_nil, Bool.true_or, if_true, List.nil_append]
        rw [aim, start]
        rfl
      · rw [List.concat_eq_append]
        by_cases slash : last = Path.slash
        · subst slash
          simp only [List.getLast?_concat, decide_true, Bool.or_true, if_true, List.append_assoc,
            List.singleton_append]
          exact joined init
        · have ends : ((init ++ [last]).isEmpty
              || decide ((init ++ [last]).getLast? = some Path.slash)) = false := by
            simp [slash]
          rw [ends, if_neg Bool.false_ne_true, joined, slashed _ (by simp)]

/-- Following a path from below a place comes out as far below as the descent says. -/
theorem foldl_follow_of_descend {here : Location} {below last : List Bytes} {segments : List Bytes}
    (descends : segments.foldlM Path.descend below = some last) :
    segments.foldl follow (here ++ below) = here ++ last := by
  induction segments generalizing below with
  | nil =>
      obtain rfl := Option.some.inj descends
      rfl
  | cons segment rest ih =>
      obtain ⟨next, step, descends⟩ := Option.bind_eq_some_iff.mp descends
      have goes : follow (here ++ below) segment = here ++ next := by
        unfold Path.descend at step
        unfold follow
        split at step
        · rename_i idle
          obtain rfl := Option.some.inj step
          rw [if_pos idle]
        · rename_i counts
          rw [if_neg counts]
          split at step
          · rename_i up
            rw [if_pos up]
            split at step
            · cases step
            · rename_i filled
              obtain rfl := Option.some.inj step
              exact List.dropLast_append_of_ne_nil filled
          · rename_i down
            obtain rfl := Option.some.inj step
            rw [if_neg down, List.append_assoc]
      rw [List.foldl_cons, goes]
      exact ih descends

/-- **A path that stays below leads below** whatever it is joined to, as far as its descent. -/
theorem aim_join_of_descent? {below : List Bytes} (descends : other.descent? = some below) :
    fs.aim (base.join other) = fs.aim base ++ below := by
  unfold Path.descent? at descends
  split at descends
  · cases descends
  · rename_i relative
    rw [aim_join, if_neg relative, ← foldl_follow_of_descend descends, List.append_nil]

/-- A path leads to something directly below where the other leads. -/
def DirectlyBelow (fs : FileSystem) (dir path : Path) : Prop :=
  ∃ name, fs.aim path = fs.aim dir ++ [name]

/-- It does if one more name leads on from the other. -/
theorem directlyBelow_iff_dropLast {dir path : Path} :
    fs.DirectlyBelow dir path ↔ fs.aim path ≠ [] ∧ (fs.aim path).dropLast = fs.aim dir := by
  constructor
  · rintro ⟨name, leads⟩
    rw [leads]
    simp
  · rintro ⟨below, above⟩
    exact ⟨(fs.aim path).getLast below, by rw [← above, List.dropLast_concat_getLast below]⟩

instance (fs : FileSystem) (dir path : Path) : Decidable (fs.DirectlyBelow dir path) :=
  decidable_of_iff' _ directlyBelow_iff_dropLast

/-- A path that stays below is directly below if it leads down by one name. -/
theorem directlyBelow_join_iff {below : List Bytes} (descends : other.descent? = some below) :
    fs.DirectlyBelow base (base.join other) ↔ below.length = 1 := by
  rw [DirectlyBelow, aim_join_of_descent? descends, List.length_eq_one_iff]
  simp only [List.append_cancel_left_eq]

/-- What has a name in a directory is directly below it. -/
theorem directlyBelow_join_of_isName {name : Bytes} (isName : Path.IsName name) :
    fs.DirectlyBelow base (base.join ⟨name⟩) :=
  (directlyBelow_join_iff isName.descent?_eq).mpr rfl

/-! ### Names in a tree -/

/-- What stands in the tree stands under names. -/
def NamesPlain (fs : FileSystem) : Prop :=
  ∀ entry ∈ fs.nodes, ∀ name ∈ entry.1, Path.IsName name

instance (fs : FileSystem) : Decidable fs.NamesPlain :=
  inferInstanceAs (Decidable (∀ entry ∈ fs.nodes, ∀ name ∈ entry.1, Path.IsName name))

/-- What a directory shows are names. -/
theorem NamesPlain.isName_of_list (plain : fs.NamesPlain) {path : Path} {names : List Bytes}
    (listed : fs.list path = .ok names) {name : Bytes} (shown : name ∈ names) :
    Path.IsName name := by
  obtain ⟨-, -, rfl⟩ := list_eq_ok_iff.mp listed
  rw [namesBelow_eq, List.mem_filterMap] at shown
  obtain ⟨location, stands, below⟩ := shown
  obtain rfl := nameBelow?_eq_some_iff.mp below
  obtain ⟨entry, member, here⟩ := List.mem_map.mp stands
  exact plain entry member name (here ▸ by simp)

end FileSystem

/-! ### Other contents -/

/-- The node with the content, if it is a file. -/
def Node.refill (content : Bytes) : Node → Node
  | file _ => file content
  | directory => directory

namespace FileSystem

/-- The same tree with other contents in its files. -/
def refill (fs : FileSystem) (contents : Location → Bytes) : FileSystem :=
  { fs with
    nodes := fs.nodes.map fun entry => (entry.1, entry.2.refill (contents entry.1))
    nodup := by simpa [List.map_map, Function.comp_def] using fs.nodup }

section

variable (fs : FileSystem) (contents : Location → Bytes)

theorem node?_refill (place : Location) :
    (fs.refill contents).node? place = (fs.node? place).map (Node.refill (contents place)) := by
  have looked (nodes : List (Location × Node)) :
      (nodes.map fun entry => (entry.1, entry.2.refill (contents entry.1))).lookup place
        = (nodes.lookup place).map (Node.refill (contents place)) := by
    induction nodes with
    | nil => rfl
    | cons entry rest ih =>
        obtain ⟨here, node⟩ := entry
        rw [List.map_cons, lookup_cons_eq, lookup_cons_eq, ih]
        split
        · rename_i same
          rw [same]
          rfl
        · rfl
  unfold node? refill
  split
  · rfl
  · exact looked fs.nodes

/-- Paths lead where they led, and fail as they failed. -/
theorem locate_refill (path : Path) : (fs.refill contents).locate path = fs.locate path := by
  have required (place : Location) :
      (fs.refill contents).requireDirectory place = fs.requireDirectory place := by
    unfold requireDirectory
    rw [node?_refill]
    cases fs.node? place with
    | none => rfl
    | some node => cases node <;> rfl
  have entered : (fs.refill contents).enter = fs.enter := by
    funext here segment
    rw [enter, enter, required]
  rw [locate, locate, walk, walk, entered]
  rfl

theorem find_refill (path : Path) :
    (fs.refill contents).find path
      = (fs.find path).map fun found => (found.1, found.2.refill (contents found.1)) := by
  rw [find, find, locate_refill]
  cases fs.locate path with
  | error error => rfl
  | ok place =>
      simp only [bind, Except.bind, node?_refill]
      cases fs.node? place <;> rfl

/-- A file reads as what was put into it. -/
theorem read_refill (path : Path) :
    (fs.refill contents).read path = (fs.read path).map fun _ => contents (fs.aim path) := by
  rw [read, read, find_refill]
  cases found : fs.find path with
  | error error => rfl
  | ok result =>
      obtain ⟨place, node⟩ := result
      obtain rfl := eq_aim_of_locate (find_eq_ok_iff.mp found).1
      cases node <;> rfl

/-- The contents are those of the files at some paths. -/
def ReadsAs (paths : List Path) : Prop :=
  ∀ path ∈ paths, ∀ content, fs.read path = .ok content → contents (fs.aim path) = content

/-- A file reads the same if it was given what it had. -/
theorem read_refill_eq {paths : List Path} (same : fs.ReadsAs contents paths) {path : Path}
    (member : path ∈ paths) : (fs.refill contents).read path = fs.read path := by
  rw [read_refill]
  cases read : fs.read path with
  | error error => rfl
  | ok content => rw [Except.map, same path member content read]

theorem isFile_refill (path : Path) : (fs.refill contents).isFile path = fs.isFile path := by
  rw [isFile, isFile, find_refill]
  cases fs.find path with
  | error error => rfl
  | ok result =>
      obtain ⟨place, node⟩ := result
      cases node <;> rfl

/-- Directories show the same names in the same order. -/
theorem list_refill (path : Path) : (fs.refill contents).list path = fs.list path := by
  have shown (place : Location) :
      (fs.refill contents).namesBelow place = fs.namesBelow place := by
    rw [namesBelow_eq, namesBelow_eq, refill, List.map_map]
    rfl
  rw [list, list, find_refill]
  cases fs.find path with
  | error error => rfl
  | ok result =>
      obtain ⟨place, node⟩ := result
      cases node with
      | file content => rfl
      | directory => exact congrArg Except.ok (shown place)

end

end FileSystem

end SessionHost
