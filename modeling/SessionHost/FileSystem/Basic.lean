import SessionHost.FileSystem.Error
import SessionHost.Text.Utf8

/-!
A tree of files and directories.

The tree is kept as a table from locations to nodes, so that an operation is described by the
locations whose node it changes. Main statements: `node?_put` and `node?_erase`.

The tree has no links, no devices and no owners. What a system refuses because of rights, a full
disk or a broken one is given with the tree, by place: a file may not be opened for writing, may not
be removed, or may take only the beginning of what is written to it (`Refusals`). Nothing else is
refused for such reasons: what stands in the tree can be read, a directory that exists takes new
directories, and a file that was opened to add to it takes all that is added.
-/

namespace SessionHost

/-- The names that lead from the root to a place in the tree. -/
abbrev Location := List Bytes

/-- What stands at a place in the tree. -/
inductive Node where
  | file (content : Bytes)
  | directory
deriving DecidableEq, Repr

/-- What the system refuses at a place for reasons that the tree does not show, and the errors that
it gives then. -/
structure FileSystem.Refusals where
  /-- No file is opened for writing. -/
  opening : Option FileSystem.Error := none
  /-- Nothing is removed. -/
  removing : Option FileSystem.Error := none
  /-- A file that is written anew takes so many bytes and no more. -/
  filling : Option (Nat × FileSystem.Error) := none
deriving DecidableEq, Repr

/-- The files and directories of a system, and the directory that relative paths start from. -/
structure FileSystem where
  cwd : Location
  nodes : List (Location × Node)
  refusals : Location → FileSystem.Refusals := fun _ => {}
  nodup : (nodes.map Prod.fst).Nodup := by decide

namespace FileSystem

/-- A root with nothing in it. -/
def empty : FileSystem where
  cwd := []
  nodes := []

/-- The node at a location. The root is always a directory. -/
def node? (fs : FileSystem) (place : Location) : Option Node :=
  if place = [] then some .directory else fs.nodes.lookup place

/-! ### Changing one place -/

/-- The table with `node` at `place`, which keeps its position if it is there already. -/
def setNode (place : Location) (node : Node) : List (Location × Node) → List (Location × Node)
  | [] => [(place, node)]
  | (p, n) :: rest =>
      if p = place then (p, node) :: rest else (p, n) :: setNode place node rest

theorem lookup_cons_eq {p q : Location} {node : Node} {rest : List (Location × Node)} :
    ((p, node) :: rest).lookup q = if q = p then some node else rest.lookup q := by
  rw [List.lookup_cons]
  by_cases h : q = p
  · subst h
    simp
  · rw [if_neg h, beq_false_of_ne h]

theorem mem_fst_setNode {place q : Location} {node : Node} {nodes : List (Location × Node)} :
    q ∈ (setNode place node nodes).map Prod.fst ↔ q = place ∨ q ∈ nodes.map Prod.fst := by
  induction nodes with
  | nil => simp [setNode]
  | cons entry rest ih =>
    by_cases h : entry.1 = place
    · simp [setNode, h]
    · simp only [setNode, h, if_false, List.map_cons, List.mem_cons, ih]
      grind

theorem nodup_setNode {place : Location} {node : Node} {nodes : List (Location × Node)}
    (h : (nodes.map Prod.fst).Nodup) : ((setNode place node nodes).map Prod.fst).Nodup := by
  induction nodes with
  | nil => simp [setNode]
  | cons entry rest ih =>
    rw [List.map_cons, List.nodup_cons] at h
    by_cases hp : entry.1 = place
    · simpa [setNode, hp] using h
    · simp only [setNode, hp, if_false, List.map_cons, List.nodup_cons, mem_fst_setNode]
      exact ⟨fun hq => h.1 (hq.resolve_left id), ih h.2⟩

theorem lookup_setNode {place q : Location} {node : Node} {nodes : List (Location × Node)} :
    (setNode place node nodes).lookup q
      = if q = place then some node else nodes.lookup q := by
  induction nodes with
  | nil => simp [setNode, lookup_cons_eq]
  | cons entry rest ih =>
    obtain ⟨p, n⟩ := entry
    by_cases hp : p = place
    · subst hp
      by_cases hq : q = p <;> simp [setNode, lookup_cons_eq, hq]
    · by_cases hq : q = p
      · subst hq
        simp [setNode, hp]
      · simp [setNode, lookup_cons_eq, hp, hq, ih]

/-- The tree with a node put at a place. -/
def put (fs : FileSystem) (place : Location) (node : Node) : FileSystem :=
  { fs with
    nodes := setNode place node fs.nodes
    nodup := nodup_setNode fs.nodup }

/-- The tree without a place and all below it. -/
def erase (fs : FileSystem) (place : Location) : FileSystem :=
  { fs with
    nodes := fs.nodes.filter fun entry => !place.isPrefixOf entry.1
    nodup := fs.nodup.sublist (List.filter_sublist.map Prod.fst) }

theorem node?_put {fs : FileSystem} {place q : Location} {node : Node} (h : place ≠ []) :
    (fs.put place node).node? q = if q = place then some node else fs.node? q := by
  unfold node? put
  by_cases hq : q = []
  · subst hq
    simp [Ne.symm h]
  · simp [hq, lookup_setNode]

theorem lookup_filter {place q : Location} {nodes : List (Location × Node)} :
    (nodes.filter fun entry => !place.isPrefixOf entry.1).lookup q
      = if place.isPrefixOf q then none else nodes.lookup q := by
  induction nodes with
  | nil => simp
  | cons entry rest ih =>
    obtain ⟨p, n⟩ := entry
    by_cases hp : place.isPrefixOf p = true <;> by_cases hq : q = p
    · subst hq
      rw [List.filter_cons_of_neg (by simp [hp]), ih]
      simp [hp]
    · rw [List.filter_cons_of_neg (by simp [hp]), ih, lookup_cons_eq, if_neg hq]
    · subst hq
      rw [List.filter_cons_of_pos (by simp [hp]), lookup_cons_eq, lookup_cons_eq]
      simp [hp]
    · rw [List.filter_cons_of_pos (by simp [hp]), lookup_cons_eq, lookup_cons_eq, ih]
      simp [hq]

theorem node?_erase {fs : FileSystem} {place q : Location} (h : q ≠ []) :
    (fs.erase place).node? q = if place.isPrefixOf q then none else fs.node? q := by
  simp only [node?, erase, if_neg h, lookup_filter]

/-- The names directly below a place, in the order of the table. -/
def namesBelow (fs : FileSystem) (place : Location) : List Bytes :=
  fs.nodes.filterMap fun entry =>
    match entry.1.getLast? with
    | some name => if entry.1 = place ++ [name] then some name else none
    | none => none

end FileSystem

end SessionHost
