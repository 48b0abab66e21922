import SessionHost.Text.Utf8

/-!
Paths as they are written: bytes with slashes between the segments.

Nothing here looks at files. `join` and `parent?` work on the written form: empty segments and
segments of one dot do not count as parts of a path, except for a dot at its very start.
-/

namespace SessionHost

/-- A path in its written form. -/
structure Path where
  bytes : Bytes
deriving DecidableEq, Repr

namespace Path

def slash : UInt8 := 0x2F

def dot : UInt8 := 0x2E

/-- The path written as the given text. -/
def ofText (text : String) : Path := ⟨Text.encode text⟩

/-- The path as a message shows it. -/
def display (path : Path) : String := Text.lossy path.bytes

def isAbsolute (path : Path) : Bool := path.bytes.head? = some slash

/-- The segments between the slashes, empty ones included. -/
def segments (path : Path) : List Bytes := path.bytes.splitOn slash

/-- `other` as seen from `base`: an absolute path stands for itself, any other is appended. -/
def join (base other : Path) : Path :=
  if other.isAbsolute then other
  else if base.bytes.isEmpty || base.bytes.getLast? = some slash then
    ⟨base.bytes ++ other.bytes⟩
  else ⟨base.bytes ++ slash :: other.bytes⟩

/-- `join` with a text. -/
def child (base : Path) (name : String) : Path := base.join (ofText name)

/-- A segment that adds nothing to the path it stands in. -/
def isIdle (segment : Bytes) : Bool := segment.isEmpty || segment = [dot]

/-- The segments without the idle ones at the end. -/
def trimIdle (parts : List Bytes) : List Bytes := (parts.reverse.dropWhile isIdle).reverse

/-- The part of a path that `parent?` keeps whatever follows it: the slash of an absolute path, or
a dot that stands as the first segment. -/
def anchor (path : Path) : Bytes :=
  match path.bytes with
  | a :: rest =>
      if a = slash then [a]
      else if a = dot && (rest.isEmpty || rest.head? = some slash) then [a]
      else []
  | [] => []

/-- The path without its last part, or `none` if it has no part. -/
def parent? (path : Path) : Option Path :=
  let start := path.anchor
  let parts := trimIdle ((path.bytes.drop start.length).splitOn slash)
  match parts with
  | [] => if start = [dot] then some ⟨[]⟩ else none
  | _ :: _ => some ⟨start ++ List.intercalate [slash] (trimIdle parts.dropLast)⟩

/-- The path and all above it, each followed by its parent. -/
def lineage (path : Path) : List Path :=
  go path.bytes.length path
where
  go : Nat → Path → List Path
    | 0, path => [path]
    | fuel + 1, path =>
        match path.parent? with
        | none => [path]
        | some parent => path :: go fuel parent

/-! ### Names of files -/

/-- The stem and the extension of a file name: what stands before and after its last dot. A name
without a dot, or with its only dot in front, has no extension. -/
def splitName (name : Bytes) : Bytes × Option Bytes :=
  let reversed := name.reverse
  let after := (reversed.takeWhile (· != dot)).reverse
  let before := (reversed.drop (after.length + 1)).reverse
  if before.isEmpty then (name, none) else (before, some after)

def extension? (name : Bytes) : Option Bytes := (splitName name).2

def stem (name : Bytes) : Bytes := (splitName name).1

end Path

end SessionHost
