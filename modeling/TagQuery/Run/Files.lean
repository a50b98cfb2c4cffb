import TagQuery.Dictionary
import TagQuery.Text.Blank

/-!
# Files

What a run asks of the place where it finds files: whether a name is that of a file, to open a file
for reading, to read what it holds, and to create one. A name can be opened without being readable,
since directories can.

A `Directory` is such a place in memory. It holds files by their paths from the directory, which may
lie in further directories or above the directory. A name leads step by step through directories
that are there, up with `..` and to the directory itself with `.`, so only its last part may be that
of a file. Above the directory, and from the root on, nothing is known but what has been created
there and the null device, which holds nothing and swallows what is written to it.
-/

namespace TagQuery

/-- What a run asks of the place where it finds files. -/
structure FileAccess (m : Type → Type) where
  /-- Whether a name is that of a file. -/
  isFile : String → m Bool
  /-- Whether a file or directory can be opened for reading. -/
  canOpen : String → m Bool
  /-- The text of a file, unless it cannot be read. -/
  read? : String → m (Option String)
  /-- Creates a file, or empties it, unless that is impossible. -/
  create : String → m Bool
  /-- Adds a text to the end of a file that has been created. -/
  append : String → String → m Unit

/-! ## Names -/

namespace FileName

/-- The parts of a name, which slashes separate. -/
def parts (name : String) : List String := (Text.splitAt (· == '/') name.toList).map String.ofList

/-- Whether a part of a name leads nowhere else. -/
def isIdle (part : String) : Bool := part == "" || part == "."

/-- How many bytes a part of a name may have. -/
def maxPartSize : Nat := 255

/-- How many bytes a name has to stay below. -/
def maxSize : Nat := 4096

/-- Whether a file can have a name at all. -/
def isUsable (name : String) : Bool :=
  name != "" && !name.toList.contains '\x00' && name.utf8ByteSize < maxSize &&
    (parts name).all (·.utf8ByteSize ≤ maxPartSize)

end FileName

/-! ## Places -/

/-- A place among directories and files: so many levels above a directory, or the root, and the
names that lead down from there. -/
structure Place where
  /-- The levels above the directory; nothing for the root. -/
  levels : Option Nat
  names : List String
  deriving DecidableEq, Repr

namespace Place

/-- The directory itself. -/
def here : Place := ⟨some 0, []⟩

/-- The root of all directories. -/
def root : Place := ⟨none, []⟩

/-- The null device. -/
def nullDevice : Place := ⟨none, ["dev", "null"]⟩

/-- The place that a part of a name leads to. -/
def step (p : Place) (part : String) : Place :=
  if FileName.isIdle part then p
  else if part = ".." then
    if p.names.isEmpty then { p with levels := p.levels.map (· + 1) }
    else { p with names := p.names.dropLast }
  else { p with names := p.names ++ [part] }

/-- The name under which the file at a place is kept. -/
def key (p : Place) : String :=
  match p.levels with
  | some n => "/".intercalate (List.replicate n ".." ++ p.names)
  | none => "/" ++ "/".intercalate p.names

end Place

/-! ## Directories in memory -/

/-- Files in memory, by the keys of their places. -/
structure Directory where
  files : Dictionary String

namespace Directory

/-- Whether a place is that of a directory: some file lies below it, or the null device does, or
every directory lies below it. -/
def hasDirectory (d : Directory) (p : Place) : Bool :=
  p.names.isEmpty || p = ⟨none, ["dev"]⟩ || d.files.keys.any (p.key ++ "/").isPrefixOf

/-- The place that the parts of a name lead to, each of them from a directory. -/
def walk? (d : Directory) : Place → List String → Option Place
  | p, [] => some p
  | p, part :: parts => if d.hasDirectory p then d.walk? (p.step part) parts else none

/-- The place that a name leads to. -/
def place? (d : Directory) (name : String) : Option Place :=
  if !FileName.isUsable name then none
  else d.walk? (if name.toList.head? = some '/' then .root else .here) (FileName.parts name)

/-- A directory that holds the given files. -/
def ofFiles (files : Dictionary String) : Directory :=
  ⟨.ofList <| files.entries.map fun (name, text) ↦
    (((FileName.parts name).foldl Place.step .here).key, text)⟩

/-- The key of the file that goes by some name. -/
def file? (d : Directory) (name : String) : Option String :=
  (d.place? name).bind fun p ↦ if d.files.contains p.key then some p.key else none

/-- Whether a name is that of a directory. -/
def isDirectory (d : Directory) (name : String) : Bool := (d.place? name).any d.hasDirectory

/-- Whether a name is that of the null device. -/
def isNullDevice (d : Directory) (name : String) : Bool := d.place? name = some .nullDevice

/-- The text of a file. -/
def read? (d : Directory) (name : String) : Option String :=
  if d.isNullDevice name then some "" else (d.file? name).bind d.files.get?

/-- A directory with one more file, or with a file emptied, unless the place is that of a
directory. -/
def create? (d : Directory) (name : String) : Option Directory := do
  let p ← d.place? name
  if p = .nullDevice then return d
  else if d.hasDirectory p then none
  else return ⟨d.files.insert p.key ""⟩

/-- A directory with a text added to the end of a file. -/
def append (d : Directory) (name text : String) : Directory :=
  match d.file? name with
  | some kept => ⟨d.files.insert kept ((d.files.get? kept).getD "" ++ text)⟩
  | none => d

/-- Access to the files of a directory in memory. -/
def access : FileAccess (StateM Directory) where
  isFile name := do return ((← get).file? name).isSome
  canOpen name := do
    let d ← get
    return (d.file? name).isSome || d.isDirectory name || d.isNullDevice name
  read? name := do return (← get).read? name
  create name := do
    match (← get).create? name with
    | some d => set d; return true
    | none => return false
  append name text := modify (·.append name text)

end Directory

end TagQuery
