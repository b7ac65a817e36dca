/-!
# Files

What the library has to know of a file system: whether a path can be opened for writing, and why
not. Contents of files are byte strings of the modules that write them.

- `Disk.Error`: why the system refuses;
- `Disk.Target`: what an opened path leads to;
- `Disk.Opener`: what opening a path comes to;
- `Disk.Layout`, `Disk.Layout.openForWriting`: a tree of directories and files, and how a path is
  followed through it.
-/

namespace ToneLink.Disk

/-- Why the system refuses to open or to write. -/
inductive Error
  | notFound
  | notADirectory
  | isDirectory
  | noSpace
  | nameTooLong
  deriving DecidableEq, Repr

namespace Error

/-- The system's number for the reason. -/
def code : Error → Nat
  | .notFound => 2
  | .notADirectory => 20
  | .isDirectory => 21
  | .noSpace => 28
  | .nameTooLong => 36

/-- The reason in words. -/
def reason : Error → String
  | .notFound => "No such file or directory"
  | .notADirectory => "Not a directory"
  | .isDirectory => "Is a directory"
  | .noSpace => "No space left on device"
  | .nameTooLong => "File name too long"

/-- What the system reports. -/
def message (e : Error) : String := e.reason ++ s!" (os error {e.code})"

/-- The reason that a number stands for. -/
def ofCode? (code : Nat) : Option Error :=
  [.notFound, .notADirectory, .isDirectory, .noSpace, .nameTooLong].find? (·.code = code)

end Error

/-- What an opened path leads to. -/
inductive Target
  /-- A file that takes whatever is written. -/
  | file
  /-- A device on which every write fails that reaches it. -/
  | fullDevice
  deriving DecidableEq, Repr

/-- Bytes that are held back in memory before they are written. -/
def writeBuffer : Nat := 8192

/-- What opening a path for writing comes to, if the file is created where there is none. -/
abbrev Opener := String → Except Error Target

/-- What stands at a place of a file system. -/
inductive Node
  | directory
  | target (t : Target)
  deriving DecidableEq, Repr

/-- A place of a file system: the names that lead to it from the root. -/
abbrev Place := List String

/-- A file system: what stands in it besides the root, and where paths start that do not start at
the root. -/
structure Layout where
  nodes : List (Place × Node)
  workingDirectory : Place := []

/-- Most bytes of one name. -/
def nameLimit : Nat := 255

/-- Bytes of a path that is too long. -/
def pathLimit : Nat := 4096

namespace Layout

variable (disk : Layout)

/-- What stands at a place. -/
def node? (place : Place) : Option Node :=
  if place.isEmpty then some .directory else disk.nodes.lookup place

/-- What a name leads to from a place, whether or not something stands there. -/
def child (place : Place) (name : String) : Except Error Place :=
  if disk.node? place ≠ some .directory then .error .notADirectory
  else if name = "." then .ok place
  else if name = ".." then .ok place.dropLast
  else if nameLimit < name.utf8ByteSize then .error .nameTooLong
  else .ok (place ++ [name])

/-- Follows a name from a place to something that stands there. -/
def enter (place : Place) (name : String) : Except Error Place := do
  let next ← disk.child place name
  if (disk.node? next).isNone then throw .notFound
  return next

/-- Opens a path for writing. All names but the last lead through directories; the last one may be
new, unless a slash after it asks for a directory. -/
def openForWriting : Opener := fun path => do
  if path.isEmpty then throw .notFound
  if pathLimit ≤ path.utf8ByteSize then throw .nameTooLong
  let start := if path.startsWith "/" then [] else disk.workingDirectory
  let names := (path.splitOn "/").filter (· ≠ "")
  let parent ← names.dropLast.foldlM disk.enter start
  if disk.node? parent ≠ some .directory then throw .notADirectory
  match names.getLast? with
  | none => throw .isDirectory
  | some name =>
    if path.endsWith "/" then throw .isDirectory
    match disk.node? (← disk.child parent name) with
    | none => return .file
    | some .directory => throw .isDirectory
    | some (.target t) => return t

end Layout

end ToneLink.Disk
