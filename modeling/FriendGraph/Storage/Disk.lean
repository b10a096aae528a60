import FriendGraph.Database

/-! # Files

As much of a file system as settings and storage need: directories, plain files and databases
under their paths. A path is a list of names from the root; a relative one starts at a working
directory. A file is found only through directories that are there (`Disk.walk?`). Making a
directory makes the directories above it too and fails where a file is in the way or a name is
too long.
-/

namespace FriendGraph

/-- The names on the way from the root. -/
abbrev Path := List String

namespace Path

/-- The most bytes in a name. -/
def longestName : Nat := 255

/-- The most bytes in a written path. -/
def longestText : Nat := 4095

/-- Whether something can have a name: it is not too long and holds no NUL character. -/
def isName (name : String) : Bool :=
  name.utf8ByteSize ≤ longestName && !name.toList.contains '\x00'

/-- What stands between the slashes of a written path. -/
def pieces (text : String) : List String := (text.toList.splitOn '/').map String.ofList

/-- Whether a piece of a written path stays where it is. -/
def isEmptyPiece (piece : String) : Bool := piece == "" || piece == "."

/-- The names in a written path. -/
def names (text : String) : List String := (pieces text).filter (!isEmptyPiece ·)

/-- The path that one more name leads to; two dots lead one level up. -/
def step (path : Path) (name : String) : Path :=
  if name = ".." then path.dropLast else path ++ [name]

/-- A path followed by further names. -/
def follow (start : Path) (names : List String) : Path := names.foldl step start

/-- Where a written path starts: at the root or at the working directory. -/
def origin (working : Path) (text : String) : Path :=
  if text.toList.head? = some '/' then [] else working

/-- The path that a written path stands for. -/
def ofText (working : Path) (text : String) : Path := (origin working text).follow (names text)

/-- The paths on the way to the one that a written path stands for, which is the last one. -/
def stops (working : Path) (text : String) : List Path :=
  (List.range (names text).length).map fun index =>
    (origin working text).follow ((names text).take (index + 1))

/-- The number of bytes in a path when it is written from the root. -/
def size (path : Path) : Nat := path.foldl (fun total name => total + 1 + name.utf8ByteSize) 0

/-- A written path with an ending after its last name; none without a name to put it after. -/
def withEnding? (text ending : String) : Option String :=
  match (pieces text).reverse.dropWhile isEmptyPiece with
  | [] | ".." :: _ => none
  | last :: before => some ("/".intercalate ((last ++ ending) :: before).reverse)

end Path

/-- What lies under a path. -/
inductive Node where
  | directory
  | file (text : String)
  | database (database : Database)

/-- The start of the file of a database when it is read as a text. -/
def databaseMark : String := "SQLite format 3\x00"

/-- Everything that lies somewhere, by path. The root is always a directory. -/
structure Disk where
  nodes : List (Path × Node)

namespace Disk

/-- A disk with nothing on it. -/
def empty : Disk := ⟨[]⟩

/-- What lies under a path. -/
def node? (path : Path) (disk : Disk) : Option Node :=
  if path.isEmpty then some .directory else disk.nodes.lookup path

/-- Whether a directory lies under a path. -/
def isDirectory (path : Path) (disk : Disk) : Bool :=
  match disk.node? path with
  | some .directory => true
  | _ => false

/-- The path that the pieces of a written path lead to, if each one starts from a directory. -/
def walk? (disk : Disk) : Path → List String → Option Path
  | path, [] => some path
  | path, piece :: rest =>
    if !disk.isDirectory path || !Path.isName piece then none
    else walk? disk (if Path.isEmptyPiece piece then path else path.step piece) rest

/-- The text of the file that a written path leads to. -/
def text? (working : Path) (written : String) (disk : Disk) : Option String := do
  let path ← disk.walk? (Path.origin working written) (Path.pieces written)
  match ← disk.node? path with
  | .directory => none
  | .file text => some text
  | .database _ => some databaseMark

/-- The disk with something put under a path. -/
def put (path : Path) (node : Node) (disk : Disk) : Disk :=
  ⟨(path, node) :: disk.nodes.filter (·.1 ≠ path)⟩

/-- The disk with a directory under a path, unless something else lies there. -/
def makeDirectory? (path : Path) (disk : Disk) : Option Disk :=
  match disk.node? path with
  | none => some (disk.put path .directory)
  | some .directory => some disk
  | some _ => none

/-- The disk with a directory everywhere that names lead to from a path. -/
def makeDirectories? : Path → List String → Disk → Option Disk
  | _, [], disk => some disk
  | path, name :: rest, disk =>
    if !Path.isName name then none
    else do makeDirectories? (path.step name) rest (← disk.makeDirectory? (path.step name))

/-- The disk with an empty file under a path, unless something lies there or there is no directory
for it. -/
def touch (path : Path) (disk : Disk) : Disk :=
  match disk.node? path with
  | none => if disk.isDirectory path.dropLast then disk.put path (.file "") else disk
  | some _ => disk

/-- The database that a file holds; an empty file holds a blank one. -/
def database? (path : Path) (disk : Disk) : Option Database :=
  match disk.node? path with
  | some (.file text) => if text.isEmpty then some .blank else none
  | some (.database database) => some database
  | _ => none

end Disk

end FriendGraph
