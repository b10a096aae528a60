import FriendGraph.Migration
import FriendGraph.Storage.Image

/-! # The command line

The program migrates once and exits with the code of the migration. Its argument names a
settings file. The files that a migration may look at are read beforehand, and what it has made
is written out afterwards; the migration itself is `Migration.run`.
-/

namespace FriendGraph

/-- What lies under a path, if anything can be found there. -/
def readNode (path : Path) : IO (Option Node) := do
  try
    let text ← IO.FS.readFile ("/" ++ "/".intercalate path)
    match Database.ofImage? text with
    | some database => return some (.database database)
    | none => return some (.file text)
  catch
    | .noFileOrDirectory .. => return none
    | _ => return some .directory

/-- A disk with what lies under a path, if the disk has a directory above it. -/
def lookAt (disk : Disk) (path : Path) : IO Disk := do
  if let some .directory := disk.node? path.dropLast then
    if let some node ← readNode path then
      return disk.put path node
  return disk

/-- A disk with what lies on the way to a written path, from the root on. -/
def lookUp (working : Path) (disk : Disk) (written : String) : IO Disk := do
  let above (path : Path) : List Path :=
    (List.range path.length).map fun index => path.take (index + 1)
  ((working :: Path.stops working written).flatMap above).foldlM lookAt disk

/-- Put what lies on a disk under its paths, directories before what is in them. -/
def writeOut (disk : Disk) : IO Unit :=
  disk.nodes.reverse.forM fun (path, node) => do
    let name := "/" ++ "/".intercalate path
    match node with
    | .directory => IO.FS.createDirAll name
    | .database database => IO.FS.writeFile name database.image
    | .file text => if text.isEmpty then IO.FS.writeFile name text

/-- The variables of the environment. -/
def readEnvironment : IO (List (String × String)) := do
  let written ← IO.FS.readFile "/proc/self/environ"
  let entries := (written.toList.splitOn '\x00').filter (!·.isEmpty)
  return entries.map fun entry =>
    (String.ofList (entry.takeWhile (· != '=')),
      String.ofList ((entry.dropWhile (· != '=')).drop 1))

/-- The names under which settings files are looked for. -/
def settingsNames (migration : Migration) : List String :=
  let named := [some Sources.standardFile, migration.argument,
    migration.environment.lookup Sources.fileVariable]
  named.reduceOption.flatMap fun name =>
    name :: (Sources.endings.map (Path.withEnding? name)).reduceOption

/-- The names of the files that opening storage looks at. -/
def storageNames (settings : StorageSettings) : List String :=
  match Location.ofUrl? (Location.url settings.path) with
  | some (.file name _) => [settings.path, name]
  | _ => [settings.path]

/-- Migrate on the files of this machine. -/
def migrate (migration : Migration) : IO UInt32 := do
  let disk ← (settingsNames migration).foldlM (lookUp migration.working) Disk.empty
  let disk ←
    match Settings.load (migration.sources disk) with
    | .ok settings => (storageNames settings.storage).foldlM (lookUp migration.working) disk
    | .error _ => pure disk
  let (outcome, after) := migration.run disk
  writeOut after
  if let .error error := outcome then
    IO.eprintln ("Error: " ++ error.message)
  return (Migration.exitCode outcome).toUInt32

end FriendGraph

/-- Migrate with the settings file that the first argument names. -/
def main (arguments : List String) : IO UInt32 := do
  let working ← IO.currentDir
  FriendGraph.migrate
    ⟨FriendGraph.Path.ofText [] working.toString, arguments.head?, ← FriendGraph.readEnvironment⟩
