import FriendGraph.Batch
import FriendGraph.Storage.Disk
import FriendGraph.Storage.Location

/-! # Opening storage

Opening makes the directories above a configured file, checks the limit on bind parameters,
reads the connection URL, opens or creates the database and creates the schema, in this order;
the first step that fails decides the error, and what the steps before it have made stays.
-/

namespace FriendGraph

/-- The kinds of storage. -/
inductive StorageKind where
  | sqlite
deriving DecidableEq

/-- The name of a kind of storage. -/
def StorageKind.text : StorageKind → String
  | sqlite => "sqlite"

/-- The settings of storage. -/
structure StorageSettings where
  kind : StorageKind
  /-- The path of the database file, or `:memory:`. -/
  path : String
  /-- The limit on bind parameters in one statement. -/
  maxBindParams : Nat
deriving DecidableEq

/-- The settings where nothing is said. -/
def StorageSettings.standard : StorageSettings := ⟨.sqlite, "data/socialgraph.db", 999⟩

/-- Opened storage. -/
structure Storage where
  budget : Budget
  database : Database
  /-- The path under which the database is kept. -/
  kept : Option Path

namespace Storage

/-- The most bytes in the path of a database when it is written from the root. -/
def longestPath : Nat := 504

/-- The disk with the directories above the configured file. -/
def makeParent (working : Path) (path : String) (disk : Disk) : Except StorageError Disk :=
  let above := (Path.names path).dropLast
  if path = Location.memoryPath then .ok disk
  else if Path.longestText < Path.size above then .error .directory
  else
    match disk.makeDirectories? (Path.origin working path) above with
    | some grown => .ok grown
    | none => .error .directory

/-- Whether the file of a database can lie under a path. -/
def canHold (path : Path) : Bool := path.size ≤ longestPath && path.all Path.isName

/-- The disk after the file at a location was looked for, which is made if it may be. -/
def look (working : Path) (location : Location) (disk : Disk) : Disk :=
  match location with
  | .memory => disk
  | .file name access =>
    let path := Path.ofText working name
    if access.mayCreate ∧ canHold path then disk.touch path else disk

/-- The database at a location, with its schema. -/
def openAt (working : Path) (budget : Budget) (location : Location) (disk : Disk) :
    Except StorageError Storage :=
  match location with
  | .memory => .ok ⟨budget, Database.blank.create, none⟩
  | .file name access =>
    let path := Path.ofText working name
    match disk.database? path with
    | some database =>
      if access.mayWrite then .ok ⟨budget, database.create, some path⟩
      else .error (.database .cannotOpen)
    | none => .error (.database .cannotOpen)

/-- The disk with the database of opened storage. -/
def keep (storage : Storage) (disk : Disk) : Disk :=
  match storage.kept with
  | some path => disk.put path (.database storage.database)
  | none => disk

/-- Open storage as it is configured: the storage, and the disk afterwards. -/
def openOn (working : Path) (settings : StorageSettings) (disk : Disk) :
    Except StorageError Storage × Disk :=
  match makeParent working settings.path disk with
  | .error error => (.error error, disk)
  | .ok prepared =>
    if settings.maxBindParams = 0 then (.error .noBindParameters, prepared)
    else
      match Location.ofUrl? (Location.url settings.path) with
      | none => (.error (.database .badAddress), prepared)
      | some location =>
        let looked := look working location prepared
        match openAt working (Budget.ofSetting settings.maxBindParams) location looked with
        | .error error => (.error error, looked)
        | .ok storage => (.ok storage, storage.keep looked)

end Storage

end FriendGraph
