import FriendGraph.Profile
import FriendGraph.Table

/-! # The database

A database holds three tables: the registered users, the directed edges and the edge counters.
Any of them may be missing; creating the schema adds the missing ones, empty, and leaves the
others as they are (`Database.create_create`).

An `Action` runs against a database and leaves one behind whether it answers or fails, so what
the statements before a failure have written stays written. `Action.atomically` undoes that: a
failing action inside it leaves the database as it was.
-/

namespace FriendGraph

instance : Keyed EdgeRow (StoredId × StoredId) where
  key row := (row.source, row.destination)

instance : Keyed CounterRow StoredId where
  key row := row.owner

/-- The registered users, in the order of registration: no two of them share an identifier, a
handle or an external account. -/
structure Directory where
  rows : List UserRow
  nodup_ids : (rows.map (·.id)).Nodup
  nodup_handles : (rows.map (·.handle)).Nodup
  nodup_externalIds : (rows.filterMap (·.externalId)).Nodup

namespace Directory

/-- The directory without users. -/
def empty : Directory := ⟨[], List.nodup_nil, List.nodup_nil, List.nodup_nil⟩

/-- The directory with one more user, unless the identifier, the handle or the external account is
taken. -/
def register? (row : UserRow) (directory : Directory) : Option Directory :=
  if ids : ((directory.rows ++ [row]).map (·.id)).Nodup then
    if handles : ((directory.rows ++ [row]).map (·.handle)).Nodup then
      if externalIds : ((directory.rows ++ [row]).filterMap (·.externalId)).Nodup then
        some ⟨directory.rows ++ [row], ids, handles, externalIds⟩
      else none
    else none
  else none

/-- The user who has a handle. -/
def withHandle? (handle : String) (directory : Directory) : Option UserRow :=
  directory.rows.find? fun row => row.handle = handle

/-- The user under an identifier. -/
def withId? (id : StoredId) (directory : Directory) : Option UserRow :=
  directory.rows.find? fun row => row.id = id

end Directory

/-- The three tables. -/
inductive TableName where
  | users
  | edges
  | counters
deriving DecidableEq

/-- The name under which a table is stored. -/
def TableName.text : TableName → String
  | users => "users"
  | edges => "user_edge"
  | counters => "user_edge_metadata"

/-- The tables of a database; `none` stands for one that is missing. -/
structure Database where
  users : Option Directory
  edges : Option (Table EdgeRow)
  counters : Option (Table CounterRow)

namespace Database

/-- A database without tables. -/
def blank : Database := ⟨none, none, none⟩

/-- The schema: every missing table is added, empty. -/
def create (database : Database) : Database where
  users := some (database.users.getD .empty)
  edges := some (database.edges.getD .empty)
  counters := some (database.counters.getD .empty)

/-- Creating the schema again changes nothing. -/
@[simp] theorem create_create (database : Database) :
    database.create.create = database.create := rfl

/-- The kinds of schema object. -/
inductive ObjectKind where
  | index
  | table
deriving DecidableEq

/-- The name of a kind of schema object. -/
def ObjectKind.text : ObjectKind → String
  | index => "index"
  | table => "table"

/-- The schema objects in the order of their names; the edges come with an index on source and
position. -/
def objects (database : Database) : List (ObjectKind × String) :=
  (if database.edges.isSome then
    [(.index, "idx_user_edge_source_position"), (.table, TableName.edges.text)] else [])
  ++ (if database.counters.isSome then [(.table, TableName.counters.text)] else [])
  ++ (if database.users.isSome then [(.table, TableName.users.text)] else [])

end Database

/-- What goes wrong in the database itself. -/
inductive DatabaseFault where
  /-- A statement names a table that is missing. -/
  | missingTable (table : TableName)
  /-- An inserted row has a key that is taken. -/
  | takenKey
  /-- The address of the database cannot be read. -/
  | badAddress
  /-- No database can be opened at the address. -/
  | cannotOpen
deriving DecidableEq

/-- The causes of a storage failure. -/
inductive StorageError where
  | database (fault : DatabaseFault)
  /-- A stored identifier is not sixteen bytes long. -/
  | invalidUserId
  /-- A stored state code has no meaning. -/
  | unknownEdgeState (code : Int)
  /-- The limit on bind parameters is zero. -/
  | noBindParameters
  /-- The parent directories of the database cannot be made. -/
  | directory
deriving DecidableEq

/-- The display text of a storage failure, where this library words it. -/
def StorageError.message? : StorageError → Option String
  | database _ => none
  | invalidUserId => none
  | unknownEdgeState code => some ("Unknown edge state code: " ++ toString code)
  | noBindParameters =>
    some "Storage configuration error: max_bind_params must be greater than zero"
  | directory => none

/-- How a transaction ends: what was written in it is kept, or thrown away. -/
inductive TransactionEnd where
  | commit
  | rollback
deriving DecidableEq

namespace TransactionEnd

/-- The end that an outcome calls for: a failure is rolled back. -/
def ofOutcome {Error Answer : Type} : Except Error Answer → TransactionEnd
  | .ok _ => commit
  | .error _ => rollback

/-- The database that a transaction leaves, from the one before it and the one inside it. -/
def leave : TransactionEnd → Database → Database → Database
  | commit, _, inside => inside
  | rollback, before, _ => before

end TransactionEnd

/-- A run against the database: an answer or an error, and the database that it leaves behind. -/
def Action (Error Answer : Type) : Type := Database → Except Error Answer × Database

namespace Action

variable {Error Other Answer Next : Type}

/-- Answer without touching the database. -/
protected def pure (answer : Answer) : Action Error Answer := fun database => (.ok answer, database)

/-- Run an action and go on with its answer; an error ends the run where it is. -/
protected def bind (first : Action Error Answer) (next : Answer → Action Error Next) :
    Action Error Next := fun database =>
  match first database with
  | (.ok answer, after) => next answer after
  | (.error error, after) => (.error error, after)

instance : Monad (Action Error) where
  pure := Action.pure
  bind := Action.bind

/-- Fail without touching the database. -/
def fail (error : Error) : Action Error Answer := fun database => (.error error, database)

/-- The same run with its error seen as another kind of error. -/
def mapError (embed : Error → Other) (action : Action Error Answer) : Action Other Answer :=
  fun database => ((action database).1.mapError embed, (action database).2)

/-- All or nothing: the action in a transaction of its own, which ends as the action does. -/
def atomically (action : Action Error Answer) : Action Error Answer := fun database =>
  let (outcome, after) := action database
  (outcome, (TransactionEnd.ofOutcome outcome).leave database after)

@[simp] theorem pure_run (answer : Answer) (database : Database) :
    (pure answer : Action Error Answer) database = (.ok answer, database) := rfl

@[simp] theorem fail_run (error : Error) (database : Database) :
    (fail error : Action Error Answer) database = (.error error, database) := rfl

/-- After a success the next action runs on what it left. -/
theorem bind_run_of_ok {first : Action Error Answer} {next : Answer → Action Error Next}
    {database after : Database} {answer : Answer}
    (run : first database = (.ok answer, after)) :
    (first >>= next) database = next answer after := by
  show Action.bind first next database = _
  simp [Action.bind, run]

/-- After a failure the next action does not run. -/
theorem bind_run_of_error {first : Action Error Answer} {next : Answer → Action Error Next}
    {database after : Database} {error : Error}
    (run : first database = (.error error, after)) :
    (first >>= next) database = (.error error, after) := by
  show Action.bind first next database = _
  simp [Action.bind, run]

/-- Returning the answer of an action changes nothing about it. -/
theorem bind_pure_run (action : Action Error Answer) : Action.bind action Action.pure = action := by
  funext database
  unfold Action.bind
  split
  · next run => exact run.symm
  · next run => exact run.symm

/-- How actions are grouped does not matter. -/
theorem bind_assoc_run {Middle : Type} (action : Action Error Answer)
    (middle : Answer → Action Error Middle) (next : Middle → Action Error Next) :
    Action.bind (Action.bind action middle) next
      = Action.bind action fun answer => Action.bind (middle answer) next := by
  funext database
  unfold Action.bind
  cases action database with
  | mk outcome after => cases outcome <;> rfl

instance : LawfulMonad (Action Error) :=
  LawfulMonad.mk' (Action Error) bind_pure_run (fun _ _ => rfl) bind_assoc_run

/-- A failing atomic action changes nothing. -/
theorem atomically_run_of_error {action : Action Error Answer} {database after : Database}
    {error : Error} (run : action.atomically database = (.error error, after)) :
    after = database := by
  obtain ⟨failed, left⟩ := Prod.mk.inj run
  rw [failed] at left
  exact left.symm

end Action

end FriendGraph
