import FriendGraph.Database

/-! # Statements

A statement is one request to the database, indexed by the type of its answer.
`Statement.parameters` lists what it binds, one parameter for every value handed over: each
element of a list that is searched, each value of an inserted row, each value compared or
assigned, each literal operand. `Statement.run` is what it does. A statement that fails has
written nothing (`Statement.run_of_error`).
-/

namespace FriendGraph

/-- A bound value. -/
inductive Parameter where
  | blob (bytes : List UInt8)
  | text (text : String)
  | integer (value : Int)
deriving DecidableEq

/-- A request to the database whose answer has the given type. -/
inductive Statement : Type → Type
  /-- The identifiers of the users of the given external accounts, in ascending order. -/
  | usersOfAccounts (externalIds : List String) : Statement (List StoredId)
  /-- The identifier of the user who has a handle. -/
  | userOfHandle (handle : String) : Statement (Option StoredId)
  /-- The identifier of a user, if there is such a user. -/
  | userUnder (id : UserId) : Statement (Option StoredId)
  /-- The edge between two users, in this direction. -/
  | edge (source destination : UserId) : Statement (Option EdgeRow)
  /-- Those of the candidates to whom an edge leads from the user. -/
  | destinations (user : UserId) (candidates : List UserId) : Statement (List StoredId)
  /-- Those of the candidates from whom an edge leads to the user. -/
  | sources (user : UserId) (candidates : List UserId) : Statement (List StoredId)
  /-- The counter of a user. -/
  | counter (user : UserId) : Statement (Option CounterRow)
  /-- Insert edges, all or none. -/
  | insertEdges (rows : List EdgeRow) : Statement Unit
  /-- Insert an edge unless its key is taken; tells whether it was inserted. -/
  | insertEdgeIfAbsent (row : EdgeRow) : Statement Bool
  /-- Delete an edge; tells whether there was one. -/
  | deleteEdge (source destination : UserId) : Statement Bool
  /-- Delete an edge that has another code than the given one; tells whether it was deleted. -/
  | deleteEdgeUnless (source destination : UserId) (code : Int) : Statement Bool
  /-- Give an edge another code; tells whether there was one. -/
  | updateEdge (source destination : UserId) (code time : Int) : Statement Bool
  /-- Add an amount to the counter of every listed user, once per occurrence; a missing row is
  added. -/
  | raiseCounters (users : List UserId) (amount time : Int) : Statement Unit
  /-- Subtract one from the counter of every listed user that has one. -/
  | lowerCounters (users : List UserId) (time : Int) : Statement Unit
  /-- The registered users to whom edges lead from the user, each with the code of the edge, by
  position and then by insertion of the edges. -/
  | listing (user : UserId) : Statement (List (UserRow × Int))

namespace UserId

/-- The parameter that an identifier binds. -/
def parameter (id : UserId) : Parameter := .blob id.bytes

end UserId

/-- The parameters that a row of an edge binds. -/
def EdgeRow.parameters (row : EdgeRow) : List Parameter :=
  [.blob row.source, .blob row.destination, .integer row.position, .integer row.updatedAt,
    .integer row.code]

namespace EdgeRow

/-- The edge with another code, written at the given time; its position stays. -/
def withCode (row : EdgeRow) (code time : Int) : EdgeRow :=
  { row with code := code, updatedAt := time }

/-- Whether the edge leads from one user to the other. -/
def joins (row : EdgeRow) (source destination : UserId) : Bool :=
  row.source = source.bytes ∧ row.destination = destination.bytes

end EdgeRow

namespace CounterRow

/-- The counter with an amount added to it, written at the given time. -/
def raised (row : CounterRow) (amount time : Int) : CounterRow :=
  { row with count := row.count + amount, updatedAt := time }

end CounterRow

namespace Statement

/-- What a statement binds, in order. -/
def parameters {Answer : Type} : Statement Answer → List Parameter
  | usersOfAccounts externalIds => externalIds.map .text
  | userOfHandle handle => [.text handle]
  | userUnder id => [id.parameter, .integer 1]
  | edge source destination => [source.parameter, destination.parameter]
  | destinations user candidates => user.parameter :: candidates.map UserId.parameter
  | sources user candidates => user.parameter :: candidates.map UserId.parameter
  | counter user => [user.parameter]
  | insertEdges rows => rows.flatMap EdgeRow.parameters
  | insertEdgeIfAbsent row => row.parameters
  | deleteEdge source destination => [source.parameter, destination.parameter]
  | deleteEdgeUnless source destination code =>
    [source.parameter, destination.parameter, .integer code]
  | updateEdge source destination code time =>
    [.integer code, .integer time, source.parameter, destination.parameter]
  | raiseCounters users amount time =>
    users.flatMap fun user => [user.parameter, .integer amount, .integer time]
  | lowerCounters users time => .integer 1 :: .integer time :: users.map UserId.parameter
  | listing user => [user.parameter]

variable {Answer : Type}

/-- A question to the users, who have to be there. -/
def askUsers (question : Directory → Answer) : Action StorageError Answer := fun database =>
  match database.users with
  | some directory => (.ok (question directory), database)
  | none => (.error (.database (.missingTable .users)), database)

/-- A question to the edges, which have to be there. -/
def askEdges (question : Table EdgeRow → Answer) : Action StorageError Answer := fun database =>
  match database.edges with
  | some table => (.ok (question table), database)
  | none => (.error (.database (.missingTable .edges)), database)

/-- A question to the counters, which have to be there. -/
def askCounters (question : Table CounterRow → Answer) : Action StorageError Answer :=
  fun database =>
    match database.counters with
    | some table => (.ok (question table), database)
    | none => (.error (.database (.missingTable .counters)), database)

/-- A change of the edges, which have to be there. -/
def changeEdges (change : Table EdgeRow → Answer × Table EdgeRow) : Action StorageError Answer :=
  fun database =>
    match database.edges with
    | some table => (.ok (change table).1, { database with edges := some (change table).2 })
    | none => (.error (.database (.missingTable .edges)), database)

/-- A change of the counters, which have to be there. -/
def changeCounters (change : Table CounterRow → Table CounterRow) : Action StorageError Unit :=
  fun database =>
    match database.counters with
    | some table => (.ok (), { database with counters := some (change table) })
    | none => (.error (.database (.missingTable .counters)), database)

/-- The insertion of several edges, which fails when one of their keys is taken. -/
def growEdges (rows : List EdgeRow) : Action StorageError Unit := fun database =>
  match database.edges with
  | some table =>
    match table.appendAll? rows with
    | some grown => (.ok (), { database with edges := some grown })
    | none => (.error (.database .takenKey), database)
  | none => (.error (.database (.missingTable .edges)), database)

/-- The edges with one of them given another code. -/
def recode (source destination : UserId) (code time : Int) (table : Table EdgeRow) :
    Table EdgeRow :=
  table.adjust (fun row => if row.joins source destination then row.withCode code time else row)
    (by
      intro row
      split <;> rfl)

/-- The counters with an amount added to the one of a user, or a new one of that amount at the
end. -/
def raise (amount time : Int) (table : Table CounterRow) (user : UserId) : Table CounterRow :=
  match table.append? ⟨user.bytes, amount, time⟩ with
  | some grown => grown
  | none =>
    table.adjust (fun row => if row.owner = user.bytes then row.raised amount time else row)
      (by
        intro row
        split <;> rfl)

/-- The counters with one subtracted from those of the listed users. -/
def lower (users : List UserId) (time : Int) (table : Table CounterRow) : Table CounterRow :=
  table.adjust
    (fun row => if row.owner ∈ users.map UserId.bytes then row.raised (-1) time else row)
    (by
      intro row
      split <;> rfl)

/-- The edges that leave a user, by position and then by insertion. -/
def leaving (user : UserId) (table : Table EdgeRow) : List EdgeRow :=
  (table.rows.filter fun row => row.source = user.bytes).mergeSort
    fun first second => first.position ≤ second.position

/-- The edges that leave a user for registered users, each as that user and the code of the edge. -/
def listed (user : UserId) (directory : Directory) (table : Table EdgeRow) :
    List (UserRow × Int) :=
  (leaving user table).filterMap fun row =>
    (directory.withId? row.destination).map fun peer => (peer, row.code)

/-- What a statement does. -/
def run : Statement Answer → Action StorageError Answer
  | usersOfAccounts externalIds => askUsers fun directory =>
    ((directory.rows.filter fun row => row.externalId.any (· ∈ externalIds)).map (·.id)).mergeSort
      fun first second => first ≤ second
  | userOfHandle handle => askUsers fun directory =>
    (directory.withHandle? handle).map (·.id)
  | userUnder id => askUsers fun directory => (directory.withId? id.bytes).map (·.id)
  | edge source destination => askEdges fun table =>
    table.find? (source.bytes, destination.bytes)
  | destinations user candidates => askEdges fun table =>
    (table.rows.filter fun row =>
      row.source = user.bytes ∧ row.destination ∈ candidates.map UserId.bytes).map (·.destination)
  | sources user candidates => askEdges fun table =>
    (table.rows.filter fun row =>
      row.destination = user.bytes ∧ row.source ∈ candidates.map UserId.bytes).map (·.source)
  | counter user => askCounters fun table => table.find? user.bytes
  | insertEdges rows => growEdges rows
  | insertEdgeIfAbsent row => changeEdges fun table =>
    match table.append? row with
    | some grown => (true, grown)
    | none => (false, table)
  | deleteEdge source destination => changeEdges fun table =>
    (table.rows.any fun row => row.joins source destination,
      table.filter fun row => !row.joins source destination)
  | deleteEdgeUnless source destination code => changeEdges fun table =>
    (table.rows.any fun row => row.joins source destination && row.code != code,
      table.filter fun row => !(row.joins source destination && row.code != code))
  | updateEdge source destination code time => changeEdges fun table =>
    (table.rows.any fun row => row.joins source destination,
      recode source destination code time table)
  | raiseCounters users amount time => changeCounters fun table =>
    users.foldl (raise amount time) table
  | lowerCounters users time => changeCounters (lower users time)
  | listing user => fun database =>
    match database.users, database.edges with
    | some directory, some table => (.ok (listed user directory table), database)
    | none, _ => (.error (.database (.missingTable .users)), database)
    | _, none => (.error (.database (.missingTable .edges)), database)

/-- A statement that fails leaves the database as it was. -/
theorem run_of_error {statement : Statement Answer} {database after : Database}
    {error : StorageError} (failed : statement.run database = (.error error, after)) :
    after = database := by
  cases statement <;>
    simp only [run, askUsers, askEdges, askCounters, changeEdges, changeCounters, growEdges]
      at failed <;>
    (repeat' split at failed) <;>
    first | exact (Prod.mk.inj failed).2.symm | exact nomatch (Prod.mk.inj failed).1

end Statement

end FriendGraph
