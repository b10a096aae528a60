import FriendGraph.Batch
import FriendGraph.Statement

/-! # The edge store

The operations that everything else is built from. An operation on a list is a plan of
statements, one for each chunk of the list that fits the budget, run in order; outside a
transaction what the earlier statements have written stays when a later one fails. Operations
on one edge or one counter are a single statement.
-/

namespace FriendGraph.Store

/-- Run statements in order; the first failure ends the run. -/
def runAll (plan : List (Statement Unit)) : Action StorageError Unit :=
  plan.forM Statement.run

/-- Run questions in order and collect what they find. -/
def collect {Answer : Type} (plan : List (Statement (List Answer))) :
    Action StorageError (List Answer) := do
  return (← plan.mapM Statement.run).flatten

/-- The identifier in a stored byte string. -/
def decodeId (bytes : StoredId) : Action StorageError UserId :=
  match UserId.ofStored? bytes with
  | some id => pure id
  | none => Action.fail .invalidUserId

/-- The state under a stored code. -/
def decodeState (code : Int) : Action StorageError EdgeState :=
  match EdgeState.ofCode? code with
  | some state => pure state
  | none => Action.fail (.unknownEdgeState code)

/-! ## Users -/

/-- The statements that look up the users of external accounts. -/
def lookupPlan (budget : Budget) (externalIds : List String) :
    List (Statement (List StoredId)) :=
  (chunks (budget.perStatement 1 0) externalIds).map .usersOfAccounts

/-- The registered users of external accounts, each once: chunk by chunk of the accounts, ascending
within a chunk. -/
def lookupAccounts (budget : Budget) (externalIds : List String) :
    Action StorageError (List UserId) := do
  let stored ← collect (lookupPlan budget externalIds)
  let found ← stored.mapM decodeId
  return found.eraseDups

/-- The user who has a handle. -/
def findHandle (handle : String) : Action StorageError (Option UserId) := do
  match ← (Statement.userOfHandle handle).run with
  | some stored => return some (← decodeId stored)
  | none => return none

/-- Whether a user is registered. -/
def isRegistered (id : UserId) : Action StorageError Bool := do
  return (← (Statement.userUnder id).run).isSome

/-! ## Edges -/

/-- The edge from one user to another. -/
def getEdge (source destination : UserId) : Action StorageError (Option Edge) := do
  match ← (Statement.edge source destination).run with
  | some row =>
    let state ← decodeState row.code
    return some ⟨source, destination, row.position, row.updatedAt, state⟩
  | none => return none

/-- The statements that look for edges between a user and candidates, both ways for each chunk. -/
def relatedPlan (budget : Budget) (user : UserId) (candidates : List UserId) :
    List (Statement (List StoredId)) :=
  (chunks (budget.perStatement 1 1) candidates).flatMap fun chunk =>
    [.destinations user chunk, .sources user chunk]

/-- The candidates who share an edge with the user in either direction and any state. -/
def relatedPeers (budget : Budget) (user : UserId) (candidates : List UserId) :
    Action StorageError (List UserId) := do
  let stored ← collect (relatedPlan budget user candidates)
  let found ← stored.mapM decodeId
  return found.eraseDups

/-- The statements that connect a user with peers both ways. -/
def pairPlan (budget : Budget) (source : UserId) (peers : List UserId) (time : Int) :
    List (Statement Unit) :=
  (chunks (budget.perStatement 10 0) peers).map fun chunk =>
    .insertEdges (chunk.flatMap fun peer =>
      [EdgeRow.connected source peer time, EdgeRow.connected peer source time])

/-- Connect a user with peers both ways; an edge that is there already fails its statement. -/
def insertPairs (budget : Budget) (source : UserId) (peers : List UserId) (time : Int) :
    Action StorageError Unit :=
  runAll (pairPlan budget source peers time)

/-- Insert a connected edge unless there is an edge; tells whether it was inserted. -/
def insertIfAbsent (source destination : UserId) (time : Int) : Action StorageError Bool :=
  (Statement.insertEdgeIfAbsent (EdgeRow.connected source destination time)).run

/-- Delete an edge; tells whether there was one. -/
def deleteEdge (source destination : UserId) : Action StorageError Bool :=
  (Statement.deleteEdge source destination).run

/-- Delete an edge that is not blocked; tells whether it was deleted. -/
def deleteUnlessBlocked (source destination : UserId) : Action StorageError Bool :=
  (Statement.deleteEdgeUnless source destination EdgeState.blocked.code).run

/-- Give an edge another state; tells whether there was one. -/
def setState (source destination : UserId) (state : EdgeState) (time : Int) :
    Action StorageError Bool :=
  (Statement.updateEdge source destination state.code time).run

/-! ## Counters -/

/-- The counter of a user, if one was ever written. -/
def getCounter (user : UserId) : Action StorageError (Option Counter) := do
  return (← (Statement.counter user).run).map fun row => ⟨user, row.count, row.updatedAt⟩

/-- The value of a user's counter, zero when there is none. -/
def edgeCount (user : UserId) : Action StorageError Int := do
  match ← getCounter user with
  | some counter => return counter.count
  | none => return 0

/-- The statements that raise counters. -/
def incrementPlan (budget : Budget) (users : List UserId) (amount time : Int) :
    List (Statement Unit) :=
  (chunks (budget.perStatement 3 0) users).map fun chunk => .raiseCounters chunk amount time

/-- Add an amount to the counter of every listed user, once per occurrence. -/
def increment (budget : Budget) (users : List UserId) (amount time : Int) :
    Action StorageError Unit :=
  runAll (incrementPlan budget users amount time)

/-- The statements that lower counters. -/
def decrementPlan (budget : Budget) (users : List UserId) (time : Int) : List (Statement Unit) :=
  (chunks (budget.perStatement 1 1) users).map fun chunk => .lowerCounters chunk time

/-- Subtract one from the counter of every listed user who has one, once per chunk. -/
def decrement (budget : Budget) (users : List UserId) (time : Int) : Action StorageError Unit :=
  runAll (decrementPlan budget users time)

/-- Subtract one from the counter of a user who has one. -/
def decrementOne (budget : Budget) (user : UserId) (time : Int) : Action StorageError Unit :=
  decrement budget [user] time

/-! ## Listing -/

/-- A listed user as a friend. -/
def decodeFriend (listed : UserRow × Int) : Action StorageError Friend := do
  let id ← decodeId listed.1.id
  let state ← decodeState listed.2
  return ⟨listed.1.profile id, state⟩

/-- The registered users to whom edges lead from the user, by position of the edge and then by its
insertion. -/
def listFriends (user : UserId) : Action StorageError (List Friend) := do
  (← (Statement.listing user).run).mapM decodeFriend

end FriendGraph.Store
