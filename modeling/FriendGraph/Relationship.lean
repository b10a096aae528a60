import FriendGraph.Contacts
import FriendGraph.Store

/-! # Changes of relationships

Connecting, disconnecting and blocking, each as one all-or-nothing action. Connecting writes
both directions and raises the counter of every user whose edge is new; disconnecting deletes
both directions and lowers the counter of every user whose edge is gone; blocking turns the
caller's edge into a block and deletes the edge back unless that is a block itself. A caller
cannot name themselves.
-/

namespace FriendGraph

/-- What a caller may ask to do with another user. -/
inductive Verb where
  | add
  | remove
  | block
deriving DecidableEq

/-- The word for what is asked. -/
def Verb.text : Verb → String
  | add => "add"
  | remove => "remove"
  | block => "block"

/-- Why a request is invalid, whatever the database holds. -/
inductive Refusal where
  /-- The caller names themselves. -/
  | self (verb : Verb)
  /-- The handle is empty or the caller's own. -/
  | handle
deriving DecidableEq

/-- The wording of a refusal. -/
def Refusal.reason : Refusal → String
  | self verb => "Cannot " ++ verb.text ++ " self"
  | handle => "User handle must be present and not equal to user's handle"

/-- What an operation needs and does not find. -/
inductive Missing where
  | user (id : UserId)
  | handle (name : String)
  | relationship (peer : UserId)
deriving DecidableEq

/-- The wording of what is missing. -/
def Missing.text : Missing → String
  | user id => "user " ++ id.text
  | handle name => "user handle " ++ name
  | relationship peer => "no relationship with user " ++ peer.text

/-- The causes of a failed operation. -/
inductive RelationshipError where
  | invalid (refusal : Refusal)
  | notFound (missing : Missing)
  /-- One of the two users has blocked the other. -/
  | blocked
  | storage (error : StorageError)
  | contacts (error : ContactsError)
deriving DecidableEq

/-- The display text of a failed operation, where this library words it. -/
def RelationshipError.message? : RelationshipError → Option String
  | invalid refusal => some ("Invalid input: " ++ refusal.reason)
  | notFound missing => some ("Not found: " ++ missing.text)
  | blocked => some "Relationship is blocked"
  | storage error => error.message?
  | contacts error => error.message?

instance : MonadLift (Action StorageError) (Action RelationshipError) where
  monadLift := Action.mapError .storage

namespace Relationship

/-- Refuse a caller who names themselves. -/
def checkTarget (caller : Caller) (target : UserId) (verb : Verb) :
    Except RelationshipError Unit :=
  if target = caller.id then .error (.invalid (.self verb)) else .ok ()

/-- The same check inside an action. -/
def requireOther (caller : Caller) (target : UserId) (verb : Verb) :
    Action RelationshipError Unit := fun database => (checkTarget caller target verb, database)

/-- Whether an edge is there and a block. -/
def isBlock (edge : Option Edge) : Bool := edge.any (·.state = .blocked)

/-- Make sure that both edges between two users are there, unless one of them is a block; tells
whether both are new. -/
def connect (budget : Budget) (user target : UserId) (time : Int) :
    Action RelationshipError Bool := do
  if !(← Store.isRegistered target) then
    Action.fail (.notFound (.user target))
  let outgoing ← Store.getEdge user target
  let incoming ← Store.getEdge target user
  if isBlock outgoing || isBlock incoming then
    Action.fail .blocked
  let isOutgoingNew ← Store.insertIfAbsent user target time
  let isIncomingNew ← Store.insertIfAbsent target user time
  let sources := (if isOutgoingNew then [user] else []) ++ (if isIncomingNew then [target] else [])
  if !sources.isEmpty then
    Store.increment budget sources 1 time
  return isOutgoingNew && isIncomingNew

/-- Connect the caller with a user; tells whether both edges are new. -/
def add (budget : Budget) (caller : Caller) (target : UserId) (time : Int) :
    Action RelationshipError Bool := do
  requireOther caller target .add
  (connect budget caller.id target time).atomically

/-- Connect the caller with the user who has a handle. -/
def connectHandle (budget : Budget) (caller : Caller) (handle : String) (time : Int) :
    Action RelationshipError (UserId × Bool) := do
  match ← Store.findHandle handle with
  | none => Action.fail (.notFound (.handle handle))
  | some target =>
    requireOther caller target .add
    let isNew ← connect budget caller.id target time
    return (target, isNew)

/-- Connect the caller with the user who has a handle; tells who that is and whether both edges are
new. -/
def addByHandle (budget : Budget) (caller : Caller) (handle : String) (time : Int) :
    Action RelationshipError (UserId × Bool) :=
  if handle.isEmpty || handle = caller.handle then Action.fail (.invalid .handle)
  else (connectHandle budget caller handle time).atomically

/-- Delete both edges between two users and lower the counters of those whose edge is gone. -/
def disconnect (budget : Budget) (user target : UserId) (time : Int) :
    Action RelationshipError Unit := do
  if ← Store.deleteEdge user target then
    Store.decrementOne budget user time
  if ← Store.deleteEdge target user then
    Store.decrementOne budget target time

/-- Disconnect the caller from a user; there may be nothing to delete. -/
def remove (budget : Budget) (caller : Caller) (target : UserId) (time : Int) :
    Action RelationshipError Unit := do
  requireOther caller target .remove
  (disconnect budget caller.id target time).atomically

/-- Turn an edge into a block and delete the edge back unless that is a block. -/
def bar (budget : Budget) (user target : UserId) (time : Int) :
    Action RelationshipError Unit := do
  if !(← Store.setState user target .blocked time) then
    Action.fail (.notFound (.relationship target))
  if ← Store.deleteUnlessBlocked target user then
    Store.decrementOne budget target time

/-- Block a user to whom an edge leads from the caller. -/
def block (budget : Budget) (caller : Caller) (target : UserId) (time : Int) :
    Action RelationshipError Unit := do
  requireOther caller target .block
  (bar budget caller.id target time).atomically

/-- The friends of a user, in the order in which they were connected. -/
def list (user : UserId) : Action RelationshipError (List Friend) := do
  Store.listFriends user

/-- Connect a user with those of the given accounts that belong to other registered users with
whom there is no edge in either direction; answers with these users. -/
def connectNew (budget : Budget) (user : UserId) (externalIds : List String) (time : Int) :
    Action RelationshipError (List UserId) := do
  let registered ← Store.lookupAccounts budget externalIds
  let matched := registered.filter (· ≠ user)
  if matched.isEmpty then
    return []
  let related ← Store.relatedPeers budget user matched
  let peers := matched.filter (· ∉ related)
  if peers.isEmpty then
    return []
  Store.insertPairs budget user peers time
  Store.increment budget peers 1 time
  Store.increment budget [user] peers.length time
  return peers

/-- Connect the caller with the contacts that were fetched for them. -/
def importContacts (budget : Budget) (caller : Caller)
    (fetched : Except ContactsError (List Contact)) (time : Int) :
    Action RelationshipError (List UserId) :=
  match fetched with
  | .error error => Action.fail (.contacts error)
  | .ok [] => pure []
  | .ok contacts =>
    (connectNew budget caller.id (contacts.map (·.id)) time).atomically

end Relationship

end FriendGraph
