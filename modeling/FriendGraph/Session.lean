import FriendGraph.Service

/-! # Requests of a session

A session sends requests for its user. A request carries a list of targets, of which only the
first one counts. Every request but an import gets exactly one reply: success, the list asked
for, or an error that tells what is wrong with the request (`badInput`) and says nothing more
than that the operation failed otherwise (`failure`).
-/

namespace FriendGraph

/-- Whom a session asks to add. -/
inductive FriendTarget where
  /-- The bytes of an identifier, as they were sent. -/
  | id (bytes : List UInt8)
  | handle (name : String)
deriving DecidableEq

/-- A request of a session. -/
inductive Request where
  | addFriends (targets : List FriendTarget)
  | removeFriends (ids : List (List UInt8))
  | blockFriends (ids : List (List UInt8))
  | listFriends
  /-- Import the contacts of an external account. -/
  | importFriends (externalId accessToken : String)
deriving DecidableEq

/-- What is wrong with a request. -/
inductive BadInput where
  | noFriend
  | noUserId
  | emptyId
  | invalidId
  | refused (refusal : Refusal)
deriving DecidableEq

/-- The wording of what is wrong with a request. -/
def BadInput.message : BadInput → String
  | noFriend => "At least one friend must be present"
  | noUserId => "At least one user ID must be present"
  | emptyId => "User ID must be present"
  | invalidId => "Invalid User ID"
  | refused refusal => refusal.reason

/-- The operations whose failure a session is told of. -/
inductive FailedOperation where
  | add
  | remove
  | block
  | list
deriving DecidableEq

/-- The wording of a failure, the same whatever its cause. -/
def FailedOperation.message : FailedOperation → String
  | add => "Failed to add friend"
  | remove => "Failed to remove friend"
  | block => "Could not block user"
  | list => "Could not get friends"

/-- A reply to a session. -/
inductive Response where
  | ok
  | friends (friends : List Friend)
  | badInput (cause : BadInput)
  | failure (operation : FailedOperation)
deriving DecidableEq

/-- The code of a reply that reports an error. -/
inductive ErrorCode where
  | badInput
  | runtimeException
deriving DecidableEq

/-- The name of a code in replies. -/
def ErrorCode.name : ErrorCode → String
  | badInput => "BadInput"
  | runtimeException => "RuntimeException"

/-- The code and the wording of a reply that reports an error. -/
def Response.error? : Response → Option (ErrorCode × String)
  | ok => none
  | friends _ => none
  | badInput cause => some (.badInput, cause.message)
  | failure operation => some (.runtimeException, operation.message)

namespace Session

/-- The identifier that a request names. -/
def decodeId (bytes : List UInt8) : Except BadInput UserId :=
  if bytes.isEmpty then .error .emptyId
  else
    match UserId.ofStored? bytes with
    | some id => .ok id
    | none => .error .invalidId

/-- The identifier that a list of identifiers starts with. -/
def firstId (ids : List (List UInt8)) : Except BadInput UserId :=
  match ids with
  | [] => .error .noUserId
  | bytes :: _ => decodeId bytes

/-- The operation that adds the first target of a list. -/
def addOperation (targets : List FriendTarget) : Except BadInput Operation :=
  match targets with
  | [] => .error .noFriend
  | .id bytes :: _ => (decodeId bytes).map .add
  | .handle handle :: _ => .ok (.addByHandle handle)

/-- The operation that a request asks for. -/
def operation (source : ContactSource) : Request → Except BadInput Operation
  | .addFriends targets => addOperation targets
  | .removeFriends ids => (firstId ids).map .remove
  | .blockFriends ids => (firstId ids).map .block
  | .listFriends => .ok .list
  | .importFriends externalId accessToken =>
    .ok (.importContacts externalId (source accessToken))

/-- The operation whose failure is told; nothing is told of an import. -/
def failedOperation? : Request → Option FailedOperation
  | .addFriends _ => some .add
  | .removeFriends _ => some .remove
  | .blockFriends _ => some .block
  | .listFriends => some .list
  | .importFriends _ _ => none

/-- The reply to an operation that was performed. -/
def respond (failed : FailedOperation) : Except RelationshipError Outcome → Response
  | .ok (.friends friends) => .friends friends
  | .ok _ => .ok
  | .error (.invalid refusal) => .badInput (.refused refusal)
  | .error _ => .failure failed

variable {State : Type} [Sender State]

/-- Answer a request: the replies that are sent, and the service afterwards. -/
def answer (terms : Terms) (occasion : Occasion) (source : ContactSource) (caller : Caller)
    (request : Request) (service : Service State) : List Response × Service State :=
  match operation source request with
  | .error cause => ([.badInput cause], service)
  | .ok operation =>
    let performed := service.perform terms occasion caller operation
    match failedOperation? request with
    | some failed => ([respond failed performed.1], performed.2)
    | none => ([], performed.2)

end Session

end FriendGraph
