import FriendGraph.Notification.Sender
import FriendGraph.Relationship

/-! # The service

A service is a database with a sender of notifications. An operation of a caller changes the
database first and then, when it has succeeded, makes notifications of what it connected and
hands them over. How the delivery goes shows neither in the outcome nor in the database.
-/

namespace FriendGraph

/-- What stays fixed while a service runs. -/
structure Terms where
  budget : Budget
  /-- The lifetime of a notification, in milliseconds. -/
  lifetime : Int

/-- A database with a sender of notifications. -/
structure Service (State : Type) where
  database : Database
  sender : State

/-- What a caller can ask for. -/
inductive Operation where
  | add (target : UserId)
  | addByHandle (handle : String)
  | remove (target : UserId)
  | block (target : UserId)
  | list
  /-- Connect with contacts; the caller has the given external account. -/
  | importContacts (externalId : String) (fetched : Except ContactsError (List Contact))

/-- What a successful operation answers. -/
inductive Outcome where
  /-- The caller and a friend are connected. -/
  | added (friendId : UserId) (isNew : Bool) (notifications : List Notification)
      (isDispatched : Bool)
  /-- The operation is done and has nothing to tell. -/
  | done
  | friends (friends : List Friend)
  /-- The caller and some contacts are connected. -/
  | imported (connected : List UserId) (notifications : List Notification) (isDispatched : Bool)
deriving DecidableEq

namespace Service

variable {State : Type} [Sender State]

/-- Hand notifications over; tells whether there were any. -/
def notify (notifications : List Notification) (service : Service State) :
    Bool × Service State :=
  let dispatched := dispatch notifications service.sender
  (dispatched.1, { service with sender := dispatched.2 })

/-- Run an action on the database and go on with what it answers. -/
def change {Answer : Type} (action : Action RelationshipError Answer)
    (next : Answer → Service State → Outcome × Service State) (service : Service State) :
    Except RelationshipError Outcome × Service State :=
  match action service.database with
  | (.ok answer, database) =>
    let finished := next answer { service with database := database }
    (.ok finished.1, finished.2)
  | (.error error, database) => (.error error, { service with database := database })

/-- Tell a user that the caller added them, if both edges are new. -/
def announceAdded (terms : Terms) (occasion : Occasion) (caller : Caller) (target : UserId)
    (isNew : Bool) (service : Service State) : Outcome × Service State :=
  let notifications :=
    if isNew then [Notification.added occasion terms.lifetime caller target] else []
  let notified := service.notify notifications
  (.added target isNew notifications notified.1, notified.2)

/-- Tell the users with whom the caller was connected that the caller joined. -/
def announceJoined (terms : Terms) (occasion : Occasion) (caller : Caller) (externalId : String)
    (connected : List UserId) (service : Service State) : Outcome × Service State :=
  let notifications := Notification.joined occasion terms.lifetime caller externalId connected
  let notified := service.notify notifications
  (.imported connected notifications notified.1, notified.2)

/-- Perform an operation of a caller. -/
def perform (terms : Terms) (occasion : Occasion) (caller : Caller) (operation : Operation)
    (service : Service State) : Except RelationshipError Outcome × Service State :=
  match operation with
  | .add target =>
    service.change (Relationship.add terms.budget caller target occasion.time)
      (announceAdded terms occasion caller target)
  | .addByHandle handle =>
    service.change (Relationship.addByHandle terms.budget caller handle occasion.time)
      fun connected => announceAdded terms occasion caller connected.1 connected.2
  | .remove target =>
    service.change (Relationship.remove terms.budget caller target occasion.time)
      fun _ after => (.done, after)
  | .block target =>
    service.change (Relationship.block terms.budget caller target occasion.time)
      fun _ after => (.done, after)
  | .list =>
    service.change (Relationship.list caller.id) fun friends after => (.friends friends, after)
  | .importContacts externalId fetched =>
    service.change (Relationship.importContacts terms.budget caller fetched occasion.time)
      (announceJoined terms occasion caller externalId)

end Service

end FriendGraph
