import FriendGraph.Json
import FriendGraph.Profile

/-! # Notifications

A notification tells a user that somebody added them as a friend, or that a contact of theirs
has joined. Its content is a small JSON text that carries the handle of the sender and, for a
contact who joined, the account on the external network. All notifications of a batch are made
at one occasion, which supplies the time and the fresh identifiers; times are integers of 64 bits,
and so is the sum of a time and a lifetime (`Notification.expiry`).
-/

namespace FriendGraph

/-- What an operation takes from the outside: the time, and identifiers that nobody has used. -/
structure Occasion where
  /-- Milliseconds since the epoch. -/
  time : Int
  freshId : Nat → String

/-- What a notification is about. -/
inductive NotificationKind where
  /-- The sender added the recipient as a friend. -/
  | friendAdded
  /-- A contact of the recipient has joined. -/
  | friendJoined
deriving DecidableEq

/-- The number that classifies a notification. -/
def NotificationKind.code : NotificationKind → Int
  | friendAdded => 3
  | friendJoined => 6

/-- A notification, ready for delivery. -/
structure Notification where
  id : String
  recipient : UserId
  sender : UserId
  subject : String
  /-- The text of a JSON object. -/
  content : String
  kind : NotificationKind
  createdAt : Int
  expiresAt : Int
  persistent : Bool
deriving DecidableEq

namespace Notification

/-- When something expires that is made at a time and lives for so long: the sum of the two as
integers of 64 bits, which goes on from the least of them where it is too large. -/
def expiry (time lifetime : Int) : Int := (Int64.ofInt time + Int64.ofInt lifetime).toInt

/-- A sum that has 64 bits is the time of expiry. -/
theorem expiry_of_fits {time lifetime : Int} (least : Int64.minValue.toInt ≤ time + lifetime)
    (most : time + lifetime ≤ Int64.maxValue.toInt) :
    expiry time lifetime = time + lifetime := by
  rw [Int64.toInt_minValue] at least
  rw [Int64.toInt_maxValue] at most
  rw [expiry, ← Int64.ofInt_add, Int64.toInt_ofInt_of_le least (Int.lt_of_le_sub_one most)]

example : expiry 1 Int64.maxValue.toInt = Int64.minValue.toInt := by decide

/-- The notification that the caller added the recipient. -/
def added (occasion : Occasion) (lifetime : Int) (caller : Caller) (recipient : UserId) :
    Notification where
  id := occasion.freshId 0
  recipient := recipient
  sender := caller.id
  subject := caller.handle ++ " added you as a friend"
  content := (Json.ofMembers [("handle", .ofString caller.handle)]).text
  kind := .friendAdded
  createdAt := occasion.time
  expiresAt := expiry occasion.time lifetime
  persistent := true

/-- The notifications that the caller, who has the given external account, joined: one for each
recipient. -/
def joined (occasion : Occasion) (lifetime : Int) (caller : Caller) (externalId : String)
    (recipients : List UserId) : List Notification :=
  recipients.mapIdx fun index recipient =>
    { id := occasion.freshId index
      recipient := recipient
      sender := caller.id
      subject := "Your friend has just joined the game"
      content :=
        (Json.ofMembers
          [("facebook_id", .ofString externalId), ("handle", .ofString caller.handle)]).text
      kind := .friendJoined
      createdAt := occasion.time
      expiresAt := expiry occasion.time lifetime
      persistent := true }

/-- The record of a notification as it is posted. -/
def toJson (notification : Notification) : Json :=
  .ofMembers
    [("id", .ofString notification.id),
      ("user_id", .ofString notification.recipient.text),
      ("sender_id", .ofString notification.sender.text),
      ("subject", .ofString notification.subject),
      ("content", .ofString notification.content),
      ("code", .ofInt notification.kind.code),
      ("created_at", .ofInt notification.createdAt),
      ("expires_at", .ofInt notification.expiresAt),
      ("persistent", .bool notification.persistent)]

/-- The text of a batch as it is posted: an array of records. -/
def batchText (batch : List Notification) : String := (Json.array (batch.map toJson)).text

end Notification

end FriendGraph
