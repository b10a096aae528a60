import FriendGraph.Notification.Sender

/-! # The queue of batches

A bounded queue between the senders of batches and their receiver: first in, first out, whole
batches. Once the receiver is gone every batch is turned away, whether or not there is room.
-/

namespace FriendGraph

/-- A bounded queue of batches. -/
structure Queue where
  /-- The number of batches that may wait. -/
  capacity : Nat
  capacity_pos : 0 < capacity
  /-- The waiting batches, the oldest one first. -/
  waiting : List (List Notification)
  /-- Whether the receiver is still there. -/
  isOpen : Bool

namespace Queue

/-- The empty queue for so many batches, and for one at least. -/
def ofCapacity (asked : Nat) : Queue where
  capacity := max asked 1
  capacity_pos := Nat.lt_of_lt_of_le Nat.one_pos (Nat.le_max_right asked 1)
  waiting := []
  isOpen := true

/-- Put a batch at the end of the queue. -/
def send (batch : List Notification) (queue : Queue) :
    Except NotificationError Unit × Queue :=
  if queue.isOpen then
    if queue.waiting.length < queue.capacity then
      (.ok (), { queue with waiting := queue.waiting ++ [batch] })
    else (.error (.rejected .queueFull), queue)
  else (.error .queueClosed, queue)

/-- Take the oldest batch, if one is waiting. -/
def receive (queue : Queue) : Option (List Notification) × Queue :=
  match queue.waiting with
  | [] => (none, queue)
  | batch :: rest => (some batch, { queue with waiting := rest })

/-- Take all waiting batches. -/
def drain (queue : Queue) : List (List Notification) × Queue :=
  (queue.waiting, { queue with waiting := [] })

/-- The receiver goes away, and what waited is lost. -/
def close (queue : Queue) : Queue := { queue with waiting := [], isOpen := false }

end Queue

instance : Sender Queue where
  name _ := "channel"
  send := Queue.send

end FriendGraph
