import FriendGraph.Http.Network
import FriendGraph.Notification

/-! # Delivery of notifications

A sender is a state with a step that takes a batch or rejects it. Dispatching hands a batch
over and forgets how that went, so that a failed delivery never reaches the operation that
caused it; an empty batch is not handed over at all (`dispatch_nil`).
-/

namespace FriendGraph

/-- Why a batch is not taken. -/
inductive Rejection where
  /-- The queue is full. -/
  | queueFull
  /-- No address to post to is configured. -/
  | noEndpoint
  /-- The recorder is told to refuse. -/
  | recorderRefuses
  /-- The other side answers with a status that is no success. -/
  | status (code : Http.Status) (shown : String)
deriving DecidableEq

/-- The wording of a rejection. -/
def Rejection.reason : Rejection → String
  | queueFull => "notification queue full"
  | noEndpoint => "webhook endpoint not configured"
  | recorderRefuses => "Mock send failure"
  | status code shown => Http.failureLine code shown

/-- The causes of a failed delivery. -/
inductive NotificationError where
  | rejected (rejection : Rejection)
  /-- Nobody receives from the queue any more. -/
  | queueClosed
  | transfer (fault : Http.TransferFault)
deriving DecidableEq

/-- The display text of a failed delivery, where this library words it. -/
def NotificationError.message? : NotificationError → Option String
  | rejected rejection => some ("Notification batch rejected: " ++ rejection.reason)
  | queueClosed => some "Notification queue closed"
  | transfer _ => none

/-- States that take batches of notifications. -/
class Sender (State : Type) where
  /-- The name of this kind of sender. -/
  name : State → String
  /-- Take a batch or reject it. -/
  send : List Notification → State → Except NotificationError Unit × State

/-- Hand a batch over unless it is empty; tells whether it was handed over. -/
def dispatch {State : Type} [Sender State] (batch : List Notification) (sender : State) :
    Bool × State :=
  if batch.isEmpty then (false, sender) else (true, (Sender.send batch sender).2)

/-- An empty batch is not handed over. -/
@[simp] theorem dispatch_nil {State : Type} [Sender State] (sender : State) :
    dispatch [] sender = (false, sender) := rfl

/-- Whether a batch is handed over does not depend on the sender. -/
theorem dispatch_fst {State : Type} [Sender State] (batch : List Notification)
    (sender : State) : (dispatch batch sender).1 = !batch.isEmpty := by
  unfold dispatch
  cases batch.isEmpty <;> rfl

/-- A sender that keeps every batch, or refuses all of them. -/
structure Recorder where
  batches : List (List Notification)
  refuses : Bool

namespace Recorder

/-- The recorder without batches. -/
def empty : Recorder := ⟨[], false⟩

/-- The notifications of all batches in order. -/
def delivered (recorder : Recorder) : List Notification := recorder.batches.flatten

/-- Keep a batch at the end of the others. -/
def send (batch : List Notification) (recorder : Recorder) :
    Except NotificationError Unit × Recorder :=
  if recorder.refuses then (.error (.rejected .recorderRefuses), recorder)
  else (.ok (), { recorder with batches := recorder.batches ++ [batch] })

end Recorder

instance : Sender Recorder where
  name _ := "mock"
  send := Recorder.send

/-- A state that is one of two senders sends as the one that it is. -/
instance {First Second : Type} [Sender First] [Sender Second] : Sender (First ⊕ Second) where
  name
    | .inl sender => Sender.name sender
    | .inr sender => Sender.name sender
  send batch
    | .inl sender => ((Sender.send batch sender).1, .inl (Sender.send batch sender).2)
    | .inr sender => ((Sender.send batch sender).1, .inr (Sender.send batch sender).2)

end FriendGraph
