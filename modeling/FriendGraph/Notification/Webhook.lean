import FriendGraph.Notification.Sender

/-! # Delivery to a web address

Each batch is posted as a JSON array to one address, or to where that address sends it on. A status
that is no success rejects the batch with the status and the first characters of the answer; nothing
is tried twice.
-/

namespace FriendGraph

/-- The settings of delivery to a web address. -/
structure WebhookSettings where
  /-- The address that batches are posted to. -/
  endpoint : String
  /-- The time that an answer may take. -/
  timeoutSeconds : Nat
deriving DecidableEq

/-- The settings where nothing is said. -/
def WebhookSettings.standard : WebhookSettings := ⟨"", 10⟩

/-- A sender that posts to a web address, with the hops that it has made. -/
structure Webhook where
  endpoint : String
  network : Http.Network
  trace : Http.Trace

namespace Webhook

/-- The sender for an address, which has to be configured. -/
def ofSettings (settings : WebhookSettings) (network : Http.Network) :
    Except NotificationError Webhook :=
  if settings.endpoint.isEmpty then .error (.rejected .noEndpoint)
  else .ok ⟨settings.endpoint, network, []⟩

/-- What a posted batch comes to, from the answer. -/
def verdict (response : Http.Response) : Except NotificationError Unit :=
  if response.status.isSuccess then .ok ()
  else .error (.rejected (.status response.status (Http.excerpt response.body)))

/-- Post a batch. -/
def send (batch : List Notification) (webhook : Webhook) :
    Except NotificationError Unit × Webhook :=
  match Url.parse? webhook.endpoint with
  | none => (.error (.transfer .invalidUrl), webhook)
  | some url =>
    let content : Http.Content := ⟨"application/json", Notification.batchText batch⟩
    match webhook.network.exchange url .post (some content) webhook.trace with
    | (.ok response, extended) => (verdict response, { webhook with trace := extended })
    | (.error fault, extended) => (.error (.transfer fault), { webhook with trace := extended })

end Webhook

instance : Sender Webhook where
  name _ := "http"
  send := Webhook.send

end FriendGraph
