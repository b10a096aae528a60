import Mathlib.Data.List.Forall2
import FriendGraph.Decimal
import FriendGraph.Notification.Webhook
import FriendGraph.Proofs.Hops
import FriendGraph.Proofs.Written

/-! # What a notification carries

The content of a notification and the body of a posted batch are JSON that reads as what was put in
and as nothing more, whatever handle or external account somebody has chosen
(`Notification.payloads_read_back`). What is posted is judged by what is read from it
(`Notification.IsRecordOf`): nine members, with the texts, the flag and numerals of the numbers of a
notification. The content is a text inside a JSON text, so its quotes are escaped twice; who reads
the record gets back the text in which they are escaped once.
-/

namespace FriendGraph

/-! ## Numerals -/

/-- The digits of a number are read as that number. -/
theorem readDigits?_toDigits (n : Nat) : readDigits? (Nat.toDigits 10 n) = some n := by
  have digits : (Nat.toDigits 10 n).all Char.isDigit = true :=
    List.all_eq_true.mpr fun _ => Json.isDigit_of_mem_numeral
  have value : digitsValue (Nat.toDigits 10 n) = n := by
    rw [digitsValue]
    simpa only [Nat.ofDigitChars_eq_foldl, Nat.mul_comm 10] using
      Nat.ofDigitChars_toDigits (n := n) (b := 10) (by decide) (Nat.le_refl 10)
  rw [readDigits?, List.isEmpty_eq_false_iff.mpr Nat.toDigits_ne_nil, digits, value]
  rfl

/-- The numeral of an integer reads as the integer. -/
theorem readInt?_toString (value : Int) : readInt? (toString value) = some value := by
  rw [readInt?]
  rcases Json.toString_cases value with ⟨positive, shape⟩ | ⟨negative, shape⟩
  · have unsigned : ∀ c rest, Nat.toDigits 10 value.toNat = c :: rest → c.isDigit = true :=
      fun c rest same => Json.isDigit_of_mem_numeral (same ▸ List.mem_cons_self)
    rw [shape]
    split
    · next same => exact absurd (unsigned _ _ same) (by decide)
    · next same => exact absurd (unsigned _ _ same) (by decide)
    · rw [readDigits?_toDigits]
      exact congrArg some (Int.toNat_of_nonneg positive)
  · simp only [shape, readDigits?_toDigits]
    change some (-((-value).toNat : Int)) = some value
    exact congrArg some (by omega)

/-! ## Records -/

namespace Notification

/-- A value records a notification: it is an object with nine members, the texts and the flag of the
notification and numerals of its numbers. -/
def IsRecordOf (notification : Notification) (record : Json) : Prop :=
  ∃ code createdAt expiresAt : List Char,
    record = .object
      [(some "id", .string (some notification.id)),
        (some "user_id", .string (some notification.recipient.text)),
        (some "sender_id", .string (some notification.sender.text)),
        (some "subject", .string (some notification.subject)),
        (some "content", .string (some notification.content)),
        (some "code", .number code),
        (some "created_at", .number createdAt),
        (some "expires_at", .number expiresAt),
        (some "persistent", .bool notification.persistent)] ∧
      readInt? (String.ofList code) = some notification.kind.code ∧
      readInt? (String.ofList createdAt) = some notification.createdAt ∧
      readInt? (String.ofList expiresAt) = some notification.expiresAt

/-- A text posts a batch: it is a JSON array that records the notifications one by one. -/
def IsPostOf (batch : List Notification) (body : String) : Prop :=
  ∃ records, Json.parse? body = some (.array records) ∧ List.Forall₂ IsRecordOf batch records

end Notification

namespace Json

/-- An object of texts. -/
def ofTexts (texts : List (String × String)) : Json :=
  ofMembers (texts.map fun entry => (entry.1, ofString entry.2))

/-- An object of texts is written. -/
theorem written_ofTexts (texts : List (String × String)) : Written (ofTexts texts) := by
  refine Written.ofMembers fun member mem => ?_
  obtain ⟨entry, _, rfl⟩ := List.mem_map.mp mem
  exact .text entry.2

/-- The members of an object of texts are the texts. -/
theorem ofTexts_eq (texts : List (String × String)) :
    ofTexts texts = object (texts.map fun entry => (some entry.1, string (some entry.2))) := by
  rw [ofTexts, ofMembers, List.map_map]
  rfl

/-- Different texts make different objects, and these have different texts. -/
theorem text_ofTexts_eq_iff {texts others : List (String × String)} :
    (ofTexts texts).text = (ofTexts others).text ↔ texts = others := by
  refine ⟨fun same => ?_, fun same => by rw [same]⟩
  have objects := eq_of_text_eq (written_ofTexts texts) (written_ofTexts others) same
  rw [ofTexts_eq, ofTexts_eq, object.injEq] at objects
  refine List.map_inj_right (fun entry other sameMember => ?_) |>.mp objects
  simp only [Prod.mk.injEq, Option.some.injEq, string.injEq] at sameMember
  exact Prod.ext sameMember.1 sameMember.2

end Json

namespace Notification

/-- The record of a notification is written. -/
theorem written_toJson (notification : Notification) : notification.toJson.Written := by
  refine Json.Written.ofMembers ?_
  simp only [List.forall_mem_cons, List.not_mem_nil, false_imp_iff, implies_true, and_true]
  exact ⟨.text _, .text _, .text _, .text _, .text _, .integer _, .integer _, .integer _, .bool _⟩

/-- The record of a notification holds its nine members. -/
theorem isRecordOf_toJson (notification : Notification) :
    notification.IsRecordOf notification.toJson := by
  refine ⟨(toString notification.kind.code).toList, (toString notification.createdAt).toList,
    (toString notification.expiresAt).toList, rfl, ?_, ?_, ?_⟩ <;>
  rw [String.ofList_toList, readInt?_toString]

/-- The text that a batch is posted as records its notifications. -/
theorem isPostOf_batchText (batch : List Notification) : IsPostOf batch (batchText batch) := by
  have written : Json.Written (.array (batch.map toJson)) := by
    refine .array _ fun record mem => ?_
    obtain ⟨notification, _, rfl⟩ := List.mem_map.mp mem
    exact written_toJson notification
  refine ⟨batch.map toJson, Json.parse?_text written, ?_⟩
  rw [List.forall₂_map_right_iff, List.forall₂_same]
  exact fun notification _ => isRecordOf_toJson notification

theorem content_added (occasion : Occasion) (lifetime : Int) (caller : Caller)
    (recipient : UserId) :
    (added occasion lifetime caller recipient).content =
      (Json.ofTexts [("handle", caller.handle)]).text := rfl

/-- The content of everybody who is told of a join holds the account and the handle. -/
theorem content_of_mem_joined {occasion : Occasion} {lifetime : Int} {caller : Caller}
    {externalId : String} {recipients : List UserId} {notification : Notification}
    (told : notification ∈ joined occasion lifetime caller externalId recipients) :
    notification.content =
      (Json.ofTexts [("facebook_id", externalId), ("handle", caller.handle)]).text := by
  obtain ⟨index, bound, rfl⟩ := List.mem_mapIdx.mp told
  rfl

end Notification

namespace Webhook

open Http (Askable Errand Hop Journey Trace)

variable {webhook : Webhook} {url : Url}

/-- The errand of posting a text to a URL. -/
def errand (url : Url) (body : String) : Errand := ⟨url, .post, some ⟨"application/json", body⟩⟩

/-- Wherever a post is sent on to, it stays the post of the same text or becomes a request without
content. -/
theorem posts_or_gets {network : Http.Network} {body : String} {number : Nat} {journey : Journey}
    (made : journey.IsMade network Http.redirectLimit ⟨errand url body, number⟩) :
    ∀ hop ∈ journey.hops, hop.errand.method = .post ∧
        hop.errand.content = some ⟨"application/json", body⟩ ∨
      hop.errand.method = .get ∧ hop.errand.content = none := by
  refine made.forall_errand
    (fun errand => errand.method = .post ∧
      errand.content = some ⟨"application/json", body⟩ ∨
        errand.method = .get ∧ errand.content = none) (.inl ⟨rfl, rfl⟩) ?_
  intro errand status location kept
  rw [Errand.redirected]
  split
  · exact kept
  · exact .inr ⟨rfl, rfl⟩

/-- A delivery to a URL that can be asked for posts the text of its batch, and after that only what
the answers send it on with. -/
theorem exists_send_trace (batch : List Notification)
    (named : Url.parse? webhook.endpoint = some url) (askable : Askable url) :
    let first : Hop := ⟨errand url (Notification.batchText batch), webhook.trace.length⟩
    ∃ later : Trace,
      (send batch webhook).2.trace = webhook.trace ++ first.seen? webhook.network :: later ∧
        (∀ request ∈ later.requests,
          request.method = .post ∧
              request.content = some ⟨"application/json", Notification.batchText batch⟩ ∨
            request.method = .get ∧ request.content = none) ∧
        (first.next? webhook.network = none → later = []) := by
  intro first
  obtain ⟨journey, made⟩ := Journey.exists_isMade webhook.network Http.redirectLimit first
  have sent : (send batch webhook).2.trace = webhook.trace ++ journey.trace webhook.network := by
    rw [send, named]
    dsimp only
    rw [webhook.network.exchange_of_isMade askable made]
    cases journey.outcome webhook.network Http.redirectLimit <;> rfl
  obtain ⟨further, hops⟩ : ∃ further, journey.hops = first :: further :=
    List.head?_eq_some_iff.mp made.starts
  refine ⟨further.map (·.seen? webhook.network), ?_, ?_, ?_⟩
  · rw [sent, Journey.trace, hops, List.map_cons]
  · intro request seen
    obtain ⟨hop, member, rfl⟩ := Trace.exists_of_mem_requests seen
    exact posts_or_gets made hop (hops ▸ List.mem_cons_of_mem _ member)
  · intro final
    have alone := hops.symm.trans (made.hops_of_final final)
    rw [(List.cons.inj alone).2, List.map_nil]

/-- Nothing is posted to what cannot be asked for. -/
theorem send_of_not_askable (batch : List Notification)
    (unaskable : ∀ url, Url.parse? webhook.endpoint = some url → ¬Askable url) :
    (send batch webhook).2 = webhook := by
  rw [send]
  cases named : Url.parse? webhook.endpoint with
  | none => rfl
  | some url =>
    dsimp only
    rw [webhook.network.exchange_of_not_askable (unaskable url named)]

end Webhook

namespace Notification

/-- **What is put into a notification is what is read from it.** The content of a notification is a
JSON object with the handle, and for a caller who joined with the external account before it, and
with nothing else; so contents are the same only if handle and account are. Every batch is posted as
a JSON array that records its notifications one by one, each with its nine members and with its
content as it is. No handle and no account makes a difference to that. The post is made once to
every endpoint that can be asked for; where the answer sends it on, it is made there as it is, or
only what is there is asked for. -/
theorem payloads_read_back (occasion later : Occasion) (lifetime extended : Int)
    (caller rival : Caller) (externalId otherId : String) (recipients others : List UserId) :
    (∀ recipient, Json.parse? (added occasion lifetime caller recipient).content =
      some (.object [(some "handle", .string (some caller.handle))])) ∧
    List.Forall₂
      (fun recipient notification => notification.recipient = recipient ∧
        Json.parse? notification.content =
          some (.object [(some "facebook_id", .string (some externalId)),
            (some "handle", .string (some caller.handle))]))
      recipients (joined occasion lifetime caller externalId recipients) ∧
    (∀ batch, IsPostOf batch (batchText batch)) ∧
    (∀ batch webhook,
      (∀ url, Url.parse? webhook.endpoint = some url → Http.Askable url →
        ∃ body later, IsPostOf batch body ∧
          let post : Http.Errand := ⟨url, .post, some ⟨"application/json", body⟩⟩
          let first : Http.Hop := ⟨post, webhook.trace.length⟩
          (Webhook.send batch webhook).2.trace =
              webhook.trace ++ first.seen? webhook.network :: later ∧
            (∀ request ∈ Http.Trace.requests later,
              request.method = .post ∧ request.content = post.content ∨
                request.method = .get ∧ request.content = none) ∧
            (first.next? webhook.network = none → later = [])) ∧
      ((∀ url, Url.parse? webhook.endpoint = some url → ¬Http.Askable url) →
        (Webhook.send batch webhook).2 = webhook)) ∧
    (∀ recipient other, (added occasion lifetime caller recipient).content =
      (added later extended rival other).content ↔ caller.handle = rival.handle) ∧
    ∀ notification ∈ joined occasion lifetime caller externalId recipients,
      ∀ other ∈ joined later extended rival otherId others,
        notification.content = other.content ↔
          externalId = otherId ∧ caller.handle = rival.handle := by
  refine ⟨fun recipient => ?_, ?_, isPostOf_batchText, ?_, ?_, ?_⟩
  · rw [content_added, Json.parse?_text (Json.written_ofTexts _), Json.ofTexts_eq]
    rfl
  · refine List.forall₂_iff_get.mpr ⟨List.length_mapIdx.symm, fun index _ bound => ⟨?_, ?_⟩⟩
    · simp only [joined, List.get_eq_getElem, List.getElem_mapIdx]
    · rw [content_of_mem_joined (List.get_mem _ _), Json.parse?_text (Json.written_ofTexts _),
        Json.ofTexts_eq]
      rfl
  · intro batch webhook
    refine ⟨fun url named askable => ?_, Webhook.send_of_not_askable batch⟩
    obtain ⟨later, sent⟩ := Webhook.exists_send_trace batch named askable
    exact ⟨batchText batch, later, isPostOf_batchText batch, sent⟩
  · intro recipient other
    rw [content_added, content_added, Json.text_ofTexts_eq_iff]
    simp only [List.cons.injEq, Prod.mk.injEq, true_and, and_true]
  · intro notification told other otherTold
    rw [content_of_mem_joined told, content_of_mem_joined otherTold, Json.text_ofTexts_eq_iff]
    simp only [List.cons.injEq, Prod.mk.injEq, true_and, and_true]

/-- A caller whose handle would end its string, add a member and break the line. -/
def forger : Caller where
  id := ⟨List.replicate 16 7, List.length_replicate⟩
  handle := "\",\"code\":\"9\\\n"

/-- The moment at which nothing has happened. -/
def dawn : Occasion := ⟨0, toString⟩

/-- The forged handle is read as it is, and moving a part of it into the account is no way to get
the content of another notification. -/
theorem payloads_read_back_forger :
    Json.parse? (added dawn 0 forger forger.id).content =
        some (.object [(some "handle", .string (some "\",\"code\":\"9\\\n"))]) ∧
      ∃ notification ∈ joined dawn 0 forger "7" [forger.id],
        ∃ other ∈ joined dawn 0 ⟨forger.id, "9\\\n"⟩ "7\",\"handle\":\"" [forger.id],
          notification.content ≠ other.content := by
  obtain ⟨read, _, _, _, _, differ⟩ := payloads_read_back dawn dawn 0 0 forger
    ⟨forger.id, "9\\\n"⟩ "7" "7\",\"handle\":\"" [forger.id] [forger.id]
  refine ⟨read forger.id, _, List.mem_singleton_self _, _, List.mem_singleton_self _, ?_⟩
  rw [ne_eq, differ _ (List.mem_singleton_self _) _ (List.mem_singleton_self _)]
  decide

end Notification

end FriendGraph
