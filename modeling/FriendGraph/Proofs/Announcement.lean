import FriendGraph.Notification.Queue
import FriendGraph.Proofs.Blocking
import FriendGraph.Proofs.Import
import FriendGraph.Session

/-! # What is announced, and to whom

A call does two things: it acts on the database, which alone decides the outcome, and it hands the
notifications of that outcome to the sender (`Service.serve_eq`). So nothing that becomes of a
delivery reaches a later call. What is handed over is read off the edges: two users are *united*
by a call when they shared no edge before it and have both edges after it, and a call tells
exactly those whom it united with its caller, each of them once and in the order of the new edges
(`Service.announced_serve`).
-/

namespace FriendGraph

open Relationship (Between Strange)

/-- What is made of an answer is made of the outcome, and the database is left alike. -/
theorem Action.map_run {Error Answer Next : Type} (next : Answer → Next)
    (action : Action Error Answer) (database : Database) :
    (next <$> action) database = ((action database).1.map next, (action database).2) := by
  change Action.bind action (fun answer => pure (next answer)) database = _
  unfold Action.bind
  cases action database with
  | mk outcome after => cases outcome <;> rfl

/-! ## Calls as actions -/

namespace Call

/-- The outcome of connecting a user with the caller. -/
def added (call : Call) (target : UserId) (isNew : Bool) : Outcome :=
  let notifications :=
    if isNew then [Notification.added call.occasion call.terms.lifetime call.caller target] else []
  .added target isNew notifications (!notifications.isEmpty)

/-- The outcome of connecting contacts with the caller. -/
def joined (call : Call) (externalId : String) (connected : List UserId) : Outcome :=
  let notifications :=
    Notification.joined call.occasion call.terms.lifetime call.caller externalId connected
  .imported connected notifications (!notifications.isEmpty)

/-- What a call does to the database, and its outcome, whoever delivers notifications. -/
def act (call : Call) : Action RelationshipError Outcome :=
  match call.operation with
  | .add target =>
    call.added target <$>
      Relationship.add call.terms.budget call.caller target call.occasion.time
  | .addByHandle handle =>
    (fun connected => call.added connected.1 connected.2) <$>
      Relationship.addByHandle call.terms.budget call.caller handle call.occasion.time
  | .remove target =>
    (fun _ => .done) <$>
      Relationship.remove call.terms.budget call.caller target call.occasion.time
  | .block target =>
    (fun _ => .done) <$>
      Relationship.block call.terms.budget call.caller target call.occasion.time
  | .list => .friends <$> Relationship.list call.caller.id
  | .importContacts externalId fetched =>
    call.joined externalId <$>
      Relationship.importContacts call.terms.budget call.caller fetched call.occasion.time

end Call

namespace Service

variable {State : Type} [Sender State]

/-- A change answers with its outcome and tells of the notifications in it. -/
theorem change_eq {Answer : Type} {action : Action RelationshipError Answer}
    {next : Answer → Service State → Outcome × Service State} {outcome : Answer → Outcome}
    (tells : ∀ answer later, next answer later =
      (outcome answer,
        { later with sender := (dispatch (outcome answer).notifications later.sender).2 }))
    (service : Service State) :
    service.change action next =
      (((outcome <$> action) service.database).1,
        ⟨((outcome <$> action) service.database).2,
          (dispatch (told ((outcome <$> action) service.database).1) service.sender).2⟩) := by
  rw [Action.map_run]
  unfold change
  cases action service.database with
  | mk result after =>
    cases result with
    | error error => rfl
    | ok answer =>
      simp only [tells]
      rfl

/-- A call acts on the database, and what it tells is dispatched. -/
theorem serve_eq (call : Call) (service : Service State) :
    service.serve call =
      ((call.act service.database).1,
        ⟨(call.act service.database).2,
          (dispatch (told (call.act service.database).1) service.sender).2⟩) := by
  obtain ⟨terms, occasion, caller, operation⟩ := call
  have added : ∀ (target : UserId) (isNew : Bool) (later : Service State),
      announceAdded terms occasion caller target isNew later =
        (Call.added ⟨terms, occasion, caller, operation⟩ target isNew,
          { later with sender := (dispatch
            (Call.added ⟨terms, occasion, caller, operation⟩ target isNew).notifications
              later.sender).2 }) := by
    intro target isNew later
    simp only [announceAdded, notify, dispatch_fst]
    rfl
  cases operation with
  | add target => exact change_eq (added target) service
  | addByHandle handle => exact change_eq (fun connected => added connected.1 connected.2) service
  | remove target => exact change_eq (fun _ _ => rfl) service
  | block target => exact change_eq (fun _ _ => rfl) service
  | list => exact change_eq (fun _ _ => rfl) service
  | importContacts externalId fetched =>
    refine change_eq (fun connected later => ?_) service
    simp only [announceJoined, notify, dispatch_fst]
    rfl

end Service

/-! ## Steps -/

/-- A step in the life of a service: a call, or a request of a session, which is answered. -/
inductive Step where
  | call (call : Call)
  | request (terms : Terms) (occasion : Occasion) (source : ContactSource) (caller : Caller)
      (request : Request)

/-- What comes back from a step. -/
inductive Reply where
  | outcome (outcome : Except RelationshipError Outcome)
  | responses (responses : List Response)

/-- The call that a step makes; a request that is refused makes none. -/
def Step.call? : Step → Option Call
  | .call asked => some asked
  | .request terms occasion source caller asked =>
    match Session.operation source asked with
    | .ok operation => some ⟨terms, occasion, caller, operation⟩
    | .error _ => none

/-- The code of the notifications that an operation can come with. -/
def Operation.noticeCode? : Operation → Option Int
  | add _ => some 3
  | addByHandle _ => some 3
  | importContacts _ _ => some 6
  | remove _ => none
  | block _ => none
  | list => none

namespace Service

variable {State : Type} [Sender State]

/-- Take a step. -/
def take (step : Step) (service : Service State) : Reply × Service State :=
  match step with
  | .call call => (.outcome (service.serve call).1, (service.serve call).2)
  | .request terms occasion source caller request =>
    let answered := Session.answer terms occasion source caller request service
    (.responses answered.1, answered.2)

/-- The service after several steps. -/
def takeAll (steps : List Step) (service : Service State) : Service State :=
  steps.foldl (fun service step => (service.take step).2) service

/-- The notifications that come of a step. -/
def tells (step : Step) (service : Service State) : List Notification :=
  step.call?.elim [] fun call => told (service.serve call).1

/-- Of a step only its call makes a difference to the service. -/
theorem take_snd (step : Step) (service : Service State) :
    (service.take step).2 = step.call?.elim service fun call => (service.serve call).2 := by
  cases step with
  | call call => rfl
  | request terms occasion source caller request =>
    simp only [take, Session.answer, Step.call?]
    cases Session.operation source request with
    | error cause => rfl
    | ok operation =>
      dsimp only [Option.elim_some]
      cases Session.failedOperation? request <;> rfl

/-- The sender gets what the step tells of. -/
theorem sender_take (step : Step) (service : Service State) :
    (service.take step).2.sender = (dispatch (service.tells step) service.sender).2 := by
  rw [take_snd, tells]
  cases step.call? with
  | none => rfl
  | some call => exact sender_serve call service

/-- What is told is no different from one sender to another, and neither is what is kept. -/
theorem take_congr {First Second : Type} [Sender First] [Sender Second] {first : Service First}
    {second : Service Second} (same : first.database = second.database) (step : Step) :
    (first.take step).1 = (second.take step).1 ∧
      (first.take step).2.database = (second.take step).2.database := by
  have served : ∀ call, (first.serve call).1 = (second.serve call).1 ∧
      (first.serve call).2.database = (second.serve call).2.database := by
    intro call
    rw [serve_eq, serve_eq, same]
    exact ⟨rfl, rfl⟩
  cases step with
  | call call => exact ⟨congrArg Reply.outcome (served call).1, (served call).2⟩
  | request terms occasion source caller request =>
    simp only [take, Session.answer]
    cases Session.operation source request with
    | error cause => exact ⟨rfl, same⟩
    | ok operation =>
      obtain ⟨outcome, database⟩ := served ⟨terms, occasion, caller, operation⟩
      simp only [serve] at outcome database
      cases Session.failedOperation? request with
      | none => exact ⟨rfl, database⟩
      | some failed => exact ⟨by simp only [outcome], database⟩

/-- Who delivers does not matter for the databases of a run. -/
theorem database_takeAll_congr {First Second : Type} [Sender First] [Sender Second]
    {first : Service First} {second : Service Second} (same : first.database = second.database)
    (steps : List Step) : (first.takeAll steps).database = (second.takeAll steps).database := by
  induction steps generalizing first second with
  | nil => exact same
  | cons step rest inductionHypothesis => exact inductionHypothesis (take_congr same step).2

end Service

/-- A recorder that accepts has recorded the batch. -/
theorem Recorder.delivered_dispatch (batch : List Notification) {recorder : Recorder}
    (accepts : recorder.refuses = false) :
    (dispatch batch recorder).2.delivered = recorder.delivered ++ batch := by
  cases batch with
  | nil => rw [dispatch_nil, List.append_nil]
  | cons notification rest =>
    have sent : Recorder.send (notification :: rest) recorder =
        (.ok (), { recorder with batches := recorder.batches ++ [notification :: rest] }) := by
      rw [Recorder.send, accepts]
      rfl
    change (Recorder.send (notification :: rest) recorder).2.delivered = _
    rw [sent, Recorder.delivered, Recorder.delivered, List.flatten_append, List.flatten_singleton]

/-- Everybody who is told is told once, in their order. -/
theorem Notification.map_recipient_joined (occasion : Occasion) (lifetime : Int) (caller : Caller)
    (externalId : String) (recipients : List UserId) :
    (Notification.joined occasion lifetime caller externalId recipients).map (·.recipient) =
      recipients := by
  apply List.ext_getElem
  · simp [Notification.joined]
  · simp [Notification.joined]

/-! ## United users -/

namespace Database

variable {before after : Database} {user one other : StoredId}

/-- Two users who shared no edge before have both edges after. -/
def Unites (before after : Database) (one other : StoredId) : Prop :=
  before.edge? one other = none ∧ before.edge? other one = none ∧
    (after.edge? one other).isSome ∧ (after.edge? other one).isSome

instance : Decidable (before.Unites after one other) :=
  inferInstanceAs (Decidable (_ ∧ _ ∧ _ ∧ _))

/-- Those with whom a user was united, in the order of the edges to them. -/
def united (before after : Database) (user : StoredId) : List StoredId :=
  ((after.edgeRows.filter (·.source = user)).map (·.destination)).filter
    (before.Unites after user ·)

/-- Nobody is united with a user whom nothing unites. -/
theorem united_eq_nil (apart : ∀ other, ¬before.Unites after user other) :
    before.united after user = [] := by
  rw [united, List.filter_eq_nil_iff]
  intro other _ unites
  exact apart other (of_decide_eq_true unites)

/-- New edges between a user and others unite the user with them, in this order. -/
theorem united_of_pairs {user : UserId} {peers : List UserId} {time : Int} (other : user ∉ peers)
    (rows : after.edgeRows = before.edgeRows ++ Store.pairs user peers time)
    (unites : ∀ peer ∈ peers, before.Unites after user.bytes peer.bytes) :
    before.united after user.bytes = peers.map UserId.bytes := by
  have old : (((before.edgeRows.filter (·.source = user.bytes)).map (·.destination)).filter
      (before.Unites after user.bytes ·)) = [] := by
    rw [List.filter_eq_nil_iff]
    intro destination member united
    obtain ⟨row, leaves, rfl⟩ := List.mem_map.mp member
    obtain ⟨stored, source⟩ := List.mem_filter.mp leaves
    have found := edge?_eq_some_iff.mpr ⟨stored, of_decide_eq_true source, rfl⟩
    cases found.symm.trans (of_decide_eq_true united).1
  have new : ((peers.map (EdgeRow.connected user · time)).map (·.destination)) =
      peers.map UserId.bytes := by
    rw [List.map_map]
    rfl
  rw [united, rows, List.filter_append, List.map_append, List.filter_append, old, List.nil_append,
    Relationship.filter_pairs_self other, new, List.filter_eq_self]
  intro destination member
  obtain ⟨peer, listed, rfl⟩ := List.mem_map.mp member
  exact decide_eq_true (unites peer listed)

/-- Nobody is united by what makes no edge. -/
theorem not_unites (shrinks : ∀ source destination, (after.edge? source destination).isSome →
    (before.edge? source destination).isSome) (one other : StoredId) :
    ¬before.Unites after one other := by
  intro unites
  have isThere := shrinks one other unites.2.2.1
  rw [unites.1] at isThere
  cases isThere

end Database

/-- A batch announces what a call has done: it tells those whom the call united with its caller,
each of them once, in the order of the edges to them and with the time of these edges. -/
structure Announced (call : Call) (before after : Database) (batch : List Notification) :
    Prop where
  recipients : batch.map (·.recipient.bytes) = before.united after call.caller.id.bytes
  once : (batch.map (·.recipient)).Nodup
  parties : ∀ one other, before.Unites after one other →
    one = call.caller.id.bytes ∨ other = call.caller.id.bytes
  sender : ∀ notification ∈ batch, notification.sender = call.caller.id
  code : ∀ notification ∈ batch, call.operation.noticeCode? = some notification.kind.code
  /-- The lifetime is added in 64 bits. -/
  expiry : ∀ notification ∈ batch, notification.expiresAt =
    (Int64.ofInt notification.createdAt + Int64.ofInt call.terms.lifetime).toInt
  /-- A sum of 64 bits is the sum. -/
  sum : ∀ notification ∈ batch,
    Int64.minValue.toInt ≤ notification.createdAt + call.terms.lifetime →
      notification.createdAt + call.terms.lifetime ≤ Int64.maxValue.toInt →
        notification.expiresAt = notification.createdAt + call.terms.lifetime
  edges : ∀ notification ∈ batch, ∃ forth back,
    after.edge? call.caller.id.bytes notification.recipient.bytes = some forth ∧
      after.edge? notification.recipient.bytes call.caller.id.bytes = some back ∧
      forth.position = notification.createdAt ∧ back.position = notification.createdAt

namespace Announced

variable {call : Call} {before after : Database} {peers : List UserId}
  {batch : List Notification}

/-- Silence is right where nobody is united. -/
theorem silence (apart : ∀ one other, ¬before.Unites after one other) :
    Announced call before after [] where
  recipients := (Database.united_eq_nil (apart _)).symm
  once := List.nodup_nil
  parties one other unites := absurd unites (apart one other)
  sender _ member := nomatch member
  code _ member := nomatch member
  expiry _ member := nomatch member
  sum _ member := nomatch member
  edges _ member := nomatch member

/-- A batch is right where the caller was united with peers by new edges. -/
theorem of_pairs {time : Int} (other : call.caller.id ∉ peers) (distinct : peers.Nodup)
    (rows : after.edgeRows = before.edgeRows ++ Store.pairs call.caller.id peers time)
    (joins : ∀ source destination, after.edge? source destination =
      (before.edge? source destination).or
        (if Between call.caller.id peers source destination then
          some (Relationship.madeAt time source destination) else none))
    (new : ∀ source destination, Between call.caller.id peers source destination →
      before.edge? source destination = none)
    (told : batch.map (·.recipient) = peers)
    (written : ∀ notification ∈ batch, notification.sender = call.caller.id ∧
      call.operation.noticeCode? = some notification.kind.code ∧
      notification.createdAt = time ∧
      notification.expiresAt = Notification.expiry time call.terms.lifetime) :
    Announced call before after batch := by
  have made : ∀ source destination, Between call.caller.id peers source destination →
      after.edge? source destination = some (Relationship.madeAt time source destination) := by
    intro source destination between
    rw [joins, new source destination between, if_pos between, Option.none_or]
  have forth : ∀ peer ∈ peers, Between call.caller.id peers call.caller.id.bytes peer.bytes :=
    fun peer member => .inl ⟨rfl, peer, member, rfl⟩
  have unites : ∀ peer ∈ peers, before.Unites after call.caller.id.bytes peer.bytes := by
    intro peer member
    have between := forth peer member
    refine ⟨new _ _ between, new _ _ between.symm, ?_, ?_⟩
    · rw [made _ _ between]
      rfl
    · rw [made _ _ between.symm]
      rfl
  have recipient : ∀ notification ∈ batch, notification.recipient ∈ peers := by
    intro notification member
    rw [← told]
    exact List.mem_map_of_mem member
  constructor
  case recipients =>
    rw [Database.united_of_pairs other rows unites, ← told, List.map_map]
    rfl
  case once => rwa [told]
  case parties =>
    intro one another unites
    by_cases between : Between call.caller.id peers one another
    · exact between.imp And.left And.left
    · have isThere := unites.2.2.1
      rw [joins, unites.1, if_neg between] at isThere
      cases isThere
  case sender => exact fun notification member => (written notification member).1
  case code => exact fun notification member => (written notification member).2.1
  case expiry =>
    intro notification member
    rw [(written notification member).2.2.1]
    exact (written notification member).2.2.2
  case sum =>
    intro notification member least most
    obtain ⟨_, _, created, expires⟩ := written notification member
    rw [created] at least most ⊢
    rw [expires, Notification.expiry_of_fits least most]
  case edges =>
    intro notification member
    have between := forth _ (recipient notification member)
    have created := (written notification member).2.2.1
    exact ⟨_, _, made _ _ between, made _ _ between.symm, created.symm, created.symm⟩

end Announced

namespace Service

variable {State : Type} [Sender State]

/-- A call tells those whom it has united with its caller. -/
theorem announced_serve (call : Call) (service : Service State) :
    Announced call service.database (service.serve call).2.database
      (told (service.serve call).1) := by
  have outcome := served call service
  generalize (service.serve call).1 = result, (service.serve call).2 = later at outcome ⊢
  cases outcome with
  | failed error => exact .silence (Database.not_unites fun _ _ isThere => isThere)
  | removed target database asked different run =>
    refine .silence (Database.not_unites fun source destination isThere => ?_)
    rw [Relationship.edge?_disconnect different run] at isThere
    split at isThere
    · cases isThere
    · exact isThere
  | barred target database asked different run =>
    exact .silence (Database.not_unites fun _ _ => Relationship.edge?_of_edge?_bar different run)
  | listed friends asked => exact .silence (Database.not_unites fun _ _ isThere => isThere)
  | added target isNew database asked different run =>
    have coded : call.operation.noticeCode? = some 3 := by
      unfold Call.Adds at asked
      split at asked
      · next named same => rw [same, Operation.noticeCode?]
      · next handle same => rw [same, Operation.noticeCode?]
      · exact asked.elim
    have joins := Relationship.edge?_connect different run
    cases isNew with
    | false =>
      -- One of the two edges was there, so the two were not strangers.
      obtain ⟨_, edges, _, present, _, _, _, _, notNew, _⟩ :=
        (Relationship.connect_eq_ok_iff different).mp run
      refine .silence fun one other unites => ?_
      have isThere : (database.edge? one other).isSome := unites.2.2.1
      rw [joins, unites.1, Option.none_or] at isThere
      split at isThere
      · next between =>
        have absent : ∀ source destination, service.database.edge? source destination = none →
            edges.has (source, destination) = false := by
          intro source destination missing
          rw [Database.edge?_of_edges present] at missing
          rw [Table.has, missing]
          rfl
        have forth := absent _ _ unites.1
        have back := absent _ _ unites.2.1
        rcases Relationship.between_singleton_iff.mp between with ⟨rfl, rfl⟩ | ⟨rfl, rfl⟩ <;>
          simp [forth, back] at notNew
      · cases isThere
    | true =>
      obtain ⟨_, edges, _, present, _⟩ := (Relationship.connect_eq_ok_iff different).mp run
      have strange := Relationship.strange_of_connect different present run
      refine .of_pairs (fun member => different (List.mem_singleton.mp member))
        (List.pairwise_singleton _ target) (Relationship.edgeRows_connect different run) joins
        (fun source destination between => ?_) rfl ?_
      · rw [Database.edge?_of_edges present, ← Option.not_isSome_iff_eq_none, Bool.not_eq_true]
        rcases Relationship.between_singleton_iff.mp between with ⟨rfl, rfl⟩ | ⟨rfl, rfl⟩
        · exact strange.1
        · exact strange.2
      · intro notification member
        cases List.mem_singleton.mp member
        exact ⟨rfl, coded, rfl, rfl⟩
  | imported externalId contacts connected database asked run =>
    refine .of_pairs (Relationship.not_mem_of_connectNew run)
      (Relationship.nodup_of_connectNew run) (Relationship.edgeRows_connectNew run)
      (Relationship.edge?_connectNew run)
      (fun _ _ => Relationship.edge?_of_connectNew run) ?_ ?_
    · exact Notification.map_recipient_joined ..
    · intro notification member
      obtain ⟨index, inside, rfl⟩ := List.mem_mapIdx.mp member
      rw [asked]
      exact ⟨rfl, rfl, rfl, rfl⟩

/-- **Every friendship is announced once, and no delivery is ever felt.** A step hands exactly one
batch to the sender, the one that its outcome shows; it tells those whom the step's call united
with the caller, and is empty where the call fails or the request is refused. A sender that takes
everything has then got the batch. With other senders of any kind, every reply and every database
along a run are the same. -/
theorem friendships_are_announced_once :
    (∀ (steps : List Step) (service : Service State) (step : Step),
      let reached := service.takeAll steps
      let taken := reached.take step
      let batch := reached.tells step
      taken.2.sender = (dispatch batch reached.sender).2 ∧
        (∀ outcome, taken.1 = .outcome outcome → told outcome = batch) ∧
        (∀ call, step.call? = some call →
          Announced call reached.database taken.2.database batch ∧
            ∀ error, (reached.serve call).1 = .error error → batch = []) ∧
        (step.call? = none → taken.2 = reached ∧ batch = [])) ∧
      (∀ (steps : List Step) (service : Service Recorder) (step : Step),
        let reached := service.takeAll steps
        reached.sender.refuses = false →
          (reached.take step).2.sender.delivered =
            reached.sender.delivered ++ reached.tells step) ∧
      ∀ (First Second : Type) [Sender First] [Sender Second] (first : Service First)
        (second : Service Second), first.database = second.database →
          ∀ (steps : List Step) (step : Step),
            ((first.takeAll steps).take step).1 = ((second.takeAll steps).take step).1 ∧
              ((first.takeAll steps).take step).2.database =
                ((second.takeAll steps).take step).2.database := by
  refine ⟨?_, ?_, ?_⟩
  · intro steps service step reached taken batch
    refine ⟨sender_take step reached, ?_, ?_, ?_⟩
    · intro outcome replied
      cases step with
      | call call =>
        cases replied
        rfl
      | request terms occasion source caller request => cases replied
    · intro call made
      have served : taken.2 = (reached.serve call).2 := by
        refine (take_snd step reached).trans ?_
        rw [made]
        rfl
      have batched : batch = told (reached.serve call).1 := by
        change step.call?.elim [] _ = _
        rw [made]
        rfl
      rw [served, batched]
      refine ⟨announced_serve call reached, ?_⟩
      intro error failed
      rw [failed]
      rfl
    · intro refused
      constructor
      · refine (take_snd step reached).trans ?_
        rw [refused]
        rfl
      · change step.call?.elim [] _ = _
        rw [refused]
        rfl
  · intro steps service step reached accepts
    rw [sender_take]
    exact Recorder.delivered_dispatch _ accepts
  · intro First Second _ _ first second same steps step
    exact take_congr (database_takeAll_congr same steps) step

end Service

namespace Pair

/-- The first user asks in a session to add the second one. -/
def asking : Step :=
  .request ⟨budget, 7⟩ ⟨5, fun _ => ""⟩ (fun _ => .ok []) ⟨ada, "ada"⟩ (.addFriends [.id bob.bytes])

/-- The two users, with a queue that nobody receives from any more. -/
def unheard : Service Queue := ⟨strangers.database, (Queue.ofCapacity 1).close⟩

end Pair

namespace Service

/-- A session adds a stranger. What a recorder gets is lost on a queue that nobody receives from,
and neither shows in the reply. -/
theorem friendships_are_announced_once_pair :
    let told := Pair.strangers.tells Pair.asking
    let call := { Pair.call 5 (.add Pair.bob) with terms := ⟨⟨10, Nat.le_refl 10⟩, 7⟩ }
    told = [Notification.added call.occasion 7 call.caller Pair.bob] ∧
      Pair.asking.call? = some call ∧
      Announced call Pair.strangers.database (Pair.strangers.take Pair.asking).2.database told ∧
      Pair.strangers.sender.refuses = false ∧
      (Pair.strangers.take Pair.asking).2.sender.delivered = told ∧
      Pair.strangers.database = Pair.unheard.database ∧
      (Pair.unheard.take Pair.asking).2.sender.waiting = [] ∧
      (Pair.strangers.take Pair.asking).1 = (Pair.unheard.take Pair.asking).1 := by
  obtain ⟨announced, delivered, same⟩ := @friendships_are_announced_once Recorder _
  exact ⟨rfl, rfl, ((announced [] Pair.strangers Pair.asking).2.2.1 _ rfl).1, rfl,
    delivered [] Pair.strangers Pair.asking rfl, rfl, rfl,
    (same Recorder Queue Pair.strangers Pair.unheard rfl [] Pair.asking).1⟩

end Service

end FriendGraph
