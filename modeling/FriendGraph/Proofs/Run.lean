import FriendGraph.Proofs.Relationship
import FriendGraph.Service

/-! # Runs of a service

A call is an operation together with all that the service does not decide: who asks, under
which terms, and at what time. A run serves calls one after the other (`Service.serveAll`).

Whatever the database holds, serving a call either fails and leaves the whole service as it
was, or does one of five things, each of them one action on the database and what is told of
it afterwards (`Service.Served`). Every fact about runs is a case analysis of this
(`Service.served`), carried along the run (`Service.serveAll_induction`).
-/

namespace FriendGraph

/-- What a caller asks for, with the circumstances. -/
structure Call where
  terms : Terms
  occasion : Occasion
  caller : Caller
  operation : Operation

/-- The call asks to add a user, by identifier or by a handle that the user has. -/
def Call.Adds (call : Call) (users : Option Directory) (target : UserId) : Prop :=
  match call.operation with
  | .add named => named = target
  | .addByHandle handle => ∃ directory, users = some directory ∧
      (directory.withHandle? handle).map (·.id) = some target.bytes
  | _ => False

namespace Relationship

variable {budget : Budget} {caller : Caller} {target : UserId} {time : Int}
  {database after : Database}

/-- Refusing the caller as a target changes nothing. -/
theorem quiet_requireOther (caller : Caller) (target : UserId) (verb : Verb) :
    (requireOther caller target verb).Quiet := fun _ => rfl

/-- A target is let through exactly when it is somebody else. -/
theorem requireOther_eq_ok_iff {verb : Verb} {answer : Unit} :
    requireOther caller target verb database = (.ok answer, after) ↔
      caller.id ≠ target ∧ after = database := by
  unfold requireOther checkTarget
  by_cases same : target = caller.id
  · simp [same]
  · simp [same, Ne.symm same, eq_comm]

theorem allOrNothing_add (budget : Budget) (caller : Caller) (target : UserId) (time : Int) :
    (add budget caller target time).AllOrNothing :=
  .bind (quiet_requireOther caller target .add) fun _ => .atomically _

/-- Adding by handle leaves nothing behind when it fails. -/
theorem allOrNothing_addByHandle (budget : Budget) (caller : Caller) (handle : String)
    (time : Int) : (addByHandle budget caller handle time).AllOrNothing := by
  unfold addByHandle
  split
  · exact (Action.Quiet.fail _).allOrNothing
  · exact .atomically _

theorem allOrNothing_remove (budget : Budget) (caller : Caller) (target : UserId) (time : Int) :
    (remove budget caller target time).AllOrNothing :=
  .bind (quiet_requireOther caller target .remove) fun _ => .atomically _

theorem allOrNothing_block (budget : Budget) (caller : Caller) (target : UserId) (time : Int) :
    (block budget caller target time).AllOrNothing :=
  .bind (quiet_requireOther caller target .block) fun _ => .atomically _

theorem quiet_list (user : UserId) : (list user).Quiet :=
  (Store.quiet_listFriends user).mapError _

theorem allOrNothing_list (user : UserId) : (list user).AllOrNothing :=
  (quiet_list user).allOrNothing

/-- An import leaves nothing behind when it fails. -/
theorem allOrNothing_importContacts (budget : Budget) (caller : Caller)
    (fetched : Except ContactsError (List Contact)) (time : Int) :
    (importContacts budget caller fetched time).AllOrNothing := by
  unfold importContacts
  split
  · exact (Action.Quiet.fail _).allOrNothing
  · exact (Action.Quiet.pure _).allOrNothing
  · exact .atomically _

/-- What asks for another user first answers as the transaction after it does. -/
theorem bind_requireOther_eq_ok_iff {Answer : Type} {answer : Answer} {verb : Verb}
    {action : Action RelationshipError Answer} :
    (requireOther caller target verb >>= fun _ => action.atomically) database =
        (.ok answer, after) ↔
      caller.id ≠ target ∧ action database = (.ok answer, after) := by
  simp only [Action.bind_eq_ok_iff, requireOther_eq_ok_iff, Action.atomically_eq_ok_iff]
  constructor
  · rintro ⟨_, _, ⟨different, rfl⟩, run⟩
    exact ⟨different, run⟩
  · rintro ⟨different, run⟩
    exact ⟨(), _, ⟨different, rfl⟩, run⟩

/-- Adding is connecting with somebody else. -/
theorem add_eq_ok_iff {isNew : Bool} :
    add budget caller target time database = (.ok isNew, after) ↔
      caller.id ≠ target ∧
        connect budget caller.id target time database = (.ok isNew, after) :=
  bind_requireOther_eq_ok_iff

/-- Adding by handle is connecting with whoever else is registered under another handle. -/
theorem addByHandle_eq_ok_iff {handle : String} {isNew : Bool} :
    addByHandle budget caller handle time database = (.ok (target, isNew), after) ↔
      handle.isEmpty = false ∧ handle ≠ caller.handle ∧
        (∃ directory, database.users = some directory ∧
          (directory.withHandle? handle).map (·.id) = some target.bytes) ∧
        caller.id ≠ target ∧
        connect budget caller.id target time database = (.ok isNew, after) := by
  simp only [addByHandle, Action.ite_eq_ok_iff, Action.fail_ne_ok, and_false, false_or,
    Action.atomically_eq_ok_iff, connectHandle, Action.bind_eq_ok_iff, liftM_eq_ok_iff,
    Store.findHandle_eq_ok_iff, Bool.or_eq_true, decide_eq_true_eq, not_or, Bool.not_eq_true,
    and_assoc]
  refine and_congr_right fun _ => and_congr_right fun _ => ?_
  constructor
  · rintro ⟨found, _, ⟨directory, users, named, rfl⟩, further⟩
    cases found with
    | none => exact absurd further Action.fail_ne_ok
    | some id =>
      simp only [Action.bind_eq_ok_iff, requireOther_eq_ok_iff, Action.pure_eq_ok_iff] at further
      obtain ⟨_, _, ⟨different, rfl⟩, _, _, run, same, rfl⟩ := further
      obtain ⟨rfl, rfl⟩ := Prod.mk.inj same
      exact ⟨⟨directory, users, named.symm⟩, different, run⟩
  · rintro ⟨⟨directory, users, named⟩, different, run⟩
    refine ⟨some target, _, ⟨directory, users, named.symm, rfl⟩, ?_⟩
    simp only [Action.bind_eq_ok_iff, requireOther_eq_ok_iff, Action.pure_eq_ok_iff]
    exact ⟨(), _, ⟨different, rfl⟩, isNew, after, run, rfl, rfl⟩

/-- Removing is disconnecting from somebody else. -/
theorem remove_eq_ok_iff {answer : Unit} :
    remove budget caller target time database = (.ok answer, after) ↔
      caller.id ≠ target ∧
        disconnect budget caller.id target time database = (.ok answer, after) :=
  bind_requireOther_eq_ok_iff

/-- Blocking is barring somebody else. -/
theorem block_eq_ok_iff {answer : Unit} :
    block budget caller target time database = (.ok answer, after) ↔
      caller.id ≠ target ∧ bar budget caller.id target time database = (.ok answer, after) :=
  bind_requireOther_eq_ok_iff

/-- Without accounts nobody is connected. -/
theorem connectNew_nil (user : UserId) :
    connectNew budget user [] time = pure [] := by
  funext database
  have plan : Store.lookupPlan budget [] = [] := by
    unfold Store.lookupPlan
    rw [Store.chunks_eq_nil_iff.mpr rfl]
    rfl
  have nobody : Store.lookupAccounts budget [] database = (.ok [], database) := by
    unfold Store.lookupAccounts
    rw [plan]
    rfl
  exact connectNew_eq_ok_iff.mpr ⟨[], [], nobody, relatedPeers_nil, rfl, .inl ⟨rfl, rfl⟩⟩

/-- An import connects newcomers with the accounts that were fetched. -/
theorem importContacts_eq_ok_iff {fetched : Except ContactsError (List Contact)}
    {peers : List UserId} :
    importContacts budget caller fetched time database = (.ok peers, after) ↔
      ∃ contacts, fetched = .ok contacts ∧
        connectNew budget caller.id (contacts.map (·.id)) time database = (.ok peers, after) := by
  unfold importContacts
  split
  · simp
  · simp only [Except.ok.injEq, exists_eq_left', List.map_nil, connectNew_nil]
  · simp only [Action.atomically_eq_ok_iff, Except.ok.injEq, exists_eq_left']

end Relationship

namespace Service

variable {State : Type} {call : Call} {service : Service State}

/-- After a success the change is kept and told of. -/
theorem change_of_ok {Answer : Type} {action : Action RelationshipError Answer}
    {next : Answer → Service State → Outcome × Service State} {answer : Answer}
    {database : Database} (run : action service.database = (.ok answer, database)) :
    service.change action next =
      (.ok (next answer { service with database := database }).1,
        (next answer { service with database := database }).2) := by
  unfold change
  rw [run]

/-- Whatever holds of a failure that changes nothing and of every success holds of a change. -/
theorem change_cases {Answer : Type} {action : Action RelationshipError Answer}
    {next : Answer → Service State → Outcome × Service State}
    {holds : Except RelationshipError Outcome → Service State → Prop}
    (allOrNothing : action.AllOrNothing) (failed : ∀ error, holds (.error error) service)
    (finished : ∀ answer database, action service.database = (.ok answer, database) →
      holds (.ok (next answer { service with database := database }).1)
        (next answer { service with database := database }).2) :
    holds (service.change action next).1 (service.change action next).2 := by
  unfold change
  split
  · next answer database run => exact finished answer database run
  · next error database run =>
    cases allOrNothing run
    exact failed error

variable [Sender State]

/-- Serve a call. -/
def serve (call : Call) (service : Service State) :
    Except RelationshipError Outcome × Service State :=
  service.perform call.terms call.occasion call.caller call.operation

/-- The service after calls were served one after the other, whether they succeeded or not. -/
def serveAll (calls : List Call) (service : Service State) : Service State :=
  calls.foldl (fun service call => (service.serve call).2) service

@[simp] theorem serveAll_nil (service : Service State) : service.serveAll [] = service := rfl

@[simp] theorem serveAll_cons (call : Call) (calls : List Call) (service : Service State) :
    service.serveAll (call :: calls) = (service.serve call).2.serveAll calls := rfl

/-- What holds at the start and is kept by every call of a run holds after the run. -/
theorem serveAll_induction (holds : Service State → Prop) {calls : List Call}
    (keeps : ∀ call ∈ calls, ∀ service, holds service → holds (service.serve call).2)
    (start : holds service) : holds (service.serveAll calls) := by
  induction calls generalizing service with
  | nil => exact start
  | cons call rest inductionHypothesis =>
    exact inductionHypothesis (fun later member => keeps later (List.mem_cons_of_mem call member))
      (keeps call List.mem_cons_self service start)

/-- What can come of a call: the outcome, and the service afterwards. -/
inductive Served (call : Call) (service : Service State) :
    Except RelationshipError Outcome → Service State → Prop
  | failed (error : RelationshipError) : Served call service (.error error) service
  | added (target : UserId) (isNew : Bool) (database : Database)
      (asked : call.Adds service.database.users target)
      (different : call.caller.id ≠ target)
      (run : Relationship.connect call.terms.budget call.caller.id target call.occasion.time
        service.database = (.ok isNew, database)) :
      Served call service
        (.ok (announceAdded call.terms call.occasion call.caller target isNew
          { service with database := database }).1)
        (announceAdded call.terms call.occasion call.caller target isNew
          { service with database := database }).2
  | removed (target : UserId) (database : Database)
      (asked : call.operation = .remove target)
      (different : call.caller.id ≠ target)
      (run : Relationship.disconnect call.terms.budget call.caller.id target call.occasion.time
        service.database = (.ok (), database)) :
      Served call service (.ok .done) { service with database := database }
  | barred (target : UserId) (database : Database)
      (asked : call.operation = .block target)
      (different : call.caller.id ≠ target)
      (run : Relationship.bar call.terms.budget call.caller.id target call.occasion.time
        service.database = (.ok (), database)) :
      Served call service (.ok .done) { service with database := database }
  | listed (friends : List Friend) (asked : call.operation = .list) :
      Served call service (.ok (.friends friends)) service
  | imported (externalId : String) (contacts : List Contact) (connected : List UserId)
      (database : Database)
      (asked : call.operation = .importContacts externalId (.ok contacts))
      (run : Relationship.connectNew call.terms.budget call.caller.id (contacts.map (·.id))
        call.occasion.time service.database = (.ok connected, database)) :
      Served call service
        (.ok (announceJoined call.terms call.occasion call.caller externalId connected
          { service with database := database }).1)
        (announceJoined call.terms call.occasion call.caller externalId connected
          { service with database := database }).2

/-- Serving a call either fails and leaves the service as it was, or does what was asked. -/
theorem served (call : Call) (service : Service State) :
    Served call service (service.serve call).1 (service.serve call).2 := by
  obtain ⟨terms, occasion, caller, operation⟩ := call
  unfold serve perform
  cases operation with
  | add target =>
    refine change_cases (Relationship.allOrNothing_add _ _ _ _) .failed fun isNew database run => ?_
    obtain ⟨different, run⟩ := Relationship.add_eq_ok_iff.mp run
    exact .added target isNew database rfl different run
  | addByHandle handle =>
    refine change_cases (Relationship.allOrNothing_addByHandle _ _ _ _) .failed ?_
    rintro ⟨target, isNew⟩ database run
    obtain ⟨_, _, named, different, run⟩ := Relationship.addByHandle_eq_ok_iff.mp run
    exact .added target isNew database named different run
  | remove target =>
    refine change_cases (Relationship.allOrNothing_remove _ _ _ _) .failed fun _ database run => ?_
    obtain ⟨different, run⟩ := Relationship.remove_eq_ok_iff.mp run
    exact .removed target database rfl different run
  | block target =>
    refine change_cases (Relationship.allOrNothing_block _ _ _ _) .failed fun _ database run => ?_
    obtain ⟨different, run⟩ := Relationship.block_eq_ok_iff.mp run
    exact .barred target database rfl different run
  | list =>
    refine change_cases (Relationship.allOrNothing_list _) .failed fun friends database run => ?_
    cases (Relationship.quiet_list _).eq run
    exact .listed friends rfl
  | importContacts externalId fetched =>
    refine change_cases (Relationship.allOrNothing_importContacts _ _ _ _) .failed
      fun connected database run => ?_
    obtain ⟨contacts, rfl, run⟩ := Relationship.importContacts_eq_ok_iff.mp run
    exact .imported externalId contacts connected database rfl run

/-- What every change of a relationship keeps is kept by a call. -/
theorem database_serve (holds : Database → Prop) (start : holds service.database)
    (connects : ∀ target isNew after, call.caller.id ≠ target →
      Relationship.connect call.terms.budget call.caller.id target call.occasion.time
        service.database = (.ok isNew, after) → holds after)
    (disconnects : ∀ target after, call.operation = .remove target → call.caller.id ≠ target →
      Relationship.disconnect call.terms.budget call.caller.id target call.occasion.time
        service.database = (.ok (), after) → holds after)
    (bars : ∀ target after, call.caller.id ≠ target →
      Relationship.bar call.terms.budget call.caller.id target call.occasion.time
        service.database = (.ok (), after) → holds after)
    (joins : ∀ externalIds peers after,
      Relationship.connectNew call.terms.budget call.caller.id externalIds call.occasion.time
        service.database = (.ok peers, after) → holds after) :
    holds (service.serve call).2.database := by
  have outcome := served call service
  generalize (service.serve call).1 = result, (service.serve call).2 = later at outcome ⊢
  cases outcome with
  | failed error => exact start
  | added target isNew after asked different run => exact connects target isNew after different run
  | removed target after asked different run => exact disconnects target after asked different run
  | barred target after asked different run => exact bars target after different run
  | listed friends asked => exact start
  | imported externalId contacts connected after asked run => exact joins _ connected after run

end Service

/-! ## Two users

A small service to run calls on: two users are registered, and the first one calls. -/

namespace Pair

/-- A user, told apart by one byte. -/
def user (byte : UInt8) : UserId := ⟨List.replicate 16 byte, List.length_replicate⟩

/-- The first user. -/
def ada : UserId := user 1

/-- The second user. -/
def bob : UserId := user 2

/-- The row of a registered user with an empty profile. -/
def row (id : UserId) (handle : String) : UserRow :=
  ⟨id.bytes, handle, none, none, none, none, none, none, 0, 0, 0, none⟩

/-- The directory of the first two users. -/
def directory : Directory where
  rows := [row ada "ada", row bob "bob"]
  nodup_ids := by decide
  nodup_handles := by decide
  nodup_externalIds := by decide

/-- The two users, who are not related. -/
def strangers : Service Recorder := ⟨⟨some directory, some .empty, some .empty⟩, .empty⟩

/-- A call of the first user. -/
def call (time : Int) (operation : Operation) : Call where
  terms := ⟨⟨10, Nat.le_refl 10⟩, 0⟩
  occasion := ⟨time, fun _ => ""⟩
  caller := ⟨ada, "ada"⟩
  operation := operation

/-- The least budget. -/
def budget : Budget := ⟨10, Nat.le_refl 10⟩

/-- The third user. -/
def carol : UserId := user 3

/-- The fourth user. -/
def dave : UserId := user 4

/-- Two more users beside the first two. -/
def circle : Directory where
  rows := [row ada "ada", row bob "bob", row carol "carol", row dave "dave"]
  nodup_ids := by decide
  nodup_handles := by decide
  nodup_externalIds := by decide

/-- The four users, none of whom are related. -/
def quartet : Service Recorder := ⟨⟨some circle, some .empty, some .empty⟩, .empty⟩

end Pair

end FriendGraph
