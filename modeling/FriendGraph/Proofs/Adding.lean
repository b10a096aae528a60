import FriendGraph.Proofs.Announcement
import FriendGraph.Proofs.Atomicity
import FriendGraph.Proofs.Outcome

/-! # Adding a user, on every state

What comes of adding a user by identifier is decided by who is named, by who is registered and by
the codes of the two edges between them, whatever shape these edges are in: one of them may be
missing, counters may be off, and codes may have no meaning. The checks are made in one order, so
every state has exactly one answer (`Service.adding_is_decided`), and what a success writes is
exactly the edges that were missing and their share of the counters (`Database.Completed`). A handle
does no more than stand for the user who has it (`Service.handles_stand_for_users`).
-/

namespace FriendGraph

open EdgeState (connected blocked)
open Relationship (Between)

namespace Database

/-- The edges between two users that are missing, as they are written at a time. -/
def missing (database : Database) (user target : UserId) (time : Int) : List EdgeRow :=
  (if (database.edge? user.bytes target.bytes).isSome then []
    else [EdgeRow.connected user target time]) ++
  if (database.edge? target.bytes user.bytes).isSome then []
  else [EdgeRow.connected target user time]

/-- Two users were connected at a time: the edges between them that were missing were added, each
of them raised the counter of its source by one, and nothing else has changed. -/
structure Completed (user target : UserId) (time : Int) (before after : Database) : Prop where
  users : after.users = before.users
  edgeRows : after.edgeRows = before.edgeRows ++ before.missing user target time
  connected : ∀ source destination, Between user [target] source destination →
    ∃ row, after.edge? source destination = some row ∧ row.code = connected.code
  kept : ∀ source destination row, before.edge? source destination = some row →
    after.edge? source destination = some row
  counter? : ∀ owner, after.counter? owner =
    if owner ∈ (before.missing user target time).map (·.source) then
      some ⟨owner, before.tally owner + 1, time⟩
    else before.counter? owner

end Database

namespace Relationship

variable {database after : Database} {budget : Budget} {user target : UserId} {time : Int}
  {edges : Table EdgeRow}

/-- What is missing are the rows that are not there, in either direction. -/
theorem missing_of_edges (present : database.edges = some edges) :
    database.missing user target time =
      (if edges.has (user.bytes, target.bytes) then [] else [EdgeRow.connected user target time]) ++
        if edges.has (target.bytes, user.bytes) then []
        else [EdgeRow.connected target user time] := by
  rw [Database.missing, Database.edge?_of_edges present, Database.edge?_of_edges present]
  rfl

/-- The missing edges are those from the users who lack one. -/
theorem sources_missing (present : database.edges = some edges) :
    (database.missing user target time).map (·.source) =
      (lacking edges user target).map UserId.bytes := by
  rw [missing_of_edges present, lacking]
  cases edges.has (user.bytes, target.bytes) <;> cases edges.has (target.bytes, user.bytes) <;>
    rfl

/-- Nobody is the source of both edges between two users. -/
theorem nodup_lacking (different : user ≠ target) (edges : Table EdgeRow) :
    ((lacking edges user target).map UserId.bytes).Nodup := by
  have apart : user.bytes ≠ target.bytes := fun same => different (UserId.ext same)
  unfold lacking
  cases edges.has (user.bytes, target.bytes) <;> cases edges.has (target.bytes, user.bytes) <;>
    simp [apart]

/-- Joining two users appends what is missing between them. -/
theorem rows_joined_eq_append (different : user ≠ target)
    (present : database.edges = some edges) :
    (joined user target time edges).rows = edges.rows ++ database.missing user target time := by
  have keyed : ∀ first second : UserId,
      Keyed.key (EdgeRow.connected first second time) = (first.bytes, second.bytes) :=
    fun _ _ => rfl
  rw [joined, Table.rows_insert, Table.rows_insert, keyed, keyed, has_insert_connected different,
    List.append_assoc, missing_of_edges present]

/-- Connecting two users completes the edges between them. -/
theorem completed_connect (different : user ≠ target) {isNew : Bool}
    (run : connect budget user target time database = (.ok isNew, after)) :
    database.Completed user target time after := by
  have joins := edge?_connect different run
  have unblocked : ∀ source destination, Between user [target] source destination →
      ∀ row, database.edge? source destination = some row → row.code = connected.code :=
    fun _ _ between _ stored => code_of_connect different run between stored
  obtain ⟨_, edges, _, present, _, _, _, counted, _, rfl⟩ := (connect_eq_ok_iff different).mp run
  constructor
  case users => rfl
  case edgeRows =>
    rw [Database.edgeRows_of_edges rfl, Database.edgeRows_of_edges present,
      rows_joined_eq_append different present]
  case connected =>
    intro source destination between
    rw [joins, if_pos between]
    cases stored : database.edge? source destination with
    | none => exact ⟨_, rfl, rfl⟩
    | some row => exact ⟨row, rfl, unblocked source destination between row stored⟩
  case kept =>
    intro source destination row stored
    rw [joins, stored, Option.some_or]
  case counter? =>
    intro owner
    rw [sources_missing present]
    refine (counter?_raiseAll counted).trans ?_
    rw [(nodup_lacking different edges).count]
    by_cases lacks : owner ∈ (lacking edges user target).map UserId.bytes
    · simp [lacks]
    · simp [lacks]

end Relationship

namespace Service

variable {State : Type} [Sender State] {directory : Directory}

/-- **Every state has one answer to adding a user.** Where all tables are there, the call fails as
invalid for the caller themselves, else as not found for somebody who is not registered, else on
an edge between the two whose code has no meaning, that of the caller first, else on a block. It
succeeds for everybody else, and then both edges are there and connected: the edges that were
missing are the only ones that are new, and their sources the only ones whose counters moved. -/
theorem adding_is_decided (call : Call) (target : UserId) (service : Service State)
    (asked : call.operation = .add target) (complete : service.database.Complete directory) :
    let database := service.database
    let forth := database.edge? call.caller.id.bytes target.bytes
    let back := database.edge? target.bytes call.caller.id.bytes
    (service.serve call).1 =
      (if target = call.caller.id then .error (.invalid (.self .add))
      else if (directory.withId? target.bytes).isNone then .error (.notFound (.user target))
      else match (database.unknownCode? call.caller.id target).or
          (database.unknownCode? target call.caller.id) with
        | some code => .error (.storage (.unknownEdgeState code))
        | none =>
          if forth.map (·.code) = some blocked.code ∨ back.map (·.code) = some blocked.code then
            .error .blocked
          else .ok (call.added target (forth.isNone && back.isNone))) ∧
      (∀ outcome, (service.serve call).1 = .ok outcome →
        database.Completed call.caller.id target call.occasion.time
          (service.serve call).2.database) ∧
      ∀ error, (service.serve call).1 = .error error → (service.serve call).2 = service := by
  intro database forth back
  have acts : call.act = call.added target <$>
      Relationship.add call.terms.budget call.caller target call.occasion.time := by
    unfold Call.act
    rw [asked]
  refine ⟨?_, ?_, fun _ => serve_of_error⟩
  · rw [serve_eq, acts, Action.map_run, Relationship.add, Relationship.fst_bind_requireOther]
    by_cases self : target = call.caller.id
    · rw [if_pos self, if_pos self]
      rfl
    · rw [if_neg self, if_neg self,
        Relationship.fst_connect _ _ (Ne.symm self) complete]
      cases registered : (directory.withId? target.bytes) with
      | none => rfl
      | some row =>
        simp only [Option.isSome_some, ↓reduceIte, Option.isNone_some, Bool.false_eq_true]
        cases (service.database.unknownCode? call.caller.id target).or
          (service.database.unknownCode? target call.caller.id) with
        | some code => rfl
        | none =>
          dsimp only
          rw [apply_ite (Except.map (call.added target))]
          rfl
  · intro outcome succeeded
    rw [serve_eq, acts, Action.map_run] at succeeded ⊢
    dsimp only at succeeded ⊢
    generalize ran : Relationship.add call.terms.budget call.caller target call.occasion.time
      service.database = result at succeeded ⊢
    obtain ⟨_ | isNew, after⟩ := result
    · cases succeeded
    · obtain ⟨different, run⟩ := Relationship.add_eq_ok_iff.mp ran
      exact Relationship.completed_connect different run

end Service

namespace Pair

/-- The two users with the given edges, and with a counter of the second one that is off. -/
def related (rows : List EdgeRow) (distinct : (rows.map Keyed.key).Nodup) : Service Recorder :=
  ⟨⟨some directory, some ⟨rows, distinct⟩, some ⟨[⟨bob.bytes, 7, 1⟩], by decide⟩⟩, .empty⟩

/-- Only the edge from the first user to the second one is there. -/
def halved : Service Recorder :=
  related [⟨ada.bytes, bob.bytes, 1, 2, connected.code⟩] (by decide)

/-- The edge to the second user has a code without a meaning, and the edge back is a block. -/
def garbled : Service Recorder :=
  related [⟨ada.bytes, bob.bytes, 1, 1, 9⟩, ⟨bob.bytes, ada.bytes, 1, 1, blocked.code⟩] (by decide)

end Pair

namespace Service

/-- Half a pair is completed: the edge back is new, and it counts for its source, who alone had a
counter. A code without a meaning is reported even though the other edge is a block. -/
theorem adding_is_decided_pair :
    let call := Pair.call 5 (.add Pair.bob)
    let completed := (Pair.halved.serve call).2.database
    call.operation = .add Pair.bob ∧ Pair.halved.database.Complete Pair.directory ∧
      (Pair.halved.serve call).1 = .ok (call.added Pair.bob false) ∧
      Pair.halved.database.Completed Pair.ada Pair.bob 5 completed ∧
      completed.edgeRows = [⟨Pair.ada.bytes, Pair.bob.bytes, 1, 2, connected.code⟩,
        ⟨Pair.bob.bytes, Pair.ada.bytes, 5, 5, connected.code⟩] ∧
      completed.counterRows = [⟨Pair.bob.bytes, 8, 5⟩] ∧
      (Pair.garbled.serve call).1 = .error (.storage (.unknownEdgeState 9)) ∧
      (Pair.garbled.serve call).2 = Pair.garbled := by
  have complete : Pair.halved.database.Complete Pair.directory := ⟨rfl, rfl, rfl⟩
  have unreadable : Pair.garbled.database.Complete Pair.directory := ⟨rfl, rfl, rfl⟩
  obtain ⟨decided, completes, _⟩ :=
    adding_is_decided (Pair.call 5 (.add Pair.bob)) Pair.bob Pair.halved rfl complete
  obtain ⟨refused, _, unchanged⟩ :=
    adding_is_decided (Pair.call 5 (.add Pair.bob)) Pair.bob Pair.garbled rfl unreadable
  exact ⟨rfl, complete, decided, completes _ decided, rfl, rfl, refused, unchanged _ refused⟩

end Service

/-! ## Adding by handle -/

/-- The outcome, by whatever identifiers its notifications go. -/
def Outcome.anonymous : Outcome → Outcome
  | .added target isNew notifications isDispatched =>
    .added target isNew (notifications.map fun told => { told with id := "" }) isDispatched
  | .imported peers notifications isDispatched =>
    .imported peers (notifications.map fun told => { told with id := "" }) isDispatched
  | .done => .done
  | .friends listed => .friends listed

/-- The same caller asks to add a user by identifier, on the same terms and at the same time. -/
def Call.byId (call : Call) (target : UserId) (freshId : Nat → String) : Call :=
  { call with operation := .add target, occasion := { call.occasion with freshId := freshId } }

namespace Service

variable {State : Type} [Sender State] {service : Service State} {directory : Directory}
  {call : Call} {handle : String} {target : UserId}

/-- A call by identifier adds the target and tells of it. -/
theorem act_byId (call : Call) (target : UserId) (freshId : Nat → String) :
    (call.byId target freshId).act = (call.byId target freshId).added target <$>
      Relationship.add call.terms.budget call.caller target call.occasion.time := rfl

/-- Other identifiers for notifications make no other difference to an addition. -/
theorem anonymous_serve_byId (call : Call) (target : UserId) (freshId other : Nat → String)
    (service : Service State) :
    (service.serve (call.byId target freshId)).1.map Outcome.anonymous =
        (service.serve (call.byId target other)).1.map Outcome.anonymous ∧
      (service.serve (call.byId target freshId)).2.database =
        (service.serve (call.byId target other)).2.database := by
  rw [serve_eq, serve_eq, act_byId, act_byId, Action.map_run, Action.map_run]
  refine ⟨?_, rfl⟩
  cases (Relationship.add call.terms.budget call.caller target call.occasion.time
    service.database).1 with
  | error error => rfl
  | ok isNew => cases isNew <;> rfl

/-- A call by handle adds whoever has the handle and tells of it. -/
theorem act_of_addByHandle (asked : call.operation = .addByHandle handle) :
    call.act = (fun found => call.added found.1 found.2) <$>
      Relationship.addByHandle call.terms.budget call.caller handle call.occasion.time := by
  unfold Call.act
  rw [asked]

/-- An empty handle and the caller's own are refused, and nothing happens. -/
theorem serve_addByHandle_of_invalid (asked : call.operation = .addByHandle handle)
    (invalid : handle = "" ∨ handle = call.caller.handle) :
    service.serve call = (.error (.invalid .handle), service) := by
  have refused : (handle.isEmpty || handle = call.caller.handle) = true := by simpa using invalid
  rw [serve_eq, act_of_addByHandle asked, Action.map_run,
    Relationship.addByHandle_of_invalid refused]
  rfl

/-- A handle that nobody has is answered so, and nothing happens. -/
theorem serve_addByHandle_of_unregistered (asked : call.operation = .addByHandle handle)
    (valid : handle ≠ "" ∧ handle ≠ call.caller.handle)
    (users : service.database.users = some directory)
    (unregistered : directory.withHandle? handle = none) :
    service.serve call = (.error (.notFound (.handle handle)), service) := by
  have allowed : ¬(handle.isEmpty || handle = call.caller.handle) = true := by simpa using valid
  rw [serve_eq, act_of_addByHandle asked, Action.map_run,
    Relationship.addByHandle_of_unregistered users allowed unregistered]
  rfl

/-- A handle stands for the user who has it. -/
theorem serve_addByHandle_of_named (asked : call.operation = .addByHandle handle)
    (valid : handle ≠ "" ∧ handle ≠ call.caller.handle)
    (users : service.database.users = some directory)
    (named : directory.named? handle = some target) :
    service.serve call = service.serve (call.byId target call.occasion.freshId) := by
  have allowed : ¬(handle.isEmpty || handle = call.caller.handle) = true := by simpa using valid
  have same : call.act service.database =
      (call.byId target call.occasion.freshId).act service.database := by
    rw [act_of_addByHandle asked, act_byId, Action.map_run, Action.map_run,
      Relationship.addByHandle_of_named users allowed named]
    cases (Relationship.add call.terms.budget call.caller target call.occasion.time
      service.database).1 <;> rfl
  rw [serve_eq, serve_eq, same]

/-- **Adding by handle is adding the user who has the handle.** No state accepts the empty handle or
the one that the caller goes by. Any other handle fails as not found when nobody has it, and else
the call does the same as one that names the user, whatever comes of that: the same outcome and the
same service when the notifications go by the same identifiers, and otherwise the same outcome up to
these identifiers and the same tables. In particular callers who go by another handle than the one
they are registered under are found out as themselves. -/
theorem handles_stand_for_users (call : Call) (handle : String) (service : Service State)
    (asked : call.operation = .addByHandle handle) :
    (handle = "" ∨ handle = call.caller.handle →
      service.serve call = (.error (.invalid .handle), service)) ∧
      ∀ directory, service.database.users = some directory →
        handle ≠ "" ∧ handle ≠ call.caller.handle →
          (directory.withHandle? handle = none →
            service.serve call = (.error (.notFound (.handle handle)), service)) ∧
          ∀ target, directory.named? handle = some target →
            service.serve call = service.serve (call.byId target call.occasion.freshId) ∧
            (∀ freshId,
              (service.serve call).1.map Outcome.anonymous =
                  (service.serve (call.byId target freshId)).1.map Outcome.anonymous ∧
                (service.serve call).2.database =
                  (service.serve (call.byId target freshId)).2.database) ∧
            (target = call.caller.id →
              (service.serve call).1 = .error (.invalid (.self .add))) := by
  refine ⟨serve_addByHandle_of_invalid asked, fun directory users valid =>
    ⟨serve_addByHandle_of_unregistered asked valid users, fun target named => ?_⟩⟩
  have same : service.serve call = service.serve (call.byId target call.occasion.freshId) :=
    serve_addByHandle_of_named asked valid users named
  rw [same]
  refine ⟨rfl, fun freshId => anonymous_serve_byId call target _ freshId service, fun isSelf => ?_⟩
  have refused : (Relationship.add call.terms.budget call.caller target call.occasion.time
      service.database).1 = .error (.invalid (.self .add)) := by
    rw [Relationship.add, Relationship.fst_bind_requireOther, if_pos isSelf]
  rw [serve_eq, act_byId, Action.map_run, refused]
  rfl

end Service

namespace Pair

/-- The first user, in a session under some handle, adds whoever has a handle. -/
def byHandle (session handle : String) : Call :=
  { call 5 (.addByHandle handle) with caller := ⟨ada, session⟩ }

end Pair

namespace Service

/-- The second user is added by handle. The first one is refused under their own handle, and found
out under another one. -/
theorem handles_stand_for_users_pair :
    let befriended := Pair.strangers.serve (Pair.byHandle "ada" "bob")
    (Pair.byHandle "ada" "bob").operation = .addByHandle "bob" ∧
      Pair.directory.named? "bob" = some Pair.bob ∧
      befriended = Pair.strangers.serve ((Pair.byHandle "ada" "bob").byId Pair.bob fun _ => "") ∧
      befriended.2.database.edgeRows.length = 2 ∧
      (Pair.strangers.serve (Pair.byHandle "ada" "ada")).1 = .error (.invalid .handle) ∧
      (Pair.strangers.serve (Pair.byHandle "visitor" "ada")).1 =
        .error (.invalid (.self .add)) := by
  have named : Pair.directory.named? "bob" = some Pair.bob := by decide
  have namedToo : Pair.directory.named? "ada" = some Pair.ada := by decide
  obtain ⟨_, stands⟩ :=
    handles_stand_for_users (Pair.byHandle "ada" "bob") "bob" Pair.strangers rfl
  obtain ⟨refuses, _⟩ :=
    handles_stand_for_users (Pair.byHandle "ada" "ada") "ada" Pair.strangers rfl
  obtain ⟨_, disguised⟩ :=
    handles_stand_for_users (Pair.byHandle "visitor" "ada") "ada" Pair.strangers rfl
  obtain ⟨_, finds⟩ := stands Pair.directory rfl (by decide)
  obtain ⟨_, unmasks⟩ := disguised Pair.directory rfl (by decide)
  obtain ⟨same, _⟩ := finds Pair.bob named
  obtain ⟨_, _, self⟩ := unmasks Pair.ada namedToo
  have made : (Pair.strangers.serve ((Pair.byHandle "ada" "bob").byId Pair.bob
      (Pair.byHandle "ada" "bob").occasion.freshId)).2.database.edgeRows.length = 2 := rfl
  exact ⟨rfl, named, same, same ▸ made, congrArg Prod.fst (refuses (.inr rfl)), self rfl⟩

end Service

end FriendGraph
