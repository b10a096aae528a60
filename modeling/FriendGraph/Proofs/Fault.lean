import FriendGraph.Proofs.Outcome
import Mathlib.Data.List.Nodup

/-! # Operations that find fault with their target

An operation is refused as invalid exactly when it is faulty (`Service.fst_perform_eq_invalid_iff`):
when it names the caller, or a handle that is empty or one of the caller's. Only the checks of the
target find fault. Everything behind them, in whichever of the changes, is *lenient*
(`Relationship.Lenient`): it may fail, but never as invalid.
-/

namespace FriendGraph

/-- The handle is empty or one of the caller's: that of their session, or one under which they are
registered. -/
def Caller.RejectsHandle (caller : Caller) (users : Option Directory) (handle : String) : Prop :=
  handle = "" ∨ handle = caller.handle ∨
    ∃ directory, users = some directory ∧
      ∃ row ∈ directory.rows, row.handle = handle ∧ row.id = caller.id.bytes

/-- An operation that finds fault with its target. -/
def Operation.Faulty (caller : Caller) (users : Option Directory) : Operation → Prop
  | .add target => target = caller.id
  | .addByHandle handle => caller.RejectsHandle users handle
  | .remove target => target = caller.id
  | .block target => target = caller.id
  | .list => False
  | .importContacts _ _ => False

/-- A row is found under a handle exactly when it is there with that handle. -/
theorem Directory.withHandle?_eq_some_iff {directory : Directory} {handle : String}
    {row : UserRow} :
    directory.withHandle? handle = some row ↔ row ∈ directory.rows ∧ row.handle = handle := by
  constructor
  · intro named
    have has := List.find?_some named
    exact ⟨List.mem_of_find?_eq_some named, of_decide_eq_true has⟩
  · rintro ⟨member, has⟩
    have isSome : (directory.withHandle? handle).isSome := by
      rw [Directory.withHandle?, List.find?_isSome]
      exact ⟨row, member, decide_eq_true has⟩
    obtain ⟨found, named⟩ := Option.isSome_iff_exists.mp isSome
    have sameHandle := List.find?_some named
    have same : found.handle = row.handle := (of_decide_eq_true sameHandle).trans has.symm
    rw [named, List.inj_on_of_nodup_map directory.nodup_handles
      (List.mem_of_find?_eq_some named) member same]

/-! ## Actions that find no fault -/

namespace Relationship

variable {database : Database} {budget : Budget} {user target : UserId} {time : Int}
  {caller : Caller} {Answer Next : Type}

/-- The action never finds fault with what was asked, whatever else goes wrong. -/
def Lenient (action : Action RelationshipError Answer) : Prop :=
  ∀ database refusal, (action database).1 ≠ .error (.invalid refusal)

namespace Lenient

theorem pure (answer : Answer) : Lenient (Pure.pure answer) := by
  intro database refusal found
  cases found

/-- A failure of another kind finds no fault. -/
theorem fail {error : RelationshipError} (other : ∀ refusal, error ≠ .invalid refusal) :
    Lenient (Action.fail error : Action RelationshipError Answer) := by
  intro database refusal found
  exact other refusal (Except.error.inj found)

/-- Failures of the storage are no fault of the request. -/
theorem liftM (action : Action StorageError Answer) :
    Lenient (MonadLiftT.monadLift action : Action RelationshipError Answer) := by
  intro database refusal found
  change (action.mapError RelationshipError.storage database).1 = _ at found
  unfold Action.mapError at found
  cases run : action database with
  | mk outcome after =>
    rw [run] at found
    cases outcome <;> cases found

/-- A lenient action may go on with lenient ones. -/
theorem bind {first : Action RelationshipError Answer}
    {next : Answer → Action RelationshipError Next} (lenient : Lenient first)
    (further : ∀ answer, Lenient (next answer)) : Lenient (first >>= next) := by
  intro database refusal found
  cases run : first database with
  | mk outcome after =>
    cases outcome with
    | error error =>
      rw [Action.bind_run_of_error run] at found
      apply lenient database refusal
      rw [run]
      exact congrArg Except.error (Except.error.inj found)
    | ok answer =>
      rw [Action.bind_run_of_ok run] at found
      exact further answer after refusal found

/-- A check may fail for any other reason. -/
theorem check {condition : Prop} [Decidable condition] {error : RelationshipError}
    {further : Unit → Action RelationshipError Answer} (other : ∀ refusal, error ≠ .invalid refusal)
    (lenient : Lenient (further ())) :
    Lenient (if condition then (Action.fail error >>= fun passed => further passed)
      else further ()) := by
  split
  · exact .bind (.fail other) fun _ => lenient
  · exact lenient

/-- A choice between lenient actions is lenient. -/
theorem ite {condition : Prop} [Decidable condition] {first : Action RelationshipError Answer}
    (lenient : Lenient first) {second : Action RelationshipError Answer}
    (otherwise : Lenient second) : Lenient (if condition then first else second) := by
  split
  · exact lenient
  · exact otherwise

theorem atomically {action : Action RelationshipError Answer} (lenient : Lenient action) :
    Lenient action.atomically := lenient

end Lenient

/-- Connecting two users finds no fault. -/
theorem lenient_connect (budget : Budget) (user target : UserId) (time : Int) :
    Lenient (connect budget user target time) := by
  simp only [connect, ite_isEmpty_increment]
  refine .bind (.liftM _) fun isRegistered => .check (by simp) ?_
  refine .bind (.liftM _) fun outgoing => .bind (.liftM _) fun incoming => .check (by simp) ?_
  refine .bind (.liftM _) fun isOutgoingNew => .bind (.liftM _) fun isIncomingNew => ?_
  exact .bind (.liftM _) fun _ => .pure _

/-- Disconnecting two users finds no fault. -/
theorem lenient_disconnect (budget : Budget) (user target : UserId) (time : Int) :
    Lenient (disconnect budget user target time) := by
  simp only [disconnect, ite_bind_unit]
  refine .bind (.liftM _) fun isOutgoingGone => .bind (.ite (.liftM _) (.pure _)) fun _ => ?_
  exact .bind (.liftM _) fun isIncomingGone => .ite (.liftM _) (.pure _)

/-- Blocking between two users finds no fault. -/
theorem lenient_bar (budget : Budget) (user target : UserId) (time : Int) :
    Lenient (bar budget user target time) := by
  unfold bar
  refine .bind (.liftM _) fun isThere => .check (by simp) ?_
  exact .bind (.liftM _) fun isGone => .ite (.liftM _) (.pure _)

/-- Listing finds no fault. -/
theorem lenient_list (user : UserId) : Lenient (list user) := .liftM _

/-- Connecting newcomers finds no fault. -/
theorem lenient_connectNew (budget : Budget) (user : UserId) (externalIds : List String)
    (time : Int) : Lenient (connectNew budget user externalIds time) := by
  unfold connectNew
  refine .bind (.liftM _) fun registered => .ite (.pure _) ?_
  refine .bind (.liftM _) fun related => .ite (.pure _) ?_
  refine .bind (.liftM _) fun _ => .bind (.liftM _) fun _ => ?_
  exact .bind (.liftM _) fun _ => .pure _

/-- An import finds no fault. -/
theorem lenient_importContacts (budget : Budget) (caller : Caller)
    (fetched : Except ContactsError (List Contact)) (time : Int) :
    Lenient (importContacts budget caller fetched time) := by
  unfold importContacts
  split
  · exact .fail (by simp)
  · exact .pure _
  · exact .atomically (lenient_connectNew _ _ _ _)

/-- A change of a relationship finds fault only with callers who name themselves. -/
theorem fst_bind_requireOther_eq_invalid_iff {verb : Verb}
    {action : Action RelationshipError Answer} (lenient : Lenient action) :
    (∃ refusal, ((requireOther caller target verb >>= fun _ => action.atomically) database).1 =
        .error (.invalid refusal)) ↔ target = caller.id := by
  rw [fst_bind_requireOther]
  by_cases same : target = caller.id
  · simp [same]
  · simp only [same, ↓reduceIte, iff_false, not_exists]
    exact lenient database

/-- A handle is found with a user exactly when a row has both. -/
theorem findHandle_eq_ok_some_iff {handle : String} :
    (∃ after, Store.findHandle handle database = (.ok (some user), after)) ↔
      ∃ directory, database.users = some directory ∧
        ∃ row ∈ directory.rows, row.handle = handle ∧ row.id = user.bytes := by
  simp only [Store.findHandle_eq_ok_iff, Option.map_some, @eq_comm _ (some user.bytes),
    Option.map_eq_some_iff, Directory.withHandle?_eq_some_iff, and_assoc]
  constructor
  · rintro ⟨_, directory, users, found, _⟩
    exact ⟨directory, users, found⟩
  · rintro ⟨directory, users, found⟩
    exact ⟨database, directory, users, found, rfl⟩

/-- Adding by handle finds fault only with the handles that the caller cannot name; some of these
are known only when the user has been looked up. -/
theorem fst_addByHandle_eq_invalid_iff {handle : String} :
    (∃ refusal, (addByHandle budget caller handle time database).1 =
        .error (.invalid refusal)) ↔ caller.RejectsHandle database.users handle := by
  unfold Caller.RejectsHandle addByHandle
  rw [← findHandle_eq_ok_some_iff]
  split
  · next refused =>
    have own : handle = "" ∨ handle = caller.handle := by simpa using refused
    exact ⟨fun _ => own.imp_right .inl, fun _ => ⟨.handle, rfl⟩⟩
  · next allowed =>
    have other : handle ≠ "" ∧ handle ≠ caller.handle := by simpa using allowed
    simp only [other.1, other.2, false_or]
    change (∃ refusal, (connectHandle budget caller handle time database).1 =
      .error (.invalid refusal)) ↔ _
    cases run : Store.findHandle handle database with
    | mk outcome after =>
      rw [connectHandle]
      cases outcome with
      | error error =>
        rw [Action.bind_run_of_error (liftM_eq_error run)]
        simp
      | ok found =>
        rw [Action.bind_run_of_ok (liftM_eq_ok_iff.mpr run)]
        cases found with
        | none => simp
        | some target =>
          dsimp only
          by_cases same : target = caller.id
          · rw [Action.bind_run_of_error (requireOther_of_self same .add), same]
            exact ⟨fun _ => ⟨after, rfl⟩, fun _ => ⟨_, rfl⟩⟩
          · rw [Action.bind_run_of_ok (requireOther_of_ne same .add)]
            have lenient := Lenient.bind (lenient_connect budget caller.id target time)
              fun isNew => Lenient.pure (target, isNew)
            simp only [Prod.mk.injEq, Except.ok.injEq, Option.some.injEq, same, false_and,
              exists_false, iff_false, not_exists]
            exact lenient after

end Relationship

/-- What is made of an outcome is invalid exactly when it is. -/
theorem Except.map_eq_invalid_iff {Answer Next : Type} {next : Answer → Next}
    {outcome : Except RelationshipError Answer} :
    (∃ refusal, outcome.map next = .error (.invalid refusal)) ↔
      ∃ refusal, outcome = .error (.invalid refusal) := by
  cases outcome with
  | ok answer => simp [Except.map]
  | error error => simp [Except.map]

namespace Service

variable {State : Type} [Sender State]

/-- An operation is refused as invalid exactly when it is faulty. -/
theorem fst_perform_eq_invalid_iff (terms : Terms) (occasion : Occasion) (caller : Caller)
    (operation : Operation) (service : Service State) :
    (∃ refusal, (service.perform terms occasion caller operation).1 =
        .error (.invalid refusal)) ↔ operation.Faulty caller service.database.users := by
  unfold perform
  cases operation with
  | add target =>
    rw [fst_change, Except.map_eq_invalid_iff]
    exact Relationship.fst_bind_requireOther_eq_invalid_iff (Relationship.lenient_connect _ _ _ _)
  | addByHandle handle =>
    rw [fst_change, Except.map_eq_invalid_iff]
    exact Relationship.fst_addByHandle_eq_invalid_iff
  | remove target =>
    rw [fst_change, Except.map_eq_invalid_iff]
    exact Relationship.fst_bind_requireOther_eq_invalid_iff
      (Relationship.lenient_disconnect _ _ _ _)
  | block target =>
    rw [fst_change, Except.map_eq_invalid_iff]
    exact Relationship.fst_bind_requireOther_eq_invalid_iff (Relationship.lenient_bar _ _ _ _)
  | list =>
    rw [fst_change, Except.map_eq_invalid_iff]
    exact iff_of_false (not_exists.mpr (Relationship.lenient_list _ _)) id
  | importContacts externalId fetched =>
    rw [fst_change, Except.map_eq_invalid_iff]
    exact iff_of_false (not_exists.mpr (Relationship.lenient_importContacts _ _ _ _ _)) id

end Service

end FriendGraph
