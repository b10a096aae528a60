import FriendGraph.Database

/-! # Answers of composite actions

A composite action answers exactly when its parts answer one after the other, so an answer can
be taken apart along the structure of the action (`Action.bind_eq_ok_iff`). An action is
*quiet* when it never changes the database, and *all or nothing* when it changes nothing as
often as it fails; a quiet action in front of one that is all or nothing keeps it so
(`Action.AllOrNothing.bind`), and every transaction is all or nothing
(`Action.AllOrNothing.atomically`). An action is *detached* when it does not even look at the
database.
-/

namespace FriendGraph.Action

variable {Error Other Answer Next : Type}

/-- A run of two actions succeeds exactly when both do, one on what the other left. -/
theorem bind_eq_ok_iff {first : Action Error Answer} {next : Answer → Action Error Next}
    {database after : Database} {last : Next} :
    (first >>= next) database = (.ok last, after) ↔
      ∃ answer between, first database = (.ok answer, between) ∧
        next answer between = (.ok last, after) := by
  cases run : first database with
  | mk outcome between =>
    cases outcome with
    | error error =>
      rw [bind_run_of_error run]
      simp
    | ok answer =>
      rw [bind_run_of_ok run]
      constructor
      · exact fun finished => ⟨answer, between, rfl, finished⟩
      · rintro ⟨_, _, same, finished⟩
        cases same
        exact finished

/-- Returning an answer leaves the database as it is. -/
@[simp] theorem pure_eq_ok_iff {answer last : Answer} {database after : Database} :
    (pure answer : Action Error Answer) database = (.ok last, after) ↔
      last = answer ∧ after = database := by
  rw [pure_run, Prod.mk.injEq, Except.ok.injEq, eq_comm, @eq_comm _ database]

@[simp] theorem fail_ne_ok {error : Error} {answer : Answer} {database after : Database} :
    fail error database ≠ (.ok answer, after) := by
  rw [fail_run]
  intro same
  cases (Prod.mk.inj same).1

/-- Putting errors in other words does not matter to a success. -/
theorem mapError_eq_ok_iff {embed : Error → Other} {action : Action Error Answer}
    {answer : Answer} {database after : Database} :
    action.mapError embed database = (.ok answer, after) ↔
      action database = (.ok answer, after) := by
  unfold mapError
  cases action database with
  | mk outcome between =>
    cases outcome with
    | ok found =>
      change (Except.ok found, between) = (.ok answer, after) ↔ _
      simp only [Prod.mk.injEq, Except.ok.injEq]
    | error cause =>
      change (Except.error (embed cause), between) = (.ok answer, after) ↔ _
      simp only [Prod.mk.injEq, reduceCtorEq, false_and]

/-- A transaction that succeeds has done what its action does. -/
theorem atomically_eq_ok_iff {action : Action Error Answer} {answer : Answer}
    {database after : Database} :
    action.atomically database = (.ok answer, after) ↔ action database = (.ok answer, after) := by
  unfold atomically
  cases action database with
  | mk outcome between =>
    cases outcome <;> simp [TransactionEnd.ofOutcome, TransactionEnd.leave]

/-- Either branch answers as it does alone. -/
theorem ite_eq_ok_iff {condition : Prop} [Decidable condition] {first second : Action Error Answer}
    {answer : Answer} {database after : Database} :
    (if condition then first else second) database = (.ok answer, after) ↔
      condition ∧ first database = (.ok answer, after) ∨
        ¬condition ∧ second database = (.ok answer, after) := by
  by_cases holds : condition <;> simp [holds]

/-- What comes after a check answers only when the check is passed. -/
theorem ite_fail_eq_ok_iff {condition : Prop} [Decidable condition] {error : Error}
    {further : Unit → Action Error Answer} {answer : Answer} {database after : Database} :
    (if condition then (fail error >>= fun passed => further passed) else further ()) database =
        (.ok answer, after) ↔
      ¬condition ∧ further () database = (.ok answer, after) := by
  by_cases holds : condition
  · simp [holds, bind_eq_ok_iff]
  · simp [holds]

/-- What answers at every item without a change of the database answers at all of them. -/
theorem mapM_eq_ok {Item : Type} {action : Item → Action Error Answer} {answer : Item → Answer}
    {database : Database} {items : List Item}
    (answers : ∀ item ∈ items, action item database = (.ok (answer item), database)) :
    items.mapM action database = (.ok (items.map answer), database) := by
  induction items with
  | nil => rfl
  | cons item rest inductionHypothesis =>
    have first := answers item List.mem_cons_self
    have later := inductionHypothesis fun other member =>
      answers other (List.mem_cons_of_mem item member)
    rw [List.mapM_cons, bind_run_of_ok first, bind_run_of_ok later]
    rfl

/-- What answers with what is read off each item, where it can be read, answers with all of that
when nothing is missing. -/
theorem mapM_eq_ok_iff {Item : Type} {action : Item → Action Error Answer}
    {read : Item → Option Answer}
    (reads : ∀ item database answer after, action item database = (.ok answer, after) ↔
      read item = some answer ∧ after = database)
    {items : List Item} {answers : List Answer} {database after : Database} :
    items.mapM action database = (.ok answers, after) ↔
      (∀ item ∈ items, (read item).isSome) ∧ answers = items.filterMap read ∧
        after = database := by
  induction items generalizing answers with
  | nil =>
    rw [List.mapM_nil, pure_eq_ok_iff]
    simp
  | cons item rest inductionHypothesis =>
    rw [List.mapM_cons]
    simp only [bind_eq_ok_iff, pure_eq_ok_iff, reads, List.forall_mem_cons]
    constructor
    · rintro ⟨answer, _, ⟨isRead, rfl⟩, later, _, run, rfl, rfl⟩
      obtain ⟨readable, rfl, rfl⟩ := inductionHypothesis.mp run
      exact ⟨⟨by rw [isRead]; rfl, readable⟩, (List.filterMap_cons_some isRead).symm, rfl⟩
    · rintro ⟨⟨first, readable⟩, rfl, rfl⟩
      obtain ⟨answer, isRead⟩ := Option.isSome_iff_exists.mp first
      refine ⟨answer, after, ⟨isRead, rfl⟩, _, after,
        inductionHypothesis.mpr ⟨readable, rfl, rfl⟩, ?_, rfl⟩
      exact List.filterMap_cons_some isRead

/-- If there is one error with which items fail, and no item changes the database, going through all
of them fails with that error as soon as one of them does. -/
theorem mapM_eq_error {Item : Type} {action : Item → Action Error Answer} {error : Error}
    {database : Database} {items : List Item}
    (outcomes : ∀ item ∈ items, (∃ answer, action item database = (.ok answer, database)) ∨
      action item database = (.error error, database))
    (fails : ∃ item ∈ items, action item database = (.error error, database)) :
    items.mapM action database = (.error error, database) := by
  induction items with
  | nil =>
    obtain ⟨_, member, _⟩ := fails
    cases member
  | cons item rest inductionHypothesis =>
    rw [List.mapM_cons]
    rcases outcomes item List.mem_cons_self with ⟨answer, answers⟩ | failed
    · have later : ∃ other ∈ rest, action other database = (.error error, database) := by
        obtain ⟨other, member, failed⟩ := fails
        rcases List.mem_cons.mp member with rfl | member
        · rw [answers] at failed
          cases (Prod.mk.inj failed).1
        · exact ⟨other, member, failed⟩
      have run := inductionHypothesis
        (fun other member => outcomes other (List.mem_cons_of_mem item member)) later
      rw [bind_run_of_ok answers, bind_run_of_error run]
    · rw [bind_run_of_error failed]

/-- The action never changes the database. -/
def Quiet (action : Action Error Answer) : Prop := ∀ database, (action database).2 = database

/-- A failure of the action changes nothing. -/
def AllOrNothing (action : Action Error Answer) : Prop :=
  ∀ ⦃database after error⦄, action database = (.error error, after) → after = database

namespace Quiet

theorem pure (answer : Answer) : Quiet (pure answer : Action Error Answer) := fun _ => rfl

theorem fail (error : Error) : Quiet (fail error : Action Error Answer) := fun _ => rfl

/-- A quiet action leaves what it was given. -/
theorem eq {action : Action Error Answer} (quiet : action.Quiet) {database after : Database}
    {outcome : Except Error Answer} (run : action database = (outcome, after)) :
    after = database := by
  have unchanged := quiet database
  rw [run] at unchanged
  exact unchanged

/-- A quiet action may go on with quiet ones. -/
theorem bind {first : Action Error Answer} {next : Answer → Action Error Next}
    (quiet : first.Quiet) (quietNext : ∀ answer, (next answer).Quiet) :
    (first >>= next).Quiet := by
  intro database
  cases run : first database with
  | mk outcome between =>
    have same := quiet.eq run
    subst same
    cases outcome with
    | error error => rw [bind_run_of_error run]
    | ok answer => rw [bind_run_of_ok run, quietNext answer]

/-- Quiet actions in a row are quiet. -/
theorem mapM {Item : Type} {action : Item → Action Error Answer} {items : List Item}
    (quiet : ∀ item ∈ items, (action item).Quiet) : (items.mapM action).Quiet := by
  induction items with
  | nil => exact Quiet.pure []
  | cons item rest inductionHypothesis =>
    rw [List.mapM_cons]
    have later := inductionHypothesis fun other member =>
      quiet other (List.mem_cons_of_mem item member)
    exact (quiet item List.mem_cons_self).bind fun _ => later.bind fun _ => Quiet.pure _

theorem mapError (embed : Error → Other) {action : Action Error Answer} (quiet : action.Quiet) :
    (action.mapError embed).Quiet := quiet

/-- A quiet action leaves nothing behind when it fails. -/
theorem allOrNothing {action : Action Error Answer} (quiet : action.Quiet) :
    action.AllOrNothing := fun _ _ _ failed => quiet.eq failed

end Quiet

namespace AllOrNothing

/-- A transaction leaves nothing behind when it fails. -/
theorem atomically (action : Action Error Answer) : action.atomically.AllOrNothing :=
  fun _ _ _ failed => atomically_run_of_error failed

/-- What fails after a quiet action fails on the database that the quiet action was given. -/
theorem bind {first : Action Error Answer} {next : Answer → Action Error Next}
    (quiet : first.Quiet) (nextAllOrNothing : ∀ answer, (next answer).AllOrNothing) :
    (first >>= next).AllOrNothing := by
  intro database after error failed
  cases run : first database with
  | mk outcome between =>
    have same := quiet.eq run
    subst same
    cases outcome with
    | error cause =>
      rw [bind_run_of_error run] at failed
      exact (Prod.mk.inj failed).2.symm
    | ok answer =>
      rw [bind_run_of_ok run] at failed
      exact nextAllOrNothing answer failed

end AllOrNothing

/-- The action leaves the database alone, and its outcome does not depend on it either. -/
def Detached (action : Action Error Answer) : Prop :=
  ∃ outcome, ∀ database, action database = (outcome, database)

namespace Detached

theorem pure (answer : Answer) : Detached (pure answer : Action Error Answer) :=
  ⟨.ok answer, fun _ => rfl⟩

theorem fail (error : Error) : Detached (fail error : Action Error Answer) :=
  ⟨.error error, fun _ => rfl⟩

/-- A detached action may go on with detached ones. -/
theorem bind {first : Action Error Answer} {next : Answer → Action Error Next}
    (detached : first.Detached) (detachedNext : ∀ answer, (next answer).Detached) :
    (first >>= next).Detached := by
  obtain ⟨outcome, run⟩ := detached
  cases outcome with
  | error error => exact ⟨.error error, fun database => bind_run_of_error (run database)⟩
  | ok answer =>
    obtain ⟨last, runNext⟩ := detachedNext answer
    exact ⟨last, fun database => (bind_run_of_ok (run database)).trans (runNext database)⟩

/-- Detached actions in a row are detached. -/
theorem mapM {Item : Type} {action : Item → Action Error Answer}
    (detached : ∀ item, (action item).Detached) (items : List Item) :
    (items.mapM action).Detached := by
  induction items with
  | nil => exact Detached.pure []
  | cons item rest inductionHypothesis =>
    rw [List.mapM_cons]
    exact (detached item).bind fun _ => inductionHypothesis.bind fun _ => Detached.pure _

end Detached

end FriendGraph.Action
