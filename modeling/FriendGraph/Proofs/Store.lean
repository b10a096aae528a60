import FriendGraph.Proofs.Action
import FriendGraph.Proofs.Counters
import FriendGraph.Store

/-! # What the operations of the store answer

Each operation of the store answers under one condition on the tables, with one change of
them; a reading leaves the database as it is. An operation on a list comes out as if it were a
single statement, however the list is cut into batches: if pairs of edges are appended at all, they
are appended as one list (`Store.insertPairs_eq_ok_iff`), counters are raised by the whole list
(`Store.increment_eq`), and they are lowered by a list in which nobody occurs twice
(`Store.decrement_eq`).
-/

namespace FriendGraph

/-! ## Single statements -/

namespace Statement

variable {Answer : Type} {answer : Answer} {database after : Database}

/-- Users are asked successfully exactly when their table is there. -/
theorem askUsers_eq_ok_iff {question : Directory → Answer} :
    askUsers question database = (.ok answer, after) ↔
      ∃ directory, database.users = some directory ∧ answer = question directory ∧
        after = database := by
  unfold askUsers
  cases database.users <;> simp [eq_comm]

/-- Edges are asked successfully exactly when their table is there. -/
theorem askEdges_eq_ok_iff {question : Table EdgeRow → Answer} :
    askEdges question database = (.ok answer, after) ↔
      ∃ table, database.edges = some table ∧ answer = question table ∧ after = database := by
  unfold askEdges
  cases database.edges <;> simp [eq_comm]

/-- Edges are changed successfully exactly when their table is there. -/
theorem changeEdges_eq_ok_iff {change : Table EdgeRow → Answer × Table EdgeRow} :
    changeEdges change database = (.ok answer, after) ↔
      ∃ table, database.edges = some table ∧ answer = (change table).1 ∧
        after = { database with edges := some (change table).2 } := by
  unfold changeEdges
  cases database.edges <;> simp [eq_comm]

/-- Counters are changed successfully exactly when their table is there. -/
theorem changeCounters_eq_ok_iff {change : Table CounterRow → Table CounterRow} :
    changeCounters change database = (.ok (), after) ↔
      ∃ table, database.counters = some table ∧
        after = { database with counters := some (change table) } := by
  unfold changeCounters
  cases database.counters <;> simp [eq_comm]

/-- Two changes of the counters are one. -/
theorem changeCounters_bind (first second : Table CounterRow → Table CounterRow) :
    (changeCounters first >>= fun _ => changeCounters second) =
      changeCounters fun table => second (first table) := by
  funext database
  show Action.bind _ _ database = _
  unfold Action.bind changeCounters
  cases database.counters <;> rfl

/-- Edges are added successfully exactly when the grown rows are those of a table. -/
theorem growEdges_eq_ok_iff {rows : List EdgeRow} :
    growEdges rows database = (.ok (), after) ↔
      ∃ table grown, database.edges = some table ∧ grown.rows = table.rows ++ rows ∧
        after = { database with edges := some grown } := by
  unfold growEdges
  cases database.edges with
  | none => simp
  | some table =>
    cases appended : table.appendAll? rows with
    | none =>
      have refused : ∀ grown : Table EdgeRow, grown.rows ≠ table.rows ++ rows := by
        intro grown same
        rw [Table.appendAll?_eq_some_iff.mpr same] at appended
        cases appended
      simp [appended, refused]
    | some grown =>
      have same := Table.appendAll?_eq_some_iff.mp appended
      have only : ∀ other : Table EdgeRow, other.rows = table.rows ++ rows ↔ other = grown := by
        intro other
        exact ⟨fun rows => Table.ext (rows.trans same.symm), fun rows => rows ▸ same⟩
      simp [appended, only, eq_comm]

/-- Adding edges fails because a key is taken or because the table is missing. -/
theorem error_of_growEdges {rows : List EdgeRow} {error : StorageError}
    (failed : growEdges rows database = (.error error, after)) :
    error = .database (if database.edges.isSome then .takenKey else .missingTable .edges) := by
  unfold growEdges at failed
  cases present : database.edges with
  | none =>
    rw [present] at failed
    cases (Prod.mk.inj failed).1
    rfl
  | some table =>
    rw [present] at failed
    dsimp only at failed
    split at failed
    · cases (Prod.mk.inj failed).1
    · cases (Prod.mk.inj failed).1
      rfl

/-- Asking the users changes nothing. -/
theorem quiet_askUsers (question : Directory → Answer) : (askUsers question).Quiet := by
  intro database
  unfold askUsers
  cases database.users <;> rfl

/-- Asking the edges changes nothing. -/
theorem quiet_askEdges (question : Table EdgeRow → Answer) : (askEdges question).Quiet := by
  intro database
  unfold askEdges
  cases database.edges <;> rfl

end Statement

namespace Store

variable {database after : Database}

/-! ## Users -/

/-- Reading an identifier changes nothing. -/
theorem quiet_decodeId (bytes : StoredId) : (decodeId bytes).Quiet := by
  unfold decodeId
  split
  · exact Action.Quiet.pure _
  · exact Action.Quiet.fail _

/-- Collecting answers changes nothing if the statements do not. -/
theorem quiet_collect {Answer : Type} {plan : List (Statement (List Answer))}
    (quiet : ∀ statement ∈ plan, statement.run.Quiet) : (collect plan).Quiet :=
  (Action.Quiet.mapM quiet).bind fun _ => Action.Quiet.pure _

/-- What every question of a plan fails with is what the plan fails with. -/
theorem collect_eq_error {Answer : Type} {plan : List (Statement (List Answer))}
    {error : StorageError} (some : plan ≠ [])
    (fails : ∀ statement ∈ plan, statement.run database = (.error error, database)) :
    collect plan database = (.error error, database) := by
  have failed : plan.mapM Statement.run database = (.error error, database) := by
    apply Action.mapM_eq_error
    · exact fun statement member => .inr (fails statement member)
    · obtain ⟨first, rest, rfl⟩ := List.exists_cons_of_ne_nil some
      exact ⟨first, List.mem_cons_self, fails first List.mem_cons_self⟩
  rw [collect, Action.bind_run_of_error failed]

/-- Looking accounts up changes nothing. -/
theorem quiet_lookupAccounts (budget : Budget) (externalIds : List String) :
    (lookupAccounts budget externalIds).Quiet := by
  have plan : (collect (lookupPlan budget externalIds)).Quiet := by
    apply quiet_collect
    intro statement member
    obtain ⟨chunk, _, rfl⟩ := List.mem_map.mp member
    exact Statement.quiet_askUsers _
  exact plan.bind fun _ =>
    (Action.Quiet.mapM fun bytes _ => quiet_decodeId bytes).bind fun _ => Action.Quiet.pure _

/-- A user is registered if the directory has their identifier. -/
theorem isRegistered_eq_ok_iff {id : UserId} {isRegistered : Bool} :
    Store.isRegistered id database = (.ok isRegistered, after) ↔
      ∃ directory, database.users = some directory ∧
        isRegistered = (directory.withId? id.bytes).isSome ∧ after = database := by
  unfold Store.isRegistered
  simp only [Action.bind_eq_ok_iff, Statement.run, Statement.askUsers_eq_ok_iff,
    Action.pure_eq_ok_iff]
  constructor
  · rintro ⟨_, _, ⟨directory, present, rfl, rfl⟩, rfl, rfl⟩
    exact ⟨directory, present, by rw [Option.isSome_map], rfl⟩
  · rintro ⟨directory, present, rfl, rfl⟩
    exact ⟨_, _, ⟨directory, present, rfl, rfl⟩, by rw [Option.isSome_map], rfl⟩

/-- An identifier is read exactly from its own bytes. -/
theorem decodeId_eq_ok_iff {bytes : StoredId} {id : UserId} :
    decodeId bytes database = (.ok id, after) ↔ id.bytes = bytes ∧ after = database := by
  unfold decodeId
  cases found : UserId.ofStored? bytes with
  | some decoded =>
    have same : UserId.ofStored? bytes = some id ↔ id.bytes = bytes := UserId.ofStored?_eq_some_iff
    rw [found, Option.some.injEq, eq_comm] at same
    simp only [Action.pure_eq_ok_iff, same]
  | none =>
    have other : id.bytes ≠ bytes := by
      rintro rfl
      rw [UserId.ofStored?_bytes] at found
      cases found
    simp [other]

/-- A handle is found with the user that the directory has for it. -/
theorem findHandle_eq_ok_iff {handle : String} {found : Option UserId} :
    findHandle handle database = (.ok found, after) ↔
      ∃ directory, database.users = some directory ∧
        found.map UserId.bytes = (directory.withHandle? handle).map (·.id) ∧
        after = database := by
  unfold findHandle
  simp only [Action.bind_eq_ok_iff, Statement.run, Statement.askUsers_eq_ok_iff]
  constructor
  · rintro ⟨_, _, ⟨directory, present, rfl, rfl⟩, decoded⟩
    refine ⟨directory, present, ?_⟩
    cases named : directory.withHandle? handle with
    | none =>
      simp only [named, Option.map_none, Action.pure_eq_ok_iff] at decoded
      simp [decoded]
    | some row =>
      simp only [named, Option.map_some, Action.bind_eq_ok_iff, decodeId_eq_ok_iff,
        Action.pure_eq_ok_iff] at decoded
      obtain ⟨id, _, ⟨same, rfl⟩, rfl, rfl⟩ := decoded
      simp [same]
  · rintro ⟨directory, present, same, rfl⟩
    refine ⟨_, _, ⟨directory, present, rfl, rfl⟩, ?_⟩
    cases named : directory.withHandle? handle with
    | none =>
      rw [named, Option.map_none, Option.map_eq_none_iff] at same
      simp [same]
    | some row =>
      rw [named, Option.map_some, Option.map_eq_some_iff] at same
      obtain ⟨id, rfl, same⟩ := same
      simp only [Option.map_some, Action.bind_eq_ok_iff, decodeId_eq_ok_iff,
        Action.pure_eq_ok_iff]
      exact ⟨id, _, ⟨same, rfl⟩, rfl, rfl⟩

/-! ## Edges -/

/-- A row joins two users exactly when it is stored under them. -/
theorem joins_iff {row : EdgeRow} {source destination : UserId} :
    row.joins source destination = true ↔
      Keyed.key row = (source.bytes, destination.bytes) := by
  simp [EdgeRow.joins, Keyed.key]

/-- At most one row joins two users, and it is the one that is found. -/
theorem any_joins (table : Table EdgeRow) (source destination : UserId)
    (further : EdgeRow → Bool) :
    (table.rows.any fun row => row.joins source destination && further row) =
      (table.find? (source.bytes, destination.bytes)).any further := by
  rw [Bool.eq_iff_iff, List.any_eq_true, Option.any_eq_true]
  simp only [Table.find?_eq_some_iff, Bool.and_eq_true, joins_iff]
  exact exists_congr fun _ => and_assoc.symm

/-- A row joins two users exactly when their key is taken. -/
theorem any_joins_eq_has (table : Table EdgeRow) (source destination : UserId) :
    (table.rows.any fun row => row.joins source destination) =
      table.has (source.bytes, destination.bytes) := by
  have found := any_joins table source destination fun _ => true
  simp only [Bool.and_true] at found
  rw [found, Table.has]
  cases table.find? (source.bytes, destination.bytes) <;> rfl

/-- Recoding touches the one row that joins the two users. -/
theorem find?_recode (source destination : UserId) (code time : Int) (table : Table EdgeRow)
    (key : StoredId × StoredId) :
    (Statement.recode source destination code time table).find? key =
      if key = (source.bytes, destination.bytes) then
        (table.find? key).map fun row => row.withCode code time
      else table.find? key := by
  unfold Statement.recode
  rw [Table.find?_adjust]
  cases found : table.find? key with
  | none => simp
  | some row =>
    have keyed := (Table.find?_eq_some_iff.mp found).2
    have meets : (row.joins source destination = true) =
        (key = (source.bytes, destination.bytes)) := propext (keyed ▸ joins_iff)
    simp only [Option.map_some, meets]
    split <;> rfl

/-- The stored edge of two users as an edge, if its state is known. -/
def decodeEdge? (source destination : UserId) (row : EdgeRow) : Option Edge :=
  (EdgeState.ofCode? row.code).map fun state =>
    ⟨source, destination, row.position, row.updatedAt, state⟩

/-- An edge is read as what its row says. -/
theorem getEdge_eq_ok_iff {source destination : UserId} {found : Option Edge} :
    getEdge source destination database = (.ok found, after) ↔
      ∃ table, database.edges = some table ∧
        found.map some =
          (table.find? (source.bytes, destination.bytes)).map (decodeEdge? source destination) ∧
        after = database := by
  unfold getEdge
  simp only [Action.bind_eq_ok_iff, Statement.run, Statement.askEdges_eq_ok_iff]
  constructor
  · rintro ⟨_, _, ⟨table, present, rfl, rfl⟩, decoded⟩
    refine ⟨table, present, ?_⟩
    cases stored : table.find? (source.bytes, destination.bytes) with
    | none =>
      simp only [stored, Action.pure_eq_ok_iff] at decoded
      simp [decoded]
    | some row =>
      cases known : EdgeState.ofCode? row.code with
      | none =>
        simp only [stored, Action.bind_eq_ok_iff, decodeState, known, Action.fail_ne_ok] at decoded
        obtain ⟨_, _, impossible, _⟩ := decoded
        exact impossible.elim
      | some state =>
        simp only [stored, Action.bind_eq_ok_iff, decodeState, known,
          Action.pure_eq_ok_iff] at decoded
        obtain ⟨_, _, ⟨rfl, rfl⟩, rfl, rfl⟩ := decoded
        simp [decodeEdge?, known]
  · rintro ⟨table, present, same, rfl⟩
    refine ⟨_, _, ⟨table, present, rfl, rfl⟩, ?_⟩
    cases stored : table.find? (source.bytes, destination.bytes) with
    | none =>
      rw [stored, Option.map_none, Option.map_eq_none_iff] at same
      simp [same]
    | some row =>
      rw [stored, Option.map_some, Option.map_eq_some_iff] at same
      obtain ⟨edge, rfl, same⟩ := same
      obtain ⟨state, known, rfl⟩ := Option.map_eq_some_iff.mp same.symm
      simp only [Action.bind_eq_ok_iff, decodeState, known, Action.pure_eq_ok_iff]
      exact ⟨state, _, ⟨rfl, rfl⟩, rfl, rfl⟩

/-- Inserting adds a connected row where the key is free, and says whether it was. -/
theorem insertIfAbsent_eq_ok_iff {source destination : UserId} {time : Int}
    {isNew : Bool} :
    insertIfAbsent source destination time database = (.ok isNew, after) ↔
      ∃ table, database.edges = some table ∧
        isNew = !table.has (source.bytes, destination.bytes) ∧
        after = { database with
          edges := some (table.insert (EdgeRow.connected source destination time)) } := by
  unfold insertIfAbsent
  simp only [Statement.run, Statement.changeEdges_eq_ok_iff]
  refine exists_congr fun table => and_congr_right fun _ => ?_
  have keyed : Keyed.key (EdgeRow.connected source destination time) =
      (source.bytes, destination.bytes) := rfl
  rw [Table.append?_eq_ite, keyed]
  cases taken : table.has (source.bytes, destination.bytes) with
  | true => simp [Table.insert_of_has (keyed ▸ taken)]
  | false => simp

/-- Deleting takes the row away that joins the two users, and says whether there was one. -/
theorem deleteEdge_eq_ok_iff {source destination : UserId} {wasThere : Bool} :
    deleteEdge source destination database = (.ok wasThere, after) ↔
      ∃ table, database.edges = some table ∧
        wasThere = table.has (source.bytes, destination.bytes) ∧
        after = { database with
          edges := some (table.filter fun row => !row.joins source destination) } := by
  unfold deleteEdge
  simp only [Statement.run, Statement.changeEdges_eq_ok_iff, any_joins_eq_has]

/-- Deleting spares a blocked row, and says whether a row was deleted. -/
theorem deleteUnlessBlocked_eq_ok_iff {source destination : UserId} {wasDeleted : Bool} :
    deleteUnlessBlocked source destination database = (.ok wasDeleted, after) ↔
      ∃ table, database.edges = some table ∧
        wasDeleted = (table.find? (source.bytes, destination.bytes)).any
          (fun row => row.code != EdgeState.blocked.code) ∧
        after = { database with
          edges := some (table.filter fun row =>
            !(row.joins source destination && row.code != EdgeState.blocked.code)) } := by
  unfold deleteUnlessBlocked
  simp only [Statement.run, Statement.changeEdges_eq_ok_iff, any_joins]

/-- Setting a state recodes the row that joins the two users, and says whether there is one. -/
theorem setState_eq_ok_iff {source destination : UserId} {state : EdgeState} {time : Int}
    {wasThere : Bool} :
    setState source destination state time database = (.ok wasThere, after) ↔
      ∃ table, database.edges = some table ∧
        wasThere = table.has (source.bytes, destination.bytes) ∧
        after = { database with
          edges := some (Statement.recode source destination state.code time table) } := by
  unfold setState
  simp only [Statement.run, Statement.changeEdges_eq_ok_iff, any_joins_eq_has]

/-! ## Plans -/

theorem runAll_cons (statement : Statement Unit) (plan : List (Statement Unit)) :
    runAll (statement :: plan) = statement.run >>= fun _ => runAll plan := List.forM_cons

theorem runAll_singleton (statement : Statement Unit) : runAll [statement] = statement.run :=
  bind_pure_unit

/-- A plan runs its first statement, and the others on what that left. -/
theorem runAll_cons_eq_ok_iff {statement : Statement Unit} {plan : List (Statement Unit)} :
    runAll (statement :: plan) database = (.ok (), after) ↔
      ∃ between, statement.run database = (.ok (), between) ∧
        runAll plan between = (.ok (), after) := by
  rw [runAll_cons, Action.bind_eq_ok_iff]
  constructor
  · rintro ⟨_, between, first, later⟩
    exact ⟨between, first, later⟩
  · rintro ⟨between, first, later⟩
    exact ⟨(), between, first, later⟩

/-- Only no items make no chunks. -/
theorem chunks_eq_nil_iff {Item : Type} {size : Nat} {items : List Item} :
    chunks size items = [] ↔ items = [] := by
  constructor
  · intro none
    have whole := flatten_chunks size items
    rw [none] at whole
    exact whole.symm
  · rintro rfl
    cases size <;> rfl

/-- A single item is a single chunk. -/
theorem chunks_singleton {Item : Type} {size : Nat} (positive : 0 < size) (item : Item) :
    chunks size [item] = [[item]] := by
  cases size with
  | zero => exact absurd positive (Nat.lt_irrefl 0)
  | succ size => rfl

/-! ### Batches of edges -/

/-- Insertions of several batches come out as one insertion of all the rows; without a batch no
statement is sent. -/
theorem runAll_insertEdges_eq_ok_iff {batches : List (List EdgeRow)} :
    runAll (batches.map .insertEdges) database = (.ok (), after) ↔
      batches = [] ∧ after = database ∨
        ∃ table grown, database.edges = some table ∧
          grown.rows = table.rows ++ batches.flatten ∧
          after = { database with edges := some grown } := by
  induction batches generalizing database with
  | nil =>
    refine Action.pure_eq_ok_iff.trans ⟨fun same => .inl ⟨rfl, same.2⟩, ?_⟩
    rintro (⟨_, same⟩ | ⟨table, grown, present, rows, rfl⟩)
    · exact ⟨rfl, same⟩
    · rw [List.flatten_nil, List.append_nil] at rows
      rw [Table.ext rows, ← present]
      exact ⟨rfl, rfl⟩
  | cons batch rest inductionHypothesis =>
    rw [List.map_cons, runAll_cons_eq_ok_iff]
    simp only [Statement.run, Statement.growEdges_eq_ok_iff, inductionHypothesis]
    constructor
    · rintro ⟨_, ⟨table, grown, present, rows, rfl⟩, ⟨rfl, rfl⟩ | ⟨_, last, same, later, rfl⟩⟩
      · exact .inr ⟨table, grown, present, by simpa using rows, rfl⟩
      · cases same
        exact .inr ⟨table, last, present, by simp [later, rows], rfl⟩
    · rintro (⟨impossible, _⟩ | ⟨table, last, present, rows, rfl⟩)
      · cases impossible
      · rw [List.flatten_cons, ← List.append_assoc] at rows
        -- The rows of the first batch alone already make a table.
        have distinct : ((table.rows ++ batch).map Keyed.key).Nodup := by
          have whole := last.nodup_keys
          rw [rows, List.map_append, List.nodup_append] at whole
          exact whole.1
        exact ⟨_, ⟨table, ⟨table.rows ++ batch, distinct⟩, present, rfl, rfl⟩,
          .inr ⟨_, last, rfl, rows, rfl⟩⟩

/-- Every batch finds the table of edges as it was found by the first one. -/
theorem error_of_runAll_insertEdges {batches : List (List EdgeRow)} {error : StorageError}
    (failed : runAll (batches.map .insertEdges) database = (.error error, after)) :
    error = .database (if database.edges.isSome then .takenKey else .missingTable .edges) := by
  induction batches generalizing database with
  | nil => cases (Prod.mk.inj failed).1
  | cons batch rest inductionHypothesis =>
    rw [List.map_cons, runAll_cons] at failed
    cases run : (Statement.insertEdges batch).run database with
    | mk outcome between =>
      cases outcome with
      | error cause =>
        rw [Action.bind_run_of_error run] at failed
        cases (Prod.mk.inj failed).1
        exact Statement.error_of_growEdges run
      | ok answer =>
        rw [Action.bind_run_of_ok run] at failed
        obtain ⟨table, grown, present, _, rfl⟩ := Statement.growEdges_eq_ok_iff.mp run
        rw [inductionHypothesis failed, present]
        rfl

/-- The edges that connect a user with peers, both ways for each peer. -/
def pairs (source : UserId) (peers : List UserId) (time : Int) : List EdgeRow :=
  peers.flatMap fun peer =>
    [EdgeRow.connected source peer time, EdgeRow.connected peer source time]

/-- Pairs with batches of peers, put one after another, are pairs with all of them. -/
theorem flatten_map_pairs (source : UserId) (batches : List (List UserId)) (time : Int) :
    (batches.map fun batch => pairs source batch time).flatten =
      pairs source batches.flatten time := by
  induction batches with
  | nil => rfl
  | cons batch rest inductionHypothesis =>
    rw [List.map_cons, List.flatten_cons, inductionHypothesis, List.flatten_cons, pairs, pairs,
      pairs, List.flatMap_append]

/-- The plan to connect peers inserts their pairs chunk by chunk. -/
theorem pairPlan_eq (budget : Budget) (source : UserId) (peers : List UserId) (time : Int) :
    pairPlan budget source peers time =
      ((chunks (budget.perStatement 10 0) peers).map fun chunk => pairs source chunk time).map
        .insertEdges := by
  rw [List.map_map]
  rfl

/-- Connecting peers in chunks adds all pairs, if there are any, or fails. -/
theorem insertPairs_eq_ok_iff {budget : Budget} {source : UserId} {peers : List UserId}
    {time : Int} {answer : Unit} :
    insertPairs budget source peers time database = (.ok answer, after) ↔
      peers = [] ∧ after = database ∨
        ∃ table grown, database.edges = some table ∧
          grown.rows = table.rows ++ pairs source peers time ∧
          after = { database with edges := some grown } := by
  rw [insertPairs, pairPlan_eq, runAll_insertEdges_eq_ok_iff, flatten_map_pairs, flatten_chunks,
    List.map_eq_nil_iff, chunks_eq_nil_iff]

/-! ### Batches of users -/

/-- Changes of the counters that are made one after another are one change. -/
theorem runAll_changeCounters {Item : Type} {statement : Item → Statement Unit}
    {change : Item → Table CounterRow → Table CounterRow}
    (changes : ∀ item, (statement item).run = Statement.changeCounters (change item))
    {items : List Item} (some : items ≠ []) :
    runAll (items.map statement) =
      Statement.changeCounters fun table =>
        items.foldl (fun table item => change item table) table := by
  induction items with
  | nil => exact absurd rfl some
  | cons item rest inductionHypothesis =>
    cases rest with
    | nil => exact (runAll_singleton _).trans (changes item)
    | cons next later =>
      rw [List.map_cons, runAll_cons, inductionHypothesis (List.cons_ne_nil next later), changes,
        Statement.changeCounters_bind]
      rfl

/-- Counters are raised by one change, however the users are cut into batches; without a batch no
statement is sent. -/
theorem runAll_raiseCounters (batches : List (List UserId)) (amount time : Int) :
    runAll (batches.map fun batch => .raiseCounters batch amount time) =
      if batches = [] then pure ()
      else Statement.changeCounters (Statement.raiseAll batches.flatten amount time) := by
  split
  · next none =>
    rw [none]
    rfl
  · next some =>
    rw [runAll_changeCounters (fun _ => rfl) some]
    exact congrArg _ (funext fun table => Statement.foldl_raiseAll batches amount time table)

/-- As long as nobody is listed twice, counters are lowered by one change, however the users are
cut into batches. -/
theorem runAll_lowerCounters {batches : List (List UserId)} (distinct : batches.flatten.Nodup)
    (time : Int) :
    runAll (batches.map fun batch => .lowerCounters batch time) =
      if batches = [] then pure ()
      else Statement.changeCounters (Statement.lower batches.flatten time) := by
  split
  · next none =>
    rw [none]
    rfl
  · next some =>
    rw [runAll_changeCounters (fun _ => rfl) some]
    exact congrArg _ (funext fun table => Statement.foldl_lower distinct time table)

/-- Raising counters in chunks is raising them at once. -/
theorem increment_eq (budget : Budget) (users : List UserId) (amount time : Int) :
    increment budget users amount time =
      if users = [] then pure ()
      else Statement.changeCounters (Statement.raiseAll users amount time) := by
  rw [increment, incrementPlan, runAll_raiseCounters, flatten_chunks]
  simp only [chunks_eq_nil_iff]

/-- Lowering the counters of different users in chunks is lowering them at once. -/
theorem decrement_eq (budget : Budget) {users : List UserId} (distinct : users.Nodup)
    (time : Int) :
    decrement budget users time =
      if users = [] then pure ()
      else Statement.changeCounters (Statement.lower users time) := by
  have cutDistinct : (chunks (budget.perStatement 1 1) users).flatten.Nodup := by
    rwa [flatten_chunks]
  rw [decrement, decrementPlan, runAll_lowerCounters cutDistinct, flatten_chunks]
  simp only [chunks_eq_nil_iff]

/-- A change of the counters of listed items fails when there are items but no counters. -/
theorem ite_changeCounters_run {Item : Type} {items : List Item}
    {change : Table CounterRow → Table CounterRow}
    (idle : items = [] → ∀ table, change table = table) (database : Database) :
    (if items = [] then pure () else Statement.changeCounters change) database =
      if items = [] ∨ database.counters.isSome then
        (.ok (), { database with counters := database.counters.map change })
      else (.error (.database (.missingTable .counters)), database) := by
  by_cases none : items = []
  · have same : database.counters.map change = database.counters := by
      rw [funext (idle none)]
      exact Option.map_id'
    rw [if_pos none, if_pos (.inl none), same]
    rfl
  · rw [if_neg none, Statement.changeCounters]
    cases database.counters <;> simp [none]

/-- Counters have to be there as soon as there is one to raise. -/
theorem increment_eq_ok_iff {budget : Budget} {users : List UserId} {amount time : Int}
    {answer : Unit} :
    increment budget users amount time database = (.ok answer, after) ↔
      (users = [] ∨ database.counters.isSome) ∧
        after = { database with
          counters := database.counters.map (Statement.raiseAll users amount time) } := by
  have idle : users = [] → ∀ table, Statement.raiseAll users amount time table = table := by
    rintro rfl table
    rfl
  rw [increment_eq, ite_changeCounters_run idle]
  split
  · next counted =>
    simp only [Prod.mk.injEq, true_and, counted]
    exact eq_comm
  · next uncounted =>
    exact iff_of_false (fun same => nomatch (Prod.mk.inj same).1) fun both => uncounted both.1

/-- Lowering one counter succeeds exactly when the counters are there. -/
theorem decrementOne_eq_ok_iff {budget : Budget} {user : UserId} {time : Int}
    {answer : Unit} :
    decrementOne budget user time database = (.ok answer, after) ↔
      ∃ table, database.counters = some table ∧
        after = { database with counters := some (Statement.lower [user] time table) } := by
  have alone : [user].Nodup := List.pairwise_singleton _ user
  rw [decrementOne, decrement_eq budget alone, if_neg (List.cons_ne_nil user []),
    Statement.changeCounters_eq_ok_iff]

/-! ## Readings -/

/-- Asking for related peers changes nothing. -/
theorem quiet_relatedPeers (budget : Budget) (user : UserId) (candidates : List UserId) :
    (relatedPeers budget user candidates).Quiet := by
  have plan : (collect (relatedPlan budget user candidates)).Quiet := by
    apply quiet_collect
    intro statement member
    obtain ⟨chunk, _, asked⟩ := List.mem_flatMap.mp member
    simp only [List.mem_cons, List.not_mem_nil, or_false] at asked
    rcases asked with rfl | rfl
    · exact Statement.quiet_askEdges _
    · exact Statement.quiet_askEdges _
  exact plan.bind fun _ =>
    (Action.Quiet.mapM fun bytes _ => quiet_decodeId bytes).bind fun _ => Action.Quiet.pure _

/-- Reading a friend changes nothing. -/
theorem quiet_decodeFriend (listed : UserRow × Int) : (decodeFriend listed).Quiet := by
  have state : (decodeState listed.2).Quiet := by
    unfold decodeState
    split
    · exact Action.Quiet.pure _
    · exact Action.Quiet.fail _
  exact (quiet_decodeId _).bind fun _ => state.bind fun _ => Action.Quiet.pure _

/-- Listing friends changes nothing. -/
theorem quiet_listFriends (user : UserId) : (listFriends user).Quiet := by
  have asked : (Statement.listing user).run.Quiet := by
    intro database
    simp only [Statement.run]
    split <;> rfl
  exact asked.bind fun _ => Action.Quiet.mapM fun listed _ => quiet_decodeFriend listed

end Store

end FriendGraph
