import FriendGraph.Proofs.Outcome

/-! # What an action depends on

Let some keys of edges be visible. Two databases *agree* when they have the same users and the same
visible edges in the same order (`Database.Agree`), and an action is *local* when it cannot tell
such databases apart: it has the same outcome on both, and what it leaves agrees again
(`Action.Local`). Counters are never read for an outcome, so they do not count. Local actions
compose, and what a caller asks for is local as soon as the edges between the users it is about are
visible. The one question whose answer comes in the order of other edges, who is related to a user,
is asked for the sake of a filter in which the order is lost
(`Relationship.local_bind_relatedPeers`).
-/

namespace FriendGraph

namespace Table

variable {Row Key : Type} [Keyed Row Key] {one other : Table Row} {seen : Key → Bool} {row : Row}

/-- The rows under visible keys. -/
def part (seen : Key → Bool) (table : Table Row) : List Row :=
  table.rows.filter fun row => seen (Keyed.key row)

/-- The visible rows of a filtered table are filtered the same way. -/
theorem part_filter (keep : Row → Bool) (table : Table Row) :
    (table.filter keep).part seen = (table.part seen).filter keep := by
  simp only [part, rows_filter, List.filter_filter, Bool.and_comm]

/-- A change that keeps the keys changes the visible rows and shows no others. -/
theorem part_adjust (change : Row → Row) (keeps : ∀ row, Keyed.key (change row) = Keyed.key row)
    (table : Table Row) : (table.adjust change keeps).part seen = (table.part seen).map change := by
  simp only [part, rows_adjust, List.filter_map, Function.comp_def, keeps]

/-- Where all edges that leave somebody are visible, no other ones are read. -/
theorem filter_source_part {seen : StoredId × StoredId → Bool} {user : StoredId}
    (visible : ∀ destination, seen (user, destination) = true) (table : Table EdgeRow) :
    (table.part seen).filter (·.source = user) = table.rows.filter (·.source = user) := by
  rw [part, List.filter_filter]
  refine List.filter_congr fun row _ => ?_
  by_cases leaves : row.source = user
  · have isSeen : seen (Keyed.key row) = true := by
      change seen (row.source, row.destination) = true
      rw [leaves]
      exact visible row.destination
    simp [leaves, isSeen]
  · simp [leaves]

variable [DecidableEq Key] {key : Key}

/-- What is stored under a visible key is found among the visible rows. -/
theorem find?_of_part (same : one.part seen = other.part seen) (visible : seen key = true) :
    one.find? key = other.find? key := by
  have read : ∀ table : Table Row,
      table.find? key = (table.part seen).find? fun row => Keyed.key row = key := by
    intro table
    rw [find?, part, List.find?_filter]
    congr 1
    funext row
    by_cases keyed : Keyed.key row = key
    · simp [keyed, visible]
    · simp [keyed]
  rw [read, read, same]

/-- Whether a visible key is taken shows in the visible rows. -/
theorem has_of_part (same : one.part seen = other.part seen) (visible : seen key = true) :
    one.has key = other.has key := by
  rw [has, has, find?_of_part same visible]

/-- A row with a visible key is inserted among the visible rows alike. -/
theorem part_insert_congr (same : one.part seen = other.part seen)
    (visible : seen (Keyed.key row) = true) :
    (one.insert row).part seen = (other.insert row).part seen := by
  unfold part at same ⊢
  rw [rows_insert, rows_insert, List.filter_append, List.filter_append, same,
    has_of_part same visible]

/-- Several rows can be appended to both tables or to neither. -/
theorem appendAll?_congr {rows : List Row} (same : one.part seen = other.part seen)
    (visible : ∀ row ∈ rows, seen (Keyed.key row) = true) :
    (one.appendAll? rows).map (part seen) = (other.appendAll? rows).map (part seen) := by
  unfold appendAll?
  induction rows generalizing one other with
  | nil => exact congrArg some same
  | cons row rest inductionHypothesis =>
    have first := visible row List.mem_cons_self
    have later := fun next member => visible next (List.mem_cons_of_mem row member)
    rw [List.foldlM_cons, List.foldlM_cons, append?_eq_ite, append?_eq_ite, has_of_part same first]
    cases other.has (Keyed.key row) with
    | true => rfl
    | false => exact inductionHypothesis (part_insert_congr same first) later

end Table

namespace Database

/-- Both databases have the users of a directory and all tables, and the same visible edges in the
same order. -/
structure Agree (directory : Directory) (seen : StoredId × StoredId → Bool)
    (one other : Database) : Prop where
  complete : one.Complete directory
  completeToo : other.Complete directory
  edges : one.edges.map (Table.part seen) = other.edges.map (Table.part seen)

variable {directory : Directory} {seen : StoredId × StoredId → Bool} {one other third : Database}

namespace Agree

theorem symm (agree : Agree directory seen one other) : Agree directory seen other one :=
  ⟨agree.completeToo, agree.complete, agree.edges.symm⟩

theorem trans (agree : Agree directory seen one other)
    (further : Agree directory seen other third) : Agree directory seen one third :=
  ⟨agree.complete, further.completeToo, agree.edges.trans further.edges⟩

/-- The tables of edges of databases that agree. -/
theorem tables (agree : Agree directory seen one other) :
    ∃ first second, one.edges = some first ∧ other.edges = some second ∧
      first.part seen = second.part seen := by
  obtain ⟨first, present⟩ := Option.isSome_iff_exists.mp agree.complete.edges
  obtain ⟨second, also⟩ := Option.isSome_iff_exists.mp agree.completeToo.edges
  have same := agree.edges
  rw [present, also] at same
  exact ⟨first, second, present, also, Option.some.inj same⟩

/-- Databases that agree still do with other edges that look alike. -/
theorem withEdges (agree : Agree directory seen one other) {first second : Table EdgeRow}
    (same : first.part seen = second.part seen) :
    Agree directory seen { one with edges := some first } { other with edges := some second } where
  complete := ⟨agree.complete.users, rfl, agree.complete.counters⟩
  completeToo := ⟨agree.completeToo.users, rfl, agree.completeToo.counters⟩
  edges := congrArg some same

/-- Databases that agree have the same edge where it is visible. -/
theorem edge? (agree : Agree directory seen one other) {source destination : StoredId}
    (visible : seen (source, destination) = true) :
    one.edge? source destination = other.edge? source destination := by
  obtain ⟨first, second, present, also, same⟩ := agree.tables
  rw [edge?_of_edges present, edge?_of_edges also, Table.find?_of_part same visible]

end Agree

end Database

open Database (Agree)

namespace Action

variable {Error Other Answer Next : Type} {directory : Directory}
  {seen : StoredId × StoredId → Bool}

/-- The action has the same outcome on databases that agree, and leaves databases that agree. -/
def Local (directory : Directory) (seen : StoredId × StoredId → Bool)
    (action : Action Error Answer) : Prop :=
  ∀ ⦃one other⦄, Agree directory seen one other →
    (action one).1 = (action other).1 ∧ Agree directory seen (action one).2 (action other).2

namespace Local

/-- An action that answers without a look at the database is local. -/
theorem const (outcome : Except Error Answer) :
    Local directory seen (fun database => (outcome, database) : Action Error Answer) :=
  fun _ _ agree => ⟨rfl, agree⟩

theorem pure (answer : Answer) : Local directory seen (pure answer : Action Error Answer) :=
  const (.ok answer)

theorem fail (error : Error) : Local directory seen (fail error : Action Error Answer) :=
  const (.error error)

/-- What comes next has to be local for the answers that there can be. -/
theorem bindOfRun {first : Action Error Answer} {next : Answer → Action Error Next}
    (isLocal : first.Local directory seen)
    (isLocalNext : ∀ database answer after, database.Complete directory →
      first database = (.ok answer, after) → (next answer).Local directory seen) :
    (first >>= next).Local directory seen := by
  intro one other agree
  obtain ⟨same, left⟩ := isLocal agree
  cases run : first one with
  | mk outcome after =>
    cases runToo : first other with
    | mk outcomeToo afterToo =>
      rw [run, runToo] at same left
      cases same
      cases outcome with
      | error error =>
        rw [bind_run_of_error run, bind_run_of_error runToo]
        exact ⟨rfl, left⟩
      | ok answer =>
        rw [bind_run_of_ok run, bind_run_of_ok runToo]
        exact isLocalNext one answer after agree.complete run left

/-- A local action may go on with local ones. -/
theorem bind {first : Action Error Answer} {next : Answer → Action Error Next}
    (isLocal : first.Local directory seen)
    (isLocalNext : ∀ answer, (next answer).Local directory seen) :
    (first >>= next).Local directory seen :=
  isLocal.bindOfRun fun _ answer _ _ _ => isLocalNext answer

/-- What is made of a local answer is local. -/
theorem map (next : Answer → Next) {action : Action Error Answer}
    (isLocal : action.Local directory seen) : (next <$> action).Local directory seen := by
  rw [← bind_pure_comp]
  exact isLocal.bind fun _ => Local.pure _

/-- A choice between local actions is local. -/
theorem ite {condition : Prop} [Decidable condition] {first second : Action Error Answer}
    (isLocal : first.Local directory seen) (isLocalToo : second.Local directory seen) :
    (if condition then first else second).Local directory seen := by
  split
  · exact isLocal
  · exact isLocalToo

/-- An action that may be left out before what comes next. -/
theorem iteBind {condition : Prop} [Decidable condition] {first : Action Error Unit}
    {next : Unit → Action Error Next} (isLocal : first.Local directory seen)
    (isLocalNext : ∀ answer, (next answer).Local directory seen) :
    (if condition then (first >>= fun answer => next answer) else next ()).Local directory seen :=
  .ite (isLocal.bind isLocalNext) (isLocalNext ())

/-- Local actions in a row are local. -/
theorem mapM {Item : Type} {action : Item → Action Error Answer} {items : List Item}
    (isLocal : ∀ item ∈ items, (action item).Local directory seen) :
    (items.mapM action).Local directory seen := by
  induction items with
  | nil => exact Local.pure []
  | cons item rest inductionHypothesis =>
    rw [List.mapM_cons]
    have later := inductionHypothesis fun other member =>
      isLocal other (List.mem_cons_of_mem item member)
    exact (isLocal item List.mem_cons_self).bind fun _ => later.bind fun _ => Local.pure _

/-- Putting errors in other words keeps an action local. -/
theorem mapError (embed : Error → Other) {action : Action Error Answer}
    (isLocal : action.Local directory seen) : (action.mapError embed).Local directory seen := by
  intro one other agree
  obtain ⟨same, left⟩ := isLocal agree
  exact ⟨congrArg (Except.mapError embed) same, left⟩

/-- Both transactions end the same way. -/
theorem atomically {action : Action Error Answer} (isLocal : action.Local directory seen) :
    action.atomically.Local directory seen := by
  intro one other agree
  obtain ⟨same, left⟩ := isLocal agree
  unfold Action.atomically
  cases run : action one with
  | mk outcome after =>
    cases runToo : action other with
    | mk outcomeToo afterToo =>
      rw [run, runToo] at same left
      cases same
      cases outcome with
      | error error => exact ⟨rfl, agree⟩
      | ok answer => exact ⟨rfl, left⟩

end Local

end Action

/-! ## Statements -/

namespace Statement

variable {Answer : Type} {directory : Directory} {seen : StoredId × StoredId → Bool}

/-- Users are never hidden. -/
theorem local_askUsers (question : Directory → Answer) :
    (askUsers question).Local directory seen := by
  intro one other agree
  unfold askUsers
  rw [agree.complete.users, agree.completeToo.users]
  exact ⟨rfl, agree⟩

/-- What is read off visible edges is the same. -/
theorem local_askEdges {question : Table EdgeRow → Answer}
    (congr : ∀ first second : Table EdgeRow, first.part seen = second.part seen →
      question first = question second) : (askEdges question).Local directory seen := by
  intro one other agree
  obtain ⟨first, second, present, also, same⟩ := agree.tables
  unfold askEdges
  rw [present, also]
  exact ⟨congrArg Except.ok (congr first second same), agree⟩

/-- A change of edges is local if the visible edges decide its answer and what becomes of them. -/
theorem local_changeEdges {change : Table EdgeRow → Answer × Table EdgeRow}
    (congr : ∀ first second : Table EdgeRow, first.part seen = second.part seen →
      (change first).1 = (change second).1 ∧
        (change first).2.part seen = (change second).2.part seen) :
    (changeEdges change).Local directory seen := by
  intro one other agree
  obtain ⟨first, second, present, also, same⟩ := agree.tables
  obtain ⟨answer, left⟩ := congr first second same
  unfold changeEdges
  rw [present, also]
  exact ⟨congrArg Except.ok answer, agree.withEdges left⟩

/-- Adding visible edges is local. -/
theorem local_growEdges {rows : List EdgeRow}
    (visible : ∀ row ∈ rows, seen (Keyed.key row) = true) :
    (growEdges rows).Local directory seen := by
  intro one other agree
  obtain ⟨first, second, present, also, same⟩ := agree.tables
  have appended := Table.appendAll?_congr same visible
  unfold growEdges
  rw [present, also]
  dsimp only
  cases grown : first.appendAll? rows with
  | none =>
    rw [grown, Option.map_none, eq_comm, Option.map_eq_none_iff] at appended
    rw [appended]
    exact ⟨rfl, agree⟩
  | some table =>
    rw [grown, Option.map_some, eq_comm, Option.map_eq_some_iff] at appended
    obtain ⟨tableToo, grownToo, left⟩ := appended
    rw [grownToo]
    exact ⟨rfl, agree.withEdges left.symm⟩

/-- A change of counters is local, since nothing is read from them. -/
theorem local_changeCounters (change : Table CounterRow → Table CounterRow) :
    (changeCounters change).Local directory seen := by
  intro one other agree
  obtain ⟨first, present⟩ := Option.isSome_iff_exists.mp agree.complete.counters
  obtain ⟨second, also⟩ := Option.isSome_iff_exists.mp agree.completeToo.counters
  unfold changeCounters
  rw [present, also]
  exact ⟨rfl, ⟨agree.complete.users, agree.complete.edges, rfl⟩,
    ⟨agree.completeToo.users, agree.completeToo.edges, rfl⟩, agree.edges⟩

/-- A user's list is local when all the edges that leave the user are visible. -/
theorem local_listing {user : UserId}
    (visible : ∀ destination, seen (user.bytes, destination) = true) :
    (listing user).run.Local directory seen := by
  intro one other agree
  obtain ⟨first, second, present, also, same⟩ := agree.tables
  have listed_eq : listed user directory first = listed user directory second := by
    rw [listed, listed, leaving, leaving, ← Table.filter_source_part visible, same,
      Table.filter_source_part visible]
  simp only [run, agree.complete.users, agree.completeToo.users, present, also, listed_eq]
  exact ⟨trivial, agree⟩

end Statement

/-! ## The store -/

namespace Store

variable {directory : Directory} {seen : StoredId × StoredId → Bool} {source destination : UserId}
  {time : Int} {budget : Budget}

/-- Whether a user is registered does not depend on edges. -/
theorem local_isRegistered (id : UserId) : (Store.isRegistered id).Local directory seen :=
  (Statement.local_askUsers _).bind fun _ => .pure _

theorem local_decodeId (bytes : StoredId) : (decodeId bytes).Local directory seen := by
  unfold decodeId
  split
  · exact .pure _
  · exact .fail _

theorem local_decodeState (code : Int) : (decodeState code).Local directory seen := by
  unfold decodeState
  split
  · exact .pure _
  · exact .fail _

/-- Who has a handle does not depend on edges. -/
theorem local_findHandle (handle : String) : (findHandle handle).Local directory seen := by
  refine (Statement.local_askUsers _).bind fun stored => ?_
  cases stored with
  | none => exact .pure _
  | some bytes => exact (local_decodeId bytes).bind fun _ => .pure _

/-- Reading a visible edge is local. -/
theorem local_getEdge (visible : seen (source.bytes, destination.bytes) = true) :
    (getEdge source destination).Local directory seen := by
  refine (Statement.local_askEdges fun _ _ same => Table.find?_of_part same visible).bind ?_
  intro stored
  cases stored with
  | none => exact .pure _
  | some row => exact (local_decodeState row.code).bind fun _ => .pure _

/-- Inserting a visible edge is local. -/
theorem local_insertIfAbsent (visible : seen (source.bytes, destination.bytes) = true) :
    (insertIfAbsent source destination time).Local directory seen := by
  refine Statement.local_changeEdges fun first second same => ?_
  have keyed : Keyed.key (EdgeRow.connected source destination time) =
      (source.bytes, destination.bytes) := rfl
  have grown : (first.insert (EdgeRow.connected source destination time)).part seen =
      (second.insert (EdgeRow.connected source destination time)).part seen :=
    Table.part_insert_congr same visible
  rw [Table.append?_eq_ite, Table.append?_eq_ite, keyed, Table.has_of_part same visible]
  cases second.has (source.bytes, destination.bytes) with
  | true => exact ⟨rfl, same⟩
  | false => exact ⟨rfl, grown⟩

/-- Deleting a visible edge is local. -/
theorem local_deleteEdge (visible : seen (source.bytes, destination.bytes) = true) :
    (deleteEdge source destination).Local directory seen := by
  refine Statement.local_changeEdges fun first second same => ?_
  dsimp only
  rw [any_joins_eq_has, any_joins_eq_has, Table.has_of_part same visible, Table.part_filter,
    Table.part_filter, same]
  exact ⟨rfl, rfl⟩

/-- Deleting a visible edge unless it is blocked is local. -/
theorem local_deleteUnlessBlocked (visible : seen (source.bytes, destination.bytes) = true) :
    (deleteUnlessBlocked source destination).Local directory seen := by
  refine Statement.local_changeEdges fun first second same => ?_
  dsimp only
  rw [any_joins, any_joins, Table.find?_of_part same visible, Table.part_filter,
    Table.part_filter, same]
  exact ⟨rfl, rfl⟩

/-- Setting the state of a visible edge is local. -/
theorem local_setState (state : EdgeState)
    (visible : seen (source.bytes, destination.bytes) = true) :
    (setState source destination state time).Local directory seen := by
  refine Statement.local_changeEdges fun first second same => ?_
  dsimp only
  rw [any_joins_eq_has, any_joins_eq_has, Table.has_of_part same visible, Statement.recode,
    Statement.recode, Table.part_adjust, Table.part_adjust, same]
  exact ⟨rfl, rfl⟩

/-- A plan of local statements is local. -/
theorem local_runAll {plan : List (Statement Unit)}
    (isLocal : ∀ statement ∈ plan, statement.run.Local directory seen) :
    (runAll plan).Local directory seen := by
  induction plan with
  | nil => exact .pure _
  | cons statement rest inductionHypothesis =>
    have first : runAll (statement :: rest) = statement.run >>= fun _ => runAll rest :=
      List.forM_cons
    rw [first]
    exact (isLocal statement List.mem_cons_self).bind fun _ =>
      inductionHypothesis fun later member => isLocal later (List.mem_cons_of_mem statement member)

/-- What local statements answer is collected locally. -/
theorem local_collect {Answer : Type} {plan : List (Statement (List Answer))}
    (isLocal : ∀ statement ∈ plan, statement.run.Local directory seen) :
    (collect plan).Local directory seen :=
  (Action.Local.mapM isLocal).bind fun _ => .pure _

/-- Who has which account does not depend on edges. -/
theorem local_lookupAccounts (externalIds : List String) :
    (lookupAccounts budget externalIds).Local directory seen := by
  have plan : (collect (lookupPlan budget externalIds)).Local directory seen := by
    apply local_collect
    intro statement member
    obtain ⟨chunk, _, rfl⟩ := List.mem_map.mp member
    exact Statement.local_askUsers _
  exact plan.bind fun _ =>
    (Action.Local.mapM fun bytes _ => local_decodeId bytes).bind fun _ => .pure _

/-- Raising counters is local. -/
theorem local_increment (users : List UserId) (amount : Int) :
    (increment budget users amount time).Local directory seen := by
  apply local_runAll
  intro statement member
  obtain ⟨chunk, _, rfl⟩ := List.mem_map.mp member
  exact Statement.local_changeCounters _

/-- Lowering a counter is local. -/
theorem local_decrementOne (user : UserId) :
    (decrementOne budget user time).Local directory seen := by
  apply local_runAll
  intro statement member
  obtain ⟨chunk, _, rfl⟩ := List.mem_map.mp member
  exact Statement.local_changeCounters _

/-- Connecting a user with peers is local where the edges between them are visible. -/
theorem local_insertPairs {user : UserId} {peers : List UserId}
    (visible : ∀ peer ∈ peers, seen (user.bytes, peer.bytes) = true ∧
      seen (peer.bytes, user.bytes) = true) :
    (insertPairs budget user peers time).Local directory seen := by
  apply local_runAll
  intro statement member
  obtain ⟨chunk, isChunk, rfl⟩ := List.mem_map.mp member
  refine Statement.local_growEdges fun row made => ?_
  obtain ⟨peer, inChunk, isEdge⟩ := List.mem_flatMap.mp made
  have isPeer : peer ∈ peers := by
    rw [← flatten_chunks (budget.perStatement 10 0) peers]
    exact List.mem_flatten_of_mem isChunk inChunk
  simp only [List.mem_cons, List.not_mem_nil, or_false] at isEdge
  rcases isEdge with rfl | rfl
  · exact (visible peer isPeer).1
  · exact (visible peer isPeer).2

/-- The list of a user is local where all edges that leave the user are visible. -/
theorem local_listFriends {user : UserId}
    (visible : ∀ destination, seen (user.bytes, destination) = true) :
    (listFriends user).Local directory seen := by
  refine (Statement.local_listing visible).bind fun listed => .mapM fun peer _ => ?_
  exact (local_decodeId _).bind fun _ => (local_decodeState _).bind fun _ => .pure _

end Store

/-! ## Changes of relationships -/

namespace Relationship

variable {directory : Directory} {seen : StoredId × StoredId → Bool} {user target : UserId}
  {time : Int} {budget : Budget} {caller : Caller} {Answer : Type}

/-- An action of the store is local as a part of a larger one. -/
theorem local_liftM {action : Action StorageError Answer} (isLocal : action.Local directory seen) :
    (liftM action : Action RelationshipError Answer).Local directory seen :=
  isLocal.mapError _

/-- Connecting two users is local where the edges between them are visible. -/
theorem local_connect (forth : seen (user.bytes, target.bytes) = true)
    (back : seen (target.bytes, user.bytes) = true) :
    (connect budget user target time).Local directory seen := by
  refine (local_liftM (Store.local_isRegistered target)).bind fun _ => ?_
  refine .iteBind (.fail _) fun _ => ?_
  refine (local_liftM (Store.local_getEdge forth)).bind fun _ => ?_
  refine (local_liftM (Store.local_getEdge back)).bind fun _ => ?_
  refine .iteBind (.fail _) fun _ => ?_
  refine (local_liftM (Store.local_insertIfAbsent forth)).bind fun _ => ?_
  refine (local_liftM (Store.local_insertIfAbsent back)).bind fun _ => ?_
  exact .iteBind (local_liftM (Store.local_increment _ _)) fun _ => .pure _

/-- Refusing the caller as a target keeps an action local. -/
theorem local_requireOther {verb : Verb} {action : Action RelationshipError Answer}
    (isLocal : action.Local directory seen) :
    (requireOther caller target verb >>= fun _ => action.atomically).Local directory seen :=
  (Action.Local.const (checkTarget caller target verb)).bind fun _ => isLocal.atomically

/-- Disconnecting two users is local where the edges between them are visible. -/
theorem local_disconnect (forth : seen (user.bytes, target.bytes) = true)
    (back : seen (target.bytes, user.bytes) = true) :
    (disconnect budget user target time).Local directory seen := by
  refine (local_liftM (Store.local_deleteEdge forth)).bind fun _ => ?_
  refine .iteBind (local_liftM (Store.local_decrementOne user)) fun _ => ?_
  refine (local_liftM (Store.local_deleteEdge back)).bind fun _ => ?_
  exact .ite (local_liftM (Store.local_decrementOne target)) (.pure _)

/-- Blocking a user is local where the edges between the two are visible. -/
theorem local_bar (forth : seen (user.bytes, target.bytes) = true)
    (back : seen (target.bytes, user.bytes) = true) :
    (bar budget user target time).Local directory seen := by
  refine (local_liftM (Store.local_setState .blocked forth)).bind fun _ => ?_
  refine .iteBind (.fail _) fun _ => ?_
  refine (local_liftM (Store.local_deleteUnlessBlocked back)).bind fun _ => ?_
  exact .ite (local_liftM (Store.local_decrementOne target)) (.pure _)

/-- What comes after the question who is related to a user must not depend on the order of the
answer. -/
theorem local_bind_relatedPeers {candidates : List UserId}
    {next : List UserId → Action RelationshipError Answer}
    (visible : ∀ peer ∈ candidates, seen (user.bytes, peer.bytes) = true ∧
      seen (peer.bytes, user.bytes) = true)
    (orderless : ∀ one other : List UserId, (∀ peer ∈ candidates, peer ∈ one ↔ peer ∈ other) →
      next one = next other)
    (isLocal : ∀ related, (next related).Local directory seen) :
    ((liftM (Store.relatedPeers budget user candidates) : Action RelationshipError _) >>=
      next).Local directory seen := by
  intro one other agree
  obtain ⟨first, second, present, also, same⟩ := agree.tables
  obtain ⟨related, reading, isRelated⟩ := Store.relatedPeers_eq_ok budget user candidates present
  obtain ⟨relatedToo, readingToo, isRelatedToo⟩ :=
    Store.relatedPeers_eq_ok budget user candidates also
  have sameNext : next related = next relatedToo := by
    refine orderless related relatedToo fun peer member => ?_
    obtain ⟨forth, back⟩ := visible peer member
    rw [isRelated, isRelatedToo, Table.has_of_part same forth, Table.has_of_part same back]
  rw [Action.bind_run_of_ok (liftM_eq_ok_iff.mpr reading),
    Action.bind_run_of_ok (liftM_eq_ok_iff.mpr readingToo), sameNext]
  exact isLocal relatedToo agree

/-- Connecting newcomers is local where the edges between the user and everybody else are visible.
-/
theorem local_connectNew {accounts : List String}
    (visible : ∀ peer, peer ≠ user → seen (user.bytes, peer.bytes) = true ∧
      seen (peer.bytes, user.bytes) = true) :
    (connectNew budget user accounts time).Local directory seen := by
  refine (local_liftM (Store.local_lookupAccounts accounts)).bind fun registered => ?_
  refine .ite (.pure _) ?_
  have candidates : ∀ peer ∈ registered.filter (· ≠ user),
      seen (user.bytes, peer.bytes) = true ∧ seen (peer.bytes, user.bytes) = true :=
    fun peer member => visible peer (of_decide_eq_true (List.mem_filter.mp member).2)
  refine local_bind_relatedPeers candidates ?_ fun related => .ite (.pure _) ?_
  · intro one other same
    have left : (registered.filter (· ≠ user)).filter (· ∉ one) =
        (registered.filter (· ≠ user)).filter (· ∉ other) :=
      List.filter_congr fun peer member => decide_eq_decide.mpr (not_congr (same peer member))
    dsimp only
    rw [left]
  · refine (local_liftM (Store.local_insertPairs fun peer member =>
      candidates peer (List.mem_filter.mp member).1)).bind fun _ => ?_
    refine (local_liftM (Store.local_increment _ _)).bind fun _ => ?_
    exact (local_liftM (Store.local_increment _ _)).bind fun _ => .pure _

/-- Adding by handle is local where the edges to whoever has the handle are visible. -/
theorem local_addByHandle {handle : String}
    (visible : ∀ target, directory.named? handle = some target →
      seen (caller.id.bytes, target.bytes) = true ∧ seen (target.bytes, caller.id.bytes) = true) :
    (addByHandle budget caller handle time).Local directory seen := by
  unfold addByHandle
  refine .ite (.fail _) (Action.Local.atomically ?_)
  refine (local_liftM (Store.local_findHandle handle)).bindOfRun ?_
  intro database found after complete run
  cases found with
  | none => exact .fail _
  | some target =>
    -- Whoever was found is the user under the handle.
    obtain ⟨_, users, named, _⟩ := Store.findHandle_eq_ok_iff.mp (liftM_eq_ok_iff.mp run)
    cases complete.users.symm.trans users
    rw [eq_comm, Option.map_some, Option.map_eq_some_iff] at named
    obtain ⟨row, stored, same⟩ := named
    have isNamed : directory.named? handle = some target := by
      rw [Directory.named?, stored, Option.bind_some, same, UserId.ofStored?_bytes]
    obtain ⟨forth, back⟩ := visible target isNamed
    refine (Action.Local.const (checkTarget caller target .add)).bind fun _ => ?_
    exact (local_connect forth back).bind fun _ => .pure _

/-- An import is local where the edges between the caller and everybody else are visible. -/
theorem local_importContacts {fetched : Except ContactsError (List Contact)}
    (visible : ∀ peer, peer ≠ caller.id → seen (caller.id.bytes, peer.bytes) = true ∧
      seen (peer.bytes, caller.id.bytes) = true) :
    (importContacts budget caller fetched time).Local directory seen := by
  unfold importContacts
  split
  · exact .fail _
  · exact .pure _
  · exact (local_connectNew visible).atomically

/-- Listing is local where all edges that leave the user are visible. -/
theorem local_list (visible : ∀ destination, seen (user.bytes, destination) = true) :
    (list user).Local directory seen :=
  local_liftM (Store.local_listFriends visible)

end Relationship

end FriendGraph
