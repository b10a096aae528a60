import FriendGraph.Proofs.Store
import FriendGraph.Relationship

/-! # What a change of a relationship does to the tables

Each of the four changes answers under one condition on the tables and leaves them as one
function of them: connecting two users (`Relationship.connect_eq_ok_iff`), disconnecting them
(`Relationship.disconnect_eq_ok_iff`), barring one of them (`Relationship.bar_eq_ok_iff`) and
connecting a user with the owners of accounts (`Relationship.connectNew_eq_ok_iff`). The
conditions name the counters only where there is a counter to change: without them nothing can be
connected or deleted.
-/

namespace FriendGraph.Relationship

open EdgeState (connected blocked)

variable {database after : Database} {budget : Budget} {user target : UserId} {time : Int}

/-- An action of the store succeeds alike as a part of a larger one. -/
theorem liftM_eq_ok_iff {Answer : Type} {action : Action StorageError Answer} {answer : Answer} :
    (liftM action : Action RelationshipError Answer) database = (.ok answer, after) ↔
      action database = (.ok answer, after) := Action.mapError_eq_ok_iff

/-- A failure of the store is one of the storage in a larger action. -/
theorem liftM_eq_error {Answer : Type} {action : Action StorageError Answer}
    {error : StorageError} (failed : action database = (.error error, after)) :
    (liftM action : Action RelationshipError Answer) database =
      (.error (.storage error), after) := by
  change action.mapError RelationshipError.storage database = _
  rw [Action.mapError, failed]
  rfl

/-- The edge from one user to another and the edge back have different keys. -/
theorem back_ne_forth (different : user ≠ target) :
    (target.bytes, user.bytes) ≠ (user.bytes, target.bytes) :=
  fun same => different (UserId.ext (Prod.mk.inj same).2)

/-- The edge from one user to another is connected, if there is one. -/
def Open (edges : Table EdgeRow) (source destination : UserId) : Prop :=
  ∀ row, edges.find? (source.bytes, destination.bytes) = some row → row.code = connected.code

/-- An edge that was read is no block exactly when its row is connected. -/
theorem isBlock_eq_false_iff {source destination : UserId} {row : EdgeRow} {edge : Edge}
    (decoded : Store.decodeEdge? source destination row = some edge) :
    isBlock (some edge) = false ↔ row.code = connected.code := by
  obtain ⟨state, known, rfl⟩ := Option.map_eq_some_iff.mp decoded
  rw [EdgeState.ofCode?_eq_some_iff.mp known]
  cases state <;> simp [isBlock, EdgeState.code]

/-- An edge can be read and is no block exactly when it is open. -/
theorem getEdge_unblocked_iff {source destination : UserId} :
    (∃ found, Store.getEdge source destination database = (.ok found, after) ∧
        isBlock found = false) ↔
      ∃ edges, database.edges = some edges ∧ Open edges source destination ∧ after = database := by
  simp only [Store.getEdge_eq_ok_iff]
  constructor
  · rintro ⟨found, ⟨edges, present, decoded, rfl⟩, unblocked⟩
    refine ⟨edges, present, ?_, rfl⟩
    intro row stored
    rw [stored, Option.map_some, Option.map_eq_some_iff] at decoded
    obtain ⟨edge, rfl, decoded⟩ := decoded
    exact (isBlock_eq_false_iff decoded.symm).mp unblocked
  · rintro ⟨edges, present, isOpen, rfl⟩
    cases stored : edges.find? (source.bytes, destination.bytes) with
    | none => exact ⟨none, ⟨edges, present, by rw [stored]; rfl, rfl⟩, rfl⟩
    | some row =>
      have known : EdgeState.ofCode? row.code = some connected :=
        EdgeState.ofCode?_eq_some_iff.mpr (isOpen row stored)
      refine ⟨some ⟨source, destination, row.position, row.updatedAt, connected⟩,
        ⟨edges, present, ?_, rfl⟩, rfl⟩
      rw [stored, Option.map_some, Option.map_some, Store.decodeEdge?, known, Option.map_some]

/-- Raising the counters of nobody does nothing, so asking first whether there is anybody makes
no difference. -/
theorem ite_isEmpty_increment {Answer : Type} (users : List UserId) (amount : Int)
    (further : Unit → Action RelationshipError Answer) :
    (if (!users.isEmpty) = true then
        (liftM (Store.increment budget users amount time) >>= fun answer => further answer)
      else further ()) =
      (liftM (Store.increment budget users amount time) >>= fun answer => further answer) := by
  cases users with
  | nil =>
    have nobody : Store.increment budget [] amount time = pure () := by
      unfold Store.increment Store.incrementPlan
      rw [Store.chunks_eq_nil_iff.mpr rfl]
      rfl
    rw [nobody]
    rfl
  | cons user rest => rfl

/-! ## Connecting -/

/-- Those of two users from whom there is no edge to the other one. -/
def lacking (edges : Table EdgeRow) (user target : UserId) : List UserId :=
  (if edges.has (user.bytes, target.bytes) then [] else [user]) ++
    if edges.has (target.bytes, user.bytes) then [] else [target]

/-- Nobody lacks an edge exactly when there are both. -/
theorem lacking_eq_nil_iff {edges : Table EdgeRow} :
    lacking edges user target = [] ↔
      edges.has (user.bytes, target.bytes) = true ∧
        edges.has (target.bytes, user.bytes) = true := by
  unfold lacking
  cases edges.has (user.bytes, target.bytes) <;> cases edges.has (target.bytes, user.bytes) <;>
    simp

/-- The edges with those of two users that were not there. -/
def joined (user target : UserId) (time : Int) (edges : Table EdgeRow) : Table EdgeRow :=
  (edges.insert (EdgeRow.connected user target time)).insert
    (EdgeRow.connected target user time)

/-- Inserting one edge does not matter for the one back. -/
theorem has_insert_connected (different : user ≠ target) (edges : Table EdgeRow) :
    (edges.insert (EdgeRow.connected user target time)).has (target.bytes, user.bytes) =
      edges.has (target.bytes, user.bytes) := by
  have other : Keyed.key (EdgeRow.connected user target time) ≠ (target.bytes, user.bytes) :=
    back_ne_forth different.symm
  rw [Table.has_insert, decide_eq_false other, Bool.or_false]

/-- Two users are connected when the target is registered, neither edge is a block, and there
are counters unless both edges exist. -/
theorem connect_eq_ok_iff (different : user ≠ target) {isNew : Bool} :
    connect budget user target time database = (.ok isNew, after) ↔
      ∃ directory edges, database.users = some directory ∧ database.edges = some edges ∧
        (directory.withId? target.bytes).isSome ∧ Open edges user target ∧
        Open edges target user ∧
        (lacking edges user target = [] ∨ database.counters.isSome) ∧
        isNew = (!edges.has (user.bytes, target.bytes) && !edges.has (target.bytes, user.bytes)) ∧
        after = { database with
          edges := some (joined user target time edges)
          counters := database.counters.map
            (Statement.raiseAll (lacking edges user target) 1 time) } := by
  have sources : ∀ (edges : Table EdgeRow) key (lone : UserId),
      (if (!edges.has key) = true then [lone] else []) = if edges.has key then [] else [lone] := by
    intro edges key lone
    cases edges.has key <;> rfl
  simp only [connect, ite_isEmpty_increment, Action.ite_fail_eq_ok_iff, Action.bind_eq_ok_iff,
    liftM_eq_ok_iff, Action.pure_eq_ok_iff, Store.isRegistered_eq_ok_iff,
    Store.insertIfAbsent_eq_ok_iff, Store.increment_eq_ok_iff, Bool.not_eq_true,
    Bool.not_eq_false', Bool.or_eq_false_iff]
  constructor
  · rintro ⟨_, _, ⟨directory, users, rfl, rfl⟩, registered, outgoing, _, readOutgoing, incoming, _,
      readIncoming, ⟨freeOutgoing, freeIncoming⟩, _, _, ⟨edges, present, rfl, rfl⟩, _, _,
      ⟨_, grown, rfl, rfl⟩, _, _, ⟨counted, rfl⟩, rfl, rfl⟩
    obtain ⟨_, before, openOutgoing, rfl⟩ :=
      getEdge_unblocked_iff.mp ⟨outgoing, readOutgoing, freeOutgoing⟩
    obtain ⟨_, again, openIncoming, rfl⟩ :=
      getEdge_unblocked_iff.mp ⟨incoming, readIncoming, freeIncoming⟩
    cases grown
    cases present.symm.trans before
    cases present.symm.trans again
    simp only [sources, has_insert_connected different] at counted ⊢
    exact ⟨directory, edges, users, present, registered, openOutgoing, openIncoming, counted, rfl,
      rfl⟩
  · rintro ⟨directory, edges, users, present, registered, openOutgoing, openIncoming, counted, rfl,
      rfl⟩
    obtain ⟨outgoing, readOutgoing, freeOutgoing⟩ :=
      getEdge_unblocked_iff.mpr ⟨edges, present, openOutgoing, rfl⟩
    obtain ⟨incoming, readIncoming, freeIncoming⟩ :=
      getEdge_unblocked_iff.mpr ⟨edges, present, openIncoming, rfl⟩
    refine ⟨_, _, ⟨directory, users, rfl, rfl⟩, registered, outgoing, _, readOutgoing, incoming, _,
      readIncoming, ⟨freeOutgoing, freeIncoming⟩, _, _, ⟨edges, present, rfl, rfl⟩, _, _,
      ⟨_, rfl, rfl, rfl⟩, (), _, ⟨?_, rfl⟩, ?_, ?_⟩
    · simp only [sources, has_insert_connected different]
      exact counted
    · rw [has_insert_connected different]
    · simp only [sources, has_insert_connected different]
      rfl

/-! ## Disconnecting -/

/-- Lowering the counter of a user, if need be. -/
theorem ite_decrementOne_eq_ok_iff {lone : UserId} {isGone : Bool} {answer : Unit} :
    (if isGone = true then liftM (Store.decrementOne budget lone time) else pure () :
        Action RelationshipError Unit) database = (.ok answer, after) ↔
      (isGone = false ∨ database.counters.isSome) ∧
        after = { database with
          counters := database.counters.map
            (Statement.lower (if isGone then [lone] else []) time) } := by
  cases isGone with
  | false =>
    have same : database.counters.map (Statement.lower [] time) = database.counters := by
      cases database.counters <;> simp
    simp only [Bool.false_eq_true, ↓reduceIte, Action.pure_eq_ok_iff, same, true_or, true_and]
  | true =>
    simp only [↓reduceIte, liftM_eq_ok_iff, Store.decrementOne_eq_ok_iff, Bool.true_eq_false,
      false_or]
    cases database.counters <;> simp

/-- An action that is left out may as well be one that does nothing. -/
theorem ite_bind_unit {Answer : Type} (condition : Prop) [Decidable condition]
    (action : Action RelationshipError Unit) (further : Unit → Action RelationshipError Answer) :
    (if condition then (action >>= fun answer => further answer) else further ()) =
      ((if condition then action else pure ()) >>= fun answer => further answer) := by
  by_cases holds : condition <;> simp [holds]

/-- Those of two users from whom there is an edge to the other one. -/
def linked (edges : Table EdgeRow) (user target : UserId) : List UserId :=
  (if edges.has (user.bytes, target.bytes) then [user] else []) ++
    if edges.has (target.bytes, user.bytes) then [target] else []

/-- Nobody is linked exactly when there is no edge either way. -/
theorem linked_eq_nil_iff {edges : Table EdgeRow} :
    linked edges user target = [] ↔
      edges.has (user.bytes, target.bytes) = false ∧
        edges.has (target.bytes, user.bytes) = false := by
  unfold linked
  cases edges.has (user.bytes, target.bytes) <;> cases edges.has (target.bytes, user.bytes) <;>
    simp

/-- The edges without those between two users. -/
def severed (user target : UserId) (edges : Table EdgeRow) : Table EdgeRow :=
  edges.filter fun row => !(row.joins user target || row.joins target user)

/-- Taking the edge away and then the one back severs two users. -/
theorem filter_filter_joins (edges : Table EdgeRow) :
    (edges.filter fun row => !row.joins user target).filter (fun row => !row.joins target user) =
      severed user target edges := by
  apply Table.ext
  simp only [severed, Table.rows_filter, List.filter_filter, Bool.not_or, Bool.and_comm]

/-- Taking one edge away does not matter for the one back. -/
theorem has_filter_joins (different : user ≠ target) (edges : Table EdgeRow) :
    (edges.filter fun row => !row.joins user target).has (target.bytes, user.bytes) =
      edges.has (target.bytes, user.bytes) := by
  unfold Table.has
  rw [Table.find?_filter]
  cases found : edges.find? (target.bytes, user.bytes) with
  | none => rfl
  | some row =>
    have keyed := (Table.find?_eq_some_iff.mp found).2
    have other : row.joins user target = false := by
      rw [← Bool.not_eq_true, Store.joins_iff, keyed]
      exact back_ne_forth different
    simp [other]

/-- Lowering one counter after the other lowers those who are linked. -/
theorem lower_linked (different : user ≠ target) (edges : Table EdgeRow)
    (counters : Table CounterRow) :
    Statement.lower (if edges.has (target.bytes, user.bytes) then [target] else []) time
        (Statement.lower (if edges.has (user.bytes, target.bytes) then [user] else []) time
          counters) =
      Statement.lower (linked edges user target) time counters := by
  have apart : ∀ party ∈ [user], party ∉ [target] := by simpa using different
  unfold linked
  cases edges.has (user.bytes, target.bytes) <;> cases edges.has (target.bytes, user.bytes) <;>
    simp [Statement.lower_lower apart]

/-- Two users are disconnected when there are counters, unless neither edge exists. -/
theorem disconnect_eq_ok_iff (different : user ≠ target) {answer : Unit} :
    disconnect budget user target time database = (.ok answer, after) ↔
      ∃ edges, database.edges = some edges ∧
        (linked edges user target = [] ∨ database.counters.isSome) ∧
        after = { database with
          edges := some (severed user target edges)
          counters := database.counters.map
            (Statement.lower (linked edges user target) time) } := by
  simp only [disconnect, ite_bind_unit, Action.bind_eq_ok_iff, liftM_eq_ok_iff,
    ite_decrementOne_eq_ok_iff, Store.deleteEdge_eq_ok_iff]
  constructor
  · rintro ⟨_, _, ⟨edges, present, rfl, rfl⟩, _, _, ⟨first, rfl⟩, _, _, ⟨_, rest, rfl, rfl⟩, second,
      rfl⟩
    cases rest
    simp only [has_filter_joins different, filter_filter_joins, Option.map_map,
      Option.isSome_map] at second ⊢
    refine ⟨edges, present, ?_, ?_⟩
    · rw [linked_eq_nil_iff, and_or_right]
      exact ⟨first, second⟩
    · congr 2
      funext counters
      exact lower_linked different edges counters
  · rintro ⟨edges, present, counted, rfl⟩
    rw [linked_eq_nil_iff, and_or_right] at counted
    refine ⟨_, _, ⟨edges, present, rfl, rfl⟩, (), _, ⟨counted.1, rfl⟩, _, _, ⟨_, rfl, rfl, rfl⟩, ?_⟩
    simp only [has_filter_joins different, filter_filter_joins, Option.map_map,
      Option.isSome_map]
    refine ⟨counted.2, ?_⟩
    congr 2
    funext counters
    exact (lower_linked different edges counters).symm

/-! ## Barring -/

/-- The target, if there is an edge back that is no block. -/
def returning (edges : Table EdgeRow) (user target : UserId) : List UserId :=
  if (edges.find? (target.bytes, user.bytes)).any (fun row => row.code != blocked.code) then
    [target]
  else []

/-- The edges with the one to the target turned into a block, and without the edge back unless
that is a block. -/
def barred (user target : UserId) (time : Int) (edges : Table EdgeRow) : Table EdgeRow :=
  (Statement.recode user target blocked.code time edges).filter fun row =>
    !(row.joins target user && row.code != blocked.code)

/-- Recoding one edge does not matter for the one back. -/
theorem find?_recode_back (different : user ≠ target) (code : Int) (edges : Table EdgeRow) :
    (Statement.recode user target code time edges).find? (target.bytes, user.bytes) =
      edges.find? (target.bytes, user.bytes) := by
  rw [Store.find?_recode, if_neg (back_ne_forth different)]

/-- A target is barred when there is an edge to it, and counters unless there is no edge back to
delete. -/
theorem bar_eq_ok_iff (different : user ≠ target) {answer : Unit} :
    bar budget user target time database = (.ok answer, after) ↔
      ∃ edges, database.edges = some edges ∧ edges.has (user.bytes, target.bytes) = true ∧
        (returning edges user target = [] ∨ database.counters.isSome) ∧
        after = { database with
          edges := some (barred user target time edges)
          counters := database.counters.map
            (Statement.lower (returning edges user target) time) } := by
  have returning_eq_nil_iff : ∀ edges : Table EdgeRow, returning edges user target = [] ↔
      (edges.find? (target.bytes, user.bytes)).any (fun row => row.code != blocked.code) =
        false := by
    intro edges
    unfold returning
    split <;> simp_all
  simp only [bar, Action.ite_fail_eq_ok_iff, Action.bind_eq_ok_iff, liftM_eq_ok_iff,
    ite_decrementOne_eq_ok_iff, Store.setState_eq_ok_iff, Store.deleteUnlessBlocked_eq_ok_iff,
    Bool.not_eq_true, Bool.not_eq_false']
  constructor
  · rintro ⟨_, _, ⟨edges, present, rfl, rfl⟩, isThere, _, _, ⟨_, recoded, rfl, rfl⟩, counted, rfl⟩
    cases recoded
    rw [find?_recode_back different] at counted ⊢
    rw [← returning_eq_nil_iff] at counted
    exact ⟨edges, present, isThere, counted, rfl⟩
  · rintro ⟨edges, present, isThere, counted, rfl⟩
    refine ⟨_, _, ⟨edges, present, rfl, rfl⟩, isThere, _, _, ⟨_, rfl, rfl, rfl⟩, ?_, ?_⟩
    · rw [find?_recode_back different, ← returning_eq_nil_iff]
      exact counted
    · rw [find?_recode_back different]
      rfl

/-! ## Connecting the owners of accounts -/

/-- The counters after a user was connected with peers. -/
def credited (user : UserId) (peers : List UserId) (time : Int) (counters : Table CounterRow) :
    Table CounterRow :=
  Statement.raiseAll [user] peers.length time (Statement.raiseAll peers 1 time counters)

/-- Among no candidates nobody is related, also without a table. -/
theorem relatedPeers_nil :
    Store.relatedPeers budget user [] database = (.ok [], database) := by
  have plan : Store.relatedPlan budget user [] = [] := by
    unfold Store.relatedPlan
    rw [Store.chunks_eq_nil_iff.mpr rfl]
    rfl
  unfold Store.relatedPeers
  rw [plan]
  rfl

/-- A user is connected with the registered owners of accounts who are not related to them; when
there are any, their edges must all be new, and there must be counters. -/
theorem connectNew_eq_ok_iff {externalIds : List String} {peers : List UserId} :
    connectNew budget user externalIds time database = (.ok peers, after) ↔
      ∃ registered related,
        Store.lookupAccounts budget externalIds database = (.ok registered, database) ∧
        Store.relatedPeers budget user (registered.filter (· ≠ user)) database =
          (.ok related, database) ∧
        peers = (registered.filter (· ≠ user)).filter (· ∉ related) ∧
        (peers = [] ∧ after = database ∨
          peers ≠ [] ∧ ∃ edges grown, database.edges = some edges ∧
            grown.rows = edges.rows ++ Store.pairs user peers time ∧
            database.counters.isSome ∧
            after = { database with
              edges := some grown
              counters := database.counters.map (credited user peers time) }) := by
  simp only [connectNew, Action.ite_eq_ok_iff, Action.bind_eq_ok_iff, liftM_eq_ok_iff,
    Action.pure_eq_ok_iff, Store.insertPairs_eq_ok_iff, Store.increment_eq_ok_iff,
    List.isEmpty_iff]
  constructor
  · rintro ⟨registered, _, lookup, ⟨nobody, rfl, rfl⟩ | ⟨_, related, _, reading, found⟩⟩
    · cases (Store.quiet_lookupAccounts budget externalIds).eq lookup
      refine ⟨registered, [], lookup, ?_, by rw [nobody]; rfl, .inl ⟨rfl, rfl⟩⟩
      rw [nobody]
      exact relatedPeers_nil
    · cases (Store.quiet_lookupAccounts budget externalIds).eq lookup
      cases (Store.quiet_relatedPeers budget user _).eq reading
      refine ⟨registered, related, lookup, reading, ?_⟩
      rcases found with ⟨nobody, rfl, rfl⟩ | ⟨somebody, _, _, written, _, _, ⟨counted, rfl⟩, _, _,
        ⟨_, rfl⟩, rfl, rfl⟩
      · exact ⟨nobody.symm, .inl ⟨rfl, rfl⟩⟩
      · rcases written with ⟨nobody, _⟩ | ⟨edges, grown, present, rows, rfl⟩
        · exact absurd nobody somebody
        · refine ⟨rfl, .inr ⟨somebody, edges, grown, present, rows,
            counted.resolve_left somebody, ?_⟩⟩
          simp only [Option.map_map]
          rfl
  · rintro ⟨registered, related, lookup, reading, same, written⟩
    refine ⟨registered, database, lookup, ?_⟩
    by_cases matched : registered.filter (· ≠ user) = []
    · have nobody : peers = [] := by rw [same, matched]; rfl
      rcases written with ⟨_, rfl⟩ | ⟨somebody, _⟩
      · exact .inl ⟨matched, nobody, rfl⟩
      · exact absurd nobody somebody
    · refine .inr ⟨matched, related, database, reading, ?_⟩
      rw [← same]
      rcases written with ⟨nobody, rfl⟩ | ⟨somebody, edges, grown, present, rows, counted, rfl⟩
      · exact .inl ⟨nobody, nobody, rfl⟩
      · refine .inr ⟨somebody, (), _, .inr ⟨edges, grown, present, rows, rfl⟩, (), _,
          ⟨.inr counted, rfl⟩, (), _, ⟨.inr ?_, rfl⟩, rfl, ?_⟩
        · rw [Option.isSome_map]
          exact counted
        · simp only [Option.map_map]
          rfl

end FriendGraph.Relationship
