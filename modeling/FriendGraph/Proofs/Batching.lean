import Mathlib.Data.Finset.Dedup
import FriendGraph.Proofs.Drift
import FriendGraph.Proofs.Questions

/-! # Batches do not show

What the store does for a list it could as well do for one item of the list after another
(`Store.forEach`, `Store.askEach`). The cuts into chunks are placed by the budget, and nothing that
is found or written depends on them. A question finds whoever it finds for one of the items, each
user once, and fails if it fails for one of them (`Store.Finds.of_items`). Counters are changed by
the whole list (`Store.forEach_increment`, `Store.forEach_decrement`); only in a list that is
lowered nobody may occur twice, for a chunk lowers a repeated user once. Edges between a user and
peers are inserted exactly if none of them is there and none occurs twice
(`Store.exists_grown_iff`), and then in the order of the list; only when an insertion fails do the
cuts show, in what has been written before.
-/

namespace FriendGraph.Store

open Relationship (Between between_iff_exists between_singleton_iff mem_keys_pairs
  nodup_keys_pairs_iff counter?_raised counter?_lowered relatedPeers_nil)

variable {Item : Type} {database after : Database} {budget : Budget} {user peer : UserId}
  {peers : List UserId} {accounts : List String} {time : Int}

/-! ## One item after another -/

/-- A change for a list of items, made for one item after another. -/
def forEach (write : List Item → Action StorageError Unit) (items : List Item) :
    Action StorageError Unit :=
  items.forM fun item => write [item]

/-- A question about a list of items, asked about one item after another: whoever is found for any
of them, once. -/
def askEach (ask : List Item → Action StorageError (List UserId)) (items : List Item) :
    Action StorageError (List UserId) := do
  return (← items.mapM fun item => ask [item]).flatten.eraseDups

theorem flatten_map_singleton (items : List Item) :
    (items.map fun item => [item]).flatten = items := by
  rw [← List.flatMap_def, List.flatMap_singleton']

/-- What sends a statement for every chunk sends one for every item when it is made for one item
after another. -/
theorem forEach_runAll {size : Nat} (positive : 0 < size) (statement : List Item → Statement Unit)
    (items : List Item) :
    forEach (fun items => runAll ((chunks size items).map statement)) items =
      runAll ((items.map fun item => [item]).map statement) := by
  have single : (fun item => runAll ((chunks size [item]).map statement)) =
      fun item => (statement [item]).run := by
    funext item
    rw [chunks_singleton positive, List.map_singleton, runAll_singleton]
  calc forEach (fun items => runAll ((chunks size items).map statement)) items
      = forM items fun item => (statement [item]).run := by
        rw [forEach, single]
        rfl
    _ = runAll ((items.map fun item => [item]).map statement) := by
        rw [List.map_map]
        exact List.forM_map.symm

/-! ## Questions -/

/-- A question about a list of items answers under a condition, and then finds the users that are
wanted. -/
structure Finds (ask : List Item → Action StorageError (List UserId)) (items : List Item)
    (database : Database) (answered : Prop) (wanted : UserId → Prop) : Prop where
  answers : (∃ found, (ask items database).1 = .ok found) ↔ answered
  /-- Nobody is found twice. -/
  nodup : ∀ found, (ask items database).1 = .ok found → found.Nodup
  finds : ∀ found, (ask items database).1 = .ok found → ∀ id, id ∈ found ↔ wanted id
  unchanged : (ask items database).2 = database
  /-- The same users are found, or the same error, for one item after another. -/
  each : (askEach ask items database).1.map List.toFinset =
    (ask items database).1.map List.toFinset
  eachUnchanged : (askEach ask items database).2 = database

/-- A question is answered as it should be if item by item it finds the same users, each once. -/
theorem Finds.of_ok {ask : List Item → Action StorageError (List UserId)} {items : List Item}
    {answered : Prop} {wanted : UserId → Prop} {found eachFound : List UserId}
    (isAnswered : answered) (asked : ask items database = (.ok found, database))
    (distinct : found.Nodup) (isFound : ∀ id, id ∈ found ↔ wanted id)
    (eachAsked : askEach ask items database = (.ok eachFound, database))
    (same : ∀ id, id ∈ eachFound ↔ id ∈ found) : Finds ask items database answered wanted := by
  have only : ∀ other, (ask items database).1 = .ok other → other = found := by
    intro other run
    rw [asked] at run
    exact (Except.ok.inj run).symm
  constructor
  case answers => exact iff_of_true ⟨found, congrArg Prod.fst asked⟩ isAnswered
  case nodup => exact fun other run => only other run ▸ distinct
  case finds => exact fun other run => only other run ▸ isFound
  case unchanged => rw [asked]
  case each =>
    have sameUsers : eachFound.toFinset = found.toFinset := by
      ext id
      rw [List.mem_toFinset, List.mem_toFinset, same]
    rw [asked, eachAsked]
    exact congrArg Except.ok sameUsers
  case eachUnchanged => rw [eachAsked]

/-- A question that should not be answered fails with the same error item by item. -/
theorem Finds.of_error {ask : List Item → Action StorageError (List UserId)} {items : List Item}
    {answered : Prop} {wanted : UserId → Prop} {error : StorageError} (unanswered : ¬answered)
    (failed : ask items database = (.error error, database))
    (eachFailed : askEach ask items database = (.error error, database)) :
    Finds ask items database answered wanted := by
  have none : ∀ found, (ask items database).1 ≠ .ok found := by
    rw [failed]
    nofun
  constructor
  case answers => exact iff_of_false (fun ⟨found, run⟩ => none found run) unanswered
  case nodup => exact fun found run => absurd run (none found)
  case finds => exact fun found run => absurd run (none found)
  case unchanged => rw [failed]
  case each => rw [failed, eachFailed]
  case eachUnchanged => rw [eachFailed]

/-- A question may be asked about one item after another, if it has an answer for a list as soon as
it has one for every item, if whoever is wanted for the list is wanted for an item, and if all items
fail with the same error. -/
theorem Finds.of_items {ask : List Item → Action StorageError (List UserId)}
    {answered : List Item → Prop} {wanted : List Item → UserId → Prop} {error : StorageError}
    (answers : ∀ items, answered items → ∃ found, ask items database = (.ok found, database) ∧
      found.Nodup ∧ ∀ id, id ∈ found ↔ wanted items id)
    (fails : ∀ items, ¬answered items → ask items database = (.error error, database))
    (answeredEach : ∀ items, answered items ↔ ∀ item ∈ items, answered [item])
    (wantedEach : ∀ items id, wanted items id ↔ ∃ item ∈ items, wanted [item] id)
    (items : List Item) : Finds ask items database (answered items) (wanted items) := by
  by_cases isAnswered : answered items
  · obtain ⟨found, asked, distinct, isFound⟩ := answers items isAnswered
    have single : ∀ item ∈ items, ∃ found, ask [item] database = (.ok found, database) ∧
        ∀ id, id ∈ found ↔ wanted [item] id := by
      intro item member
      have isAnsweredOne := (answeredEach items).mp isAnswered item member
      obtain ⟨one, asks, _, isOne⟩ := answers [item] isAnsweredOne
      exact ⟨one, asks, isOne⟩
    choose! one asks isOne using single
    have eachAsked : askEach ask items database =
        (.ok (items.map one).flatten.eraseDups, database) := by
      rw [askEach, Action.bind_run_of_ok (Action.mapM_eq_ok asks)]
      rfl
    refine .of_ok isAnswered asked distinct isFound eachAsked fun id => ?_
    rw [List.mem_eraseDups, ← List.flatMap_def, List.mem_flatMap, isFound, wantedEach items]
    exact exists_congr fun item => and_congr_right fun member => isOne item member id
  · have eachFailed : items.mapM (fun item => ask [item]) database = (.error error, database) := by
      apply Action.mapM_eq_error
      · intro item _
        by_cases isAnswered : answered [item]
        · obtain ⟨found, asked, _⟩ := answers [item] isAnswered
          exact .inl ⟨found, asked⟩
        · exact .inr (fails [item] isAnswered)
      · simp only [answeredEach items, Classical.not_forall] at isAnswered
        obtain ⟨item, member, isRefused⟩ := isAnswered
        exact ⟨item, member, fails [item] isRefused⟩
    have eachAsked : askEach ask items database = (.error error, database) := by
      rw [askEach, Action.bind_run_of_error eachFailed]
    exact .of_error isAnswered (fails items isAnswered) eachAsked

/-- A condition for a list that only matters where there are items is one for each item. -/
theorem eq_nil_or_iff_forall {present : Prop} {items : List Item} :
    items = [] ∨ present ↔ ∀ item ∈ items, [item] = [] ∨ present := by
  cases items with
  | nil => exact iff_of_true (.inl rfl) nofun
  | cons first rest =>
    constructor
    · exact fun isThere _ _ => .inr (isThere.resolve_left nofun)
    · exact fun each => .inr ((each first List.mem_cons_self).resolve_left nofun)

/-! ### The users of accounts -/

/-- The users of accounts can be read: the users are there, and all of those who are asked for are
stored under proper identifiers. -/
def Readable (database : Database) (accounts : List String) : Prop :=
  (accounts = [] ∨ database.users.isSome) ∧ (database.users.getD .empty).Legible accounts

/-- A directory can be read for accounts exactly when it can for each of them. -/
theorem legible_iff_forall {directory : Directory} :
    directory.Legible accounts ↔ ∀ account ∈ accounts, directory.Legible [account] := by
  simp only [Directory.Legible, Option.any_eq_true, decide_eq_true_eq, List.mem_singleton]
  grind

/-- Who owns accounts owns one of them. -/
theorem owns_iff_exists {directory : Directory} {id : UserId} :
    directory.Owns id accounts ↔ ∃ account ∈ accounts, directory.Owns id [account] := by
  simp only [Directory.Owns, Option.any_eq_true, decide_eq_true_eq, List.mem_singleton]
  grind

/-- Accounts can be looked up exactly when each of them can. -/
theorem readable_iff_forall :
    Readable database accounts ↔ ∀ account ∈ accounts, Readable database [account] := by
  unfold Readable
  rw [legible_iff_forall, eq_nil_or_iff_forall, ← forall₂_and]

/-- Nobody is found for no accounts, also without a table. -/
theorem lookupAccounts_nil : lookupAccounts budget [] database = (.ok [], database) := by
  have plan : lookupPlan budget [] = [] := by
    rw [lookupPlan, chunks_eq_nil_iff.mpr rfl, List.map_nil]
  rw [lookupAccounts, plan]
  rfl

/-- Accounts that can be looked up are found with all their owners, each once. -/
theorem lookupAccounts_of_readable (readable : Readable database accounts) :
    ∃ found, lookupAccounts budget accounts database = (.ok found, database) ∧ found.Nodup ∧
      ∀ id, id ∈ found ↔ (database.users.getD .empty).Owns id accounts := by
  obtain ⟨nobody | present, legible⟩ := readable
  · subst nobody
    exact ⟨[], lookupAccounts_nil, List.nodup_nil, by simp [Directory.Owns]⟩
  · obtain ⟨directory, users⟩ := Option.isSome_iff_exists.mp present
    rw [users] at legible ⊢
    have distinct : (lookup budget accounts directory).Nodup :=
      (precedes_lookup budget accounts directory).imp fun precedes => precedes.ne
    exact ⟨_, lookupAccounts_eq_ok users legible, distinct, fun _ => mem_lookup⟩

/-- Accounts that cannot be looked up fail for want of a table or of an identifier. -/
theorem lookupAccounts_of_not_readable (unreadable : ¬Readable database accounts) :
    lookupAccounts budget accounts database =
      (.error (if database.users.isSome then .invalidUserId else .database (.missingTable .users)),
        database) := by
  cases users : database.users with
  | none =>
    apply lookupAccounts_of_missing users
    rintro rfl
    exact unreadable ⟨.inl rfl, by simp [Directory.Legible]⟩
  | some directory =>
    apply lookupAccounts_eq_error users
    intro legible
    exact unreadable ⟨.inr (by rw [users]; rfl), by rw [users]; exact legible⟩

/-- Looking accounts up finds their owners, in chunks as one by one. -/
theorem finds_lookupAccounts (budget : Budget) (database : Database) (accounts : List String) :
    Finds (lookupAccounts budget) accounts database (Readable database accounts)
      fun id => (database.users.getD .empty).Owns id accounts :=
  Finds.of_items (fun _ => lookupAccounts_of_readable) (fun _ => lookupAccounts_of_not_readable)
    (fun _ => readable_iff_forall) (fun _ _ => owns_iff_exists) accounts

/-! ### Related peers -/

/-- Two users share an edge, whatever its direction and its state. -/
def Related (database : Database) (user peer : UserId) : Prop :=
  (database.edge? user.bytes peer.bytes).isSome ∨ (database.edge? peer.bytes user.bytes).isSome

/-- Of the peers those are found that an edge joins with the user, each once. -/
theorem relatedPeers_of_edges (readable : peers = [] ∨ database.edges.isSome) :
    ∃ found, relatedPeers budget user peers database = (.ok found, database) ∧ found.Nodup ∧
      ∀ id, id ∈ found ↔ id ∈ peers ∧ Related database user id := by
  rcases readable with nobody | present
  · subst nobody
    exact ⟨[], relatedPeers_nil, List.nodup_nil, by simp⟩
  · obtain ⟨edges, present⟩ := Option.isSome_iff_exists.mp present
    obtain ⟨found, run, isRelated⟩ := relatedPeers_eq_ok budget user peers present
    refine ⟨found, run, nodup_of_relatedPeers run, fun id => ?_⟩
    rw [isRelated, Related, Database.edge?_of_edges present, Database.edge?_of_edges present]
    rfl

/-- Related peers are found in chunks as one by one. -/
theorem finds_relatedPeers (budget : Budget) (database : Database) (user : UserId)
    (candidates : List UserId) :
    Finds (relatedPeers budget user) candidates database
      (candidates = [] ∨ database.edges.isSome)
      fun id => id ∈ candidates ∧ Related database user id := by
  have fails : ∀ candidates : List UserId, ¬(candidates = [] ∨ database.edges.isSome) →
      relatedPeers budget user candidates database =
        (.error (.database (.missingTable .edges)), database) := by
    intro candidates refused
    rw [not_or, Bool.not_eq_true, Option.isSome_eq_false_iff, Option.isNone_iff_eq_none] at refused
    exact relatedPeers_of_missing refused.2 refused.1
  apply Finds.of_items (fun _ => relatedPeers_of_edges) fails fun _ => eq_nil_or_iff_forall
  intro candidates id
  simp only [List.mem_singleton]
  grind

/-! ## Edges -/

/-- A user can be connected with peers: there are edges to add to, no peer is named twice, the user
is not one of them, and no edge is shared with any of them. -/
structure Connectable (database : Database) (user : UserId) (peers : List UserId) : Prop where
  present : peers = [] ∨ database.edges.isSome
  nodup : peers.Nodup
  other : user ∉ peers
  strange : ∀ peer ∈ peers, ¬Related database user peer

/-- Somebody is related to a user exactly when there is an edge between the two. -/
theorem related_iff {edges : Table EdgeRow} (present : database.edges = some edges) :
    Related database user peer ↔
      ∃ key ∈ edges.rows.map Keyed.key, Between user [peer] key.1 key.2 := by
  have isThere : ∀ key, (edges.find? key).isSome ↔ key ∈ edges.rows.map Keyed.key :=
    fun key => Table.has_eq_true_iff
  rw [Related, Database.edge?_of_edges present, Database.edge?_of_edges present, isThere, isThere]
  simp only [between_singleton_iff]
  constructor
  · rintro (forth | back)
    · exact ⟨_, forth, .inl ⟨rfl, rfl⟩⟩
    · exact ⟨_, back, .inr ⟨rfl, rfl⟩⟩
  · rintro ⟨⟨source, destination⟩, stored, ⟨rfl, rfl⟩ | ⟨rfl, rfl⟩⟩
    · exact .inl stored
    · exact .inr stored

/-- The keys stay different when pairs are appended exactly if no peer is named twice, the user is
not one of them, and no edge is shared with any of them. -/
theorem exists_grown_iff {edges : Table EdgeRow} (present : database.edges = some edges) :
    (∃ grown : Table EdgeRow, grown.rows = edges.rows ++ pairs user peers time) ↔
      peers.Nodup ∧ user ∉ peers ∧ ∀ peer ∈ peers, ¬Related database user peer := by
  have apart : (∀ key ∈ edges.rows.map Keyed.key,
        ∀ other ∈ (pairs user peers time).map Keyed.key, key ≠ other) ↔
      ∀ peer ∈ peers, ¬Related database user peer := by
    constructor
    · intro differ peer member related
      obtain ⟨key, stored, joins⟩ := (related_iff present).mp related
      have made : key ∈ (pairs user peers time).map Keyed.key :=
        mem_keys_pairs.mpr (between_iff_exists.mpr ⟨peer, member, joins⟩)
      exact differ key stored key made rfl
    · rintro strange key stored _ made rfl
      obtain ⟨peer, member, joins⟩ := between_iff_exists.mp (mem_keys_pairs.mp made)
      exact strange peer member ((related_iff present).mpr ⟨key, stored, joins⟩)
  rw [Table.exists_rows_eq_iff, List.map_append, List.nodup_append, nodup_keys_pairs_iff, apart,
    and_iff_right edges.nodup_keys, and_assoc]

/-- Connecting peers succeeds exactly when the edges to them are free. -/
theorem exists_insertPairs_iff (budget : Budget) (time : Int) :
    (∃ after, insertPairs budget user peers time database = (.ok (), after)) ↔
      Connectable database user peers := by
  simp only [insertPairs_eq_ok_iff]
  constructor
  · rintro ⟨_, ⟨rfl, _⟩ | ⟨edges, grown, present, rows, _⟩⟩
    · exact ⟨.inl rfl, List.nodup_nil, List.not_mem_nil, nofun⟩
    · obtain ⟨distinct, other, strange⟩ := (exists_grown_iff present).mp ⟨grown, rows⟩
      exact ⟨.inr (by rw [present]; rfl), distinct, other, strange⟩
  · rintro ⟨nobody | isThere, distinct, other, strange⟩
    · exact ⟨database, .inl ⟨nobody, rfl⟩⟩
    · obtain ⟨edges, present⟩ := Option.isSome_iff_exists.mp isThere
      obtain ⟨grown, rows⟩ := (exists_grown_iff present).mpr ⟨distinct, other, strange⟩
      exact ⟨_, .inr ⟨edges, grown, present, rows, rfl⟩⟩

/-- Peers are connected one by one by a plan of one statement for each. -/
theorem forEach_insertPairs (budget : Budget) (user : UserId) (peers : List UserId) (time : Int) :
    forEach (insertPairs budget user · time) peers =
      runAll ((peers.map fun peer => pairs user [peer] time).map .insertEdges) :=
  calc forEach (insertPairs budget user · time) peers
      = runAll ((peers.map fun peer => [peer]).map fun batch =>
          .insertEdges (pairs user batch time)) := forEach_runAll (chunkSize_pos _ _ _) _ peers
    _ = runAll ((peers.map fun peer => pairs user [peer] time).map .insertEdges) := by
        rw [List.map_map, List.map_map]
        rfl

/-- One peer after another is connected if all of them are at once, and with the same rows. -/
theorem forEach_insertPairs_eq_ok_iff :
    forEach (insertPairs budget user · time) peers database = (.ok (), after) ↔
      insertPairs budget user peers time database = (.ok (), after) := by
  have whole := flatten_map_pairs user (peers.map fun peer => [peer]) time
  rw [List.map_map, flatten_map_singleton] at whole
  rw [forEach_insertPairs, runAll_insertEdges_eq_ok_iff, insertPairs_eq_ok_iff,
    List.map_eq_nil_iff, ← whole]
  rfl

/-- Connecting peers one by one has the outcome of connecting them in chunks. -/
theorem fst_forEach_insertPairs (budget : Budget) (database : Database) (user : UserId)
    (peers : List UserId) (time : Int) :
    (forEach (insertPairs budget user · time) peers database).1 =
      (insertPairs budget user peers time database).1 := by
  cases run : insertPairs budget user peers time database with
  | mk outcome left =>
    cases outcome with
    | ok answer => rw [forEach_insertPairs_eq_ok_iff.mpr run]
    | error error =>
      cases each : forEach (insertPairs budget user · time) peers database with
      | mk eachOutcome eachLeft =>
        cases eachOutcome with
        | ok answer => cases run.symm.trans (forEach_insertPairs_eq_ok_iff.mp each)
        | error eachError =>
          rw [insertPairs, pairPlan_eq] at run
          rw [forEach_insertPairs] at each
          rw [error_of_runAll_insertEdges run, error_of_runAll_insertEdges each]

/-- An insertion in batches leaves the rows of its first batches behind, and all else alone. -/
theorem exists_inserted (batches : List (List EdgeRow)) (database : Database) :
    let left := (runAll (batches.map .insertEdges) database).2
    (∃ done rest, batches = done ++ rest ∧ left.edgeRows = database.edgeRows ++ done.flatten) ∧
      left.users = database.users ∧ left.counters = database.counters := by
  induction batches generalizing database with
  | nil => exact ⟨⟨[], [], rfl, (List.append_nil _).symm⟩, rfl, rfl⟩
  | cons batch rest inductionHypothesis =>
    rw [List.map_cons, runAll_cons]
    cases run : (Statement.insertEdges batch).run database with
    | mk outcome between =>
      cases outcome with
      | error error =>
        rw [Action.bind_run_of_error run, Statement.run_of_error run]
        exact ⟨⟨[], batch :: rest, rfl, (List.append_nil _).symm⟩, rfl, rfl⟩
      | ok answer =>
        rw [Action.bind_run_of_ok run]
        obtain ⟨edges, grown, present, rows, rfl⟩ := Statement.growEdges_eq_ok_iff.mp run
        obtain ⟨⟨done, undone, isCut, left⟩, users, counters⟩ :=
          inductionHypothesis { database with edges := some grown }
        refine ⟨⟨batch :: done, undone, by rw [isCut, List.cons_append], ?_⟩, users, counters⟩
        rw [left, Database.edgeRows_of_edges rfl, Database.edgeRows_of_edges present, rows,
          List.flatten_cons, List.append_assoc]

/-- When connecting peers fails, the chunks before the failure stay, and nothing else is touched. -/
theorem left_of_insertPairs (budget : Budget) (database : Database) (user : UserId)
    (peers : List UserId) (time : Int) :
    let left := (insertPairs budget user peers time database).2
    (∃ joined, joined <+: peers ∧
        left.edgeRows = database.edgeRows ++ pairs user joined time) ∧
      left.users = database.users ∧ left.counters = database.counters := by
  obtain ⟨⟨done, rest, isCut, left⟩, unchanged⟩ := exists_inserted
    ((chunks (budget.perStatement 10 0) peers).map fun chunk => pairs user chunk time) database
  obtain ⟨first, later, whole, rfl, rfl⟩ := List.map_eq_append_iff.mp isCut
  rw [flatten_map_pairs] at left
  have initial : first.flatten <+: peers := by
    rw [← flatten_chunks (budget.perStatement 10 0) peers, whole, List.flatten_append]
    exact List.prefix_append _ _
  rw [insertPairs, pairPlan_eq]
  exact ⟨⟨first.flatten, initial, left⟩, unchanged⟩

/-- A user is connected with peers exactly if that can be done, whatever the budget. -/
structure Connects (budget : Budget) (user : UserId) (peers : List UserId) (time : Int)
    (database : Database) : Prop where
  succeeds : (insertPairs budget user peers time database).1 = .ok () ↔
    Connectable database user peers
  /-- The edges follow those that were there, peer by peer. -/
  rows : Connectable database user peers →
    (insertPairs budget user peers time database).2.edgeRows =
      database.edgeRows ++ pairs user peers time
  /-- Whoever cannot be connected with all of the peers may be with the first of them. -/
  leaves : ∃ joined, joined <+: peers ∧
    (insertPairs budget user peers time database).2.edgeRows =
      database.edgeRows ++ pairs user joined time
  users : (insertPairs budget user peers time database).2.users = database.users
  counters : (insertPairs budget user peers time database).2.counters = database.counters
  anyBudget : Connectable database user peers → ∀ other : Budget,
    insertPairs other user peers time database = insertPairs budget user peers time database
  /-- The peers can as well be taken one after another. -/
  each : Connectable database user peers →
    forEach (insertPairs budget user · time) peers database =
      insertPairs budget user peers time database
  /-- The outcome is the same even if they cannot be connected. -/
  eachOutcome : (forEach (insertPairs budget user · time) peers database).1 =
    (insertPairs budget user peers time database).1

/-- Peers are connected in chunks as they are one by one. -/
theorem connects_insertPairs (budget : Budget) (database : Database) (user : UserId)
    (peers : List UserId) (time : Int) : Connects budget user peers time database := by
  have runs : Connectable database user peers →
      ∃ after, insertPairs budget user peers time database = (.ok (), after) :=
    (exists_insertPairs_iff budget time).mpr
  obtain ⟨leaves, users, counters⟩ := left_of_insertPairs budget database user peers time
  constructor
  case succeeds =>
    rw [← exists_insertPairs_iff budget time]
    constructor
    · exact fun succeeded => ⟨_, Prod.ext succeeded rfl⟩
    · rintro ⟨after, run⟩
      rw [run]
  case rows =>
    intro connectable
    obtain ⟨after, run⟩ := runs connectable
    rw [run]
    rcases insertPairs_eq_ok_iff.mp run with ⟨rfl, rfl⟩ | ⟨edges, grown, present, rows, rfl⟩
    · exact (List.append_nil _).symm
    · rw [Database.edgeRows_of_edges rfl, Database.edgeRows_of_edges present, rows]
  case leaves => exact leaves
  case users => exact users
  case counters => exact counters
  case anyBudget =>
    intro connectable other
    obtain ⟨after, run⟩ := runs connectable
    rw [run]
    exact insertPairs_eq_ok_iff.mpr (insertPairs_eq_ok_iff.mp run)
  case each =>
    intro connectable
    obtain ⟨after, run⟩ := runs connectable
    rw [run]
    exact forEach_insertPairs_eq_ok_iff.mpr run
  case eachOutcome => exact fst_forEach_insertPairs budget database user peers time

/-! ## Counters -/

/-- Counters are raised alike for a list and for one user after another. -/
theorem forEach_increment (budget : Budget) (users : List UserId) (amount time : Int) :
    forEach (increment budget · amount time) users = increment budget users amount time :=
  calc forEach (increment budget · amount time) users
      = runAll ((users.map fun user => [user]).map fun batch =>
          .raiseCounters batch amount time) := forEach_runAll (chunkSize_pos _ _ _) _ users
    _ = increment budget users amount time := by
        rw [runAll_raiseCounters, flatten_map_singleton, increment_eq]
        simp only [List.map_eq_nil_iff]

/-- Counters are lowered alike for a list and for one user after another, if nobody is listed
twice. -/
theorem forEach_decrement (budget : Budget) {users : List UserId} (distinct : users.Nodup)
    (time : Int) : forEach (decrement budget · time) users = decrement budget users time := by
  have cutDistinct : (users.map fun user => [user]).flatten.Nodup := by
    rwa [flatten_map_singleton]
  calc forEach (decrement budget · time) users
      = runAll ((users.map fun user => [user]).map fun batch => .lowerCounters batch time) :=
        forEach_runAll (chunkSize_pos _ _ _) _ users
    _ = decrement budget users time := by
        rw [runAll_lowerCounters cutDistinct, flatten_map_singleton, decrement_eq budget distinct]
        simp only [List.map_eq_nil_iff]

/-- The counters of listed users are changed, for which there must be counters unless nobody is
listed; every counter becomes what is to be written, and all else is left alone. -/
structure Counts (write : List UserId → Action StorageError Unit) (listed : List UserId)
    (database : Database) (written : StoredId → Option CounterRow) : Prop where
  succeeds : (write listed database).1 = .ok () ↔ listed = [] ∨ database.counters.isSome
  counter : listed = [] ∨ database.counters.isSome →
    ∀ owner, (write listed database).2.counter? owner = written owner
  users : (write listed database).2.users = database.users
  edges : (write listed database).2.edges = database.edges
  /-- The users can as well be taken one after another. -/
  each : forEach write listed database = write listed database

/-- An action that changes all counters at once counts as it should if every counter becomes what is
to be written. -/
theorem Counts.of_change {write : List UserId → Action StorageError Unit} {listed : List UserId}
    {written : StoredId → Option CounterRow} {change : Table CounterRow → Table CounterRow}
    (run : write listed = if listed = [] then pure () else Statement.changeCounters change)
    (idle : listed = [] → ∀ table, change table = table)
    (changes : listed = [] ∨ database.counters.isSome → ∀ owner,
      (database.counters.map change).bind (Table.find? owner) = written owner)
    (each : forEach write listed = write listed) : Counts write listed database written := by
  have result := ite_changeCounters_run idle database
  rw [← run] at result
  by_cases counted : listed = [] ∨ database.counters.isSome
  · rw [if_pos counted] at result
    constructor
    case succeeds => exact iff_of_true (congrArg Prod.fst result) counted
    case counter =>
      rw [result]
      exact changes
    case users => rw [result]
    case edges => rw [result]
    case each => rw [each]
  · rw [if_neg counted] at result
    constructor
    case succeeds =>
      rw [result]
      exact iff_of_false nofun counted
    case counter => exact fun isCounted => absurd isCounted counted
    case users => rw [result]
    case edges => rw [result]
    case each => rw [each]

/-- Raising counters adds the amount once per occurrence, in chunks as one by one. -/
theorem counts_increment (budget : Budget) (database : Database) (users : List UserId)
    (amount time : Int) :
    Counts (increment budget · amount time) users database fun owner =>
      if owner ∈ users.map UserId.bytes then
        some ⟨owner, database.tally owner + amount * (users.map UserId.bytes).count owner, time⟩
      else database.counter? owner := by
  apply Counts.of_change (increment_eq budget users amount time)
  · rintro rfl table
    rfl
  · exact fun counted owner => counter?_raised counted
  · exact forEach_increment budget users amount time

/-- Lowering counters takes one away from each that is there, in chunks as one by one. -/
theorem counts_decrement (budget : Budget) (database : Database) {users : List UserId}
    (distinct : users.Nodup) (time : Int) :
    Counts (decrement budget · time) users database fun owner =>
      if owner ∈ users.map UserId.bytes then
        (database.counter? owner).map fun row => ⟨owner, row.count - 1, time⟩
      else database.counter? owner := by
  apply Counts.of_change (decrement_eq budget distinct time)
  · rintro rfl table
    exact Statement.lower_nil time table
  · intro _ owner
    have lowered : (database.counter? owner).map (fun row => row.raised (-1) time) =
        (database.counter? owner).map fun row => ⟨owner, row.count - 1, time⟩ := by
      refine Option.map_congr fun row stored => ?_
      rw [CounterRow.raised, (Database.counter?_eq_some_iff.mp stored).2, Int.sub_eq_add_neg]
    rw [counter?_lowered, lowered]
  · exact forEach_decrement budget distinct time

/-! ## All of them -/

/-- Ten users, for whom no list fits into one chunk under a limit of ten. -/
def crowd : List UserId := (List.range 10).map fun number => Pair.user number.toUInt8

/-- Counters of the first and the last of the ten, and of somebody else, who alone is registered
with an account. -/
def tallied : Database where
  users := some
    { rows := [{ Pair.row (Pair.user 10) "ada" with externalId := some "account" }]
      nodup_ids := by decide
      nodup_handles := by decide
      nodup_externalIds := by decide }
  edges := some .empty
  counters := some
    { rows := [⟨(Pair.user 0).bytes, 5, 0⟩, ⟨(Pair.user 9).bytes, 3, 0⟩,
        ⟨(Pair.user 10).bytes, 7, 0⟩]
      nodup_keys := by decide }

end FriendGraph.Store
