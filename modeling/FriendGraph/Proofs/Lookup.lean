import FriendGraph.Proofs.Run

/-! # The edge between two users

A database shows its rows whatever tables are missing: `Database.edge?` is the edge from one
stored identifier to another and `Database.counter?` the counter of one. Every change of a
relationship is a change of the two edges between its users, and leaves every other edge alone
(`Relationship.edge?_connect`, `Relationship.edge?_disconnect`, `Relationship.edge?_bar`,
`Relationship.edge?_connectNew`).
-/

namespace FriendGraph

open EdgeState (connected blocked)

namespace Database

/-- The edges, none when their table is missing. -/
def edgeRows (database : Database) : List EdgeRow := database.edges.elim [] Table.rows

/-- The counters, none when their table is missing. -/
def counterRows (database : Database) : List CounterRow := database.counters.elim [] Table.rows

/-- The edge from one user to another. -/
def edge? (database : Database) (source destination : StoredId) : Option EdgeRow :=
  database.edges.bind (Table.find? (source, destination))

/-- The counter of a user. -/
def counter? (database : Database) (owner : StoredId) : Option CounterRow :=
  database.counters.bind (Table.find? owner)

variable {database : Database} {source destination owner : StoredId}

/-- The rows of edges are those of the table that is there. -/
theorem edgeRows_of_edges {edges : Table EdgeRow} (present : database.edges = some edges) :
    database.edgeRows = edges.rows := by
  rw [edgeRows, present]
  rfl

/-- An edge is looked up in the table that is there. -/
theorem edge?_of_edges {edges : Table EdgeRow} (present : database.edges = some edges)
    (source destination : StoredId) :
    database.edge? source destination = edges.find? (source, destination) := by
  rw [edge?, present]
  rfl

/-- There is an edge between two users exactly when one of the rows has these ends. -/
theorem edge?_eq_some_iff {row : EdgeRow} :
    database.edge? source destination = some row ↔
      row ∈ database.edgeRows ∧ row.source = source ∧ row.destination = destination := by
  unfold edge? edgeRows
  cases database.edges with
  | none => simp
  | some edges =>
    rw [Option.bind_some, Table.find?_eq_some_iff, Option.elim_some]
    exact and_congr_right fun _ => Prod.mk.injEq .. ▸ Iff.rfl

/-- Without rows there is no edge. -/
theorem edge?_of_edgeRows (empty : database.edgeRows = []) (source destination : StoredId) :
    database.edge? source destination = none := by
  rw [Option.eq_none_iff_forall_ne_some]
  intro row stored
  have member := (edge?_eq_some_iff.mp stored).1
  rw [empty] at member
  cases member

/-- A user has a counter exactly when one of the rows is theirs. -/
theorem counter?_eq_some_iff {row : CounterRow} :
    database.counter? owner = some row ↔ row ∈ database.counterRows ∧ row.owner = owner := by
  unfold counter? counterRows
  cases database.counters with
  | none => simp
  | some counters =>
    rw [Option.bind_some, Table.find?_eq_some_iff, Option.elim_some]
    rfl

end Database

namespace Relationship

variable {database after : Database} {budget : Budget} {user target : UserId} {time : Int}
  {peers : List UserId} {edges : Table EdgeRow} {key : StoredId × StoredId}
  {source destination : StoredId}

/-- One of two identifiers is that of a user, and the other one that of one of their peers. -/
def Between (user : UserId) (peers : List UserId) (source destination : StoredId) : Prop :=
  source = user.bytes ∧ (∃ peer ∈ peers, destination = peer.bytes) ∨
    destination = user.bytes ∧ ∃ peer ∈ peers, source = peer.bytes

instance : Decidable (Between user peers source destination) := by
  unfold Between
  infer_instance

theorem Between.symm (between : Between user peers source destination) :
    Between user peers destination source := Or.symm between

/-- What is between a user and a peer is between the user and all peers. -/
theorem Between.of_mem {peer : UserId} (between : Between user [peer] source destination)
    (member : peer ∈ peers) : Between user peers source destination := by
  rcases between with ⟨isUser, only, single, isPeer⟩ | ⟨isUser, only, single, isPeer⟩ <;>
    cases List.mem_singleton.mp single
  · exact .inl ⟨isUser, peer, member, isPeer⟩
  · exact .inr ⟨isUser, peer, member, isPeer⟩

/-- The edges between two users lead from one to the other, or back. -/
theorem between_singleton_iff :
    Between user [target] source destination ↔
      source = user.bytes ∧ destination = target.bytes ∨
        source = target.bytes ∧ destination = user.bytes := by
  simp [Between, and_comm]

/-- Whoever is between a user and peers is between the user and one of them. -/
theorem between_iff_exists :
    Between user peers source destination ↔
      ∃ peer ∈ peers, Between user [peer] source destination := by
  simp only [between_singleton_iff]
  rw [Between]
  grind

/-- An edge is between two users exactly when its ends are these two. -/
theorem between_bytes_iff {one other : UserId} :
    Between user [target] one.bytes other.bytes ↔
      one = user ∧ other = target ∨ one = target ∧ other = user := by
  simp only [between_singleton_iff, UserId.ext_iff]

/-- Between two users it does not matter who comes first. -/
theorem between_comm :
    Between user [target] source destination ↔ Between target [user] source destination := by
  rw [between_singleton_iff, between_singleton_iff, or_comm]

/-- A connected edge that was made at a time. -/
def madeAt (time : Int) (source destination : StoredId) : EdgeRow :=
  ⟨source, destination, time, time, connected.code⟩

theorem pairs_cons (user peer : UserId) (rest : List UserId) (time : Int) :
    Store.pairs user (peer :: rest) time =
      EdgeRow.connected user peer time :: EdgeRow.connected peer user time ::
        Store.pairs user rest time := rfl

/-- The pairs of a user with peers hold a connected row for each edge between them. -/
theorem find?_pairs (user : UserId) (peers : List UserId) (time : Int)
    (source destination : StoredId) :
    ((Store.pairs user peers time).find? fun row => Keyed.key row = (source, destination)) =
      if Between user peers source destination then some (madeAt time source destination)
      else none := by
  induction peers with
  | nil => simp [Store.pairs, Between]
  | cons peer rest inductionHypothesis =>
    have split : Between user (peer :: rest) source destination ↔
        (source, destination) = (user.bytes, peer.bytes) ∨
          (source, destination) = (peer.bytes, user.bytes) ∨
            Between user rest source destination := by
      simp only [Between, List.mem_cons, Prod.mk.injEq]
      grind
    have keyed : ∀ first second : UserId,
        Keyed.key (EdgeRow.connected first second time) = (source, destination) ↔
          (source, destination) = (first.bytes, second.bytes) := fun _ _ => eq_comm
    rw [pairs_cons, List.find?_cons, List.find?_cons, inductionHypothesis]
    simp only [keyed, split]
    by_cases forth : (source, destination) = (user.bytes, peer.bytes)
    · obtain ⟨rfl, rfl⟩ := Prod.mk.inj forth
      simp only [decide_true, true_or, ↓reduceIte]
      rfl
    · by_cases back : (source, destination) = (peer.bytes, user.bytes)
      · obtain ⟨rfl, rfl⟩ := Prod.mk.inj back
        simp only [forth, decide_true, decide_false, true_or, or_true, ↓reduceIte]
        rfl
      · simp only [forth, back, decide_false, false_or]

/-- The pairs of a user with peers have the keys of the edges between them. -/
theorem mem_keys_pairs :
    (source, destination) ∈ (Store.pairs user peers time).map Keyed.key ↔
      Between user peers source destination := by
  have found := find?_pairs user peers time source destination
  constructor
  · intro member
    obtain ⟨row, made, keyed⟩ := List.mem_map.mp member
    by_cases between : Between user peers source destination
    · exact between
    · rw [if_neg between, List.find?_eq_none] at found
      exact absurd (decide_eq_true keyed) (found row made)
  · intro between
    rw [if_pos between] at found
    have keyed := List.find?_some found
    exact List.mem_map.mpr ⟨_, List.mem_of_find?_eq_some found, of_decide_eq_true keyed⟩

/-- The edges between a user and peers have different keys exactly if no peer is named twice and the
user is not one of them. -/
theorem nodup_keys_pairs_iff :
    ((Store.pairs user peers time).map Keyed.key).Nodup ↔ peers.Nodup ∧ user ∉ peers := by
  induction peers with
  | nil => simp [Store.pairs]
  | cons peer rest inductionHypothesis =>
    have keys : (Store.pairs user (peer :: rest) time).map Keyed.key =
        (user.bytes, peer.bytes) :: (peer.bytes, user.bytes) ::
          (Store.pairs user rest time).map Keyed.key := rfl
    have same : ∀ one other : UserId, one.bytes = other.bytes ↔ one = other :=
      fun one other => UserId.ext_iff.symm
    rw [keys, List.nodup_cons, List.nodup_cons, List.mem_cons, mem_keys_pairs, mem_keys_pairs,
      inductionHypothesis, Prod.mk.injEq]
    simp only [Between, same, List.nodup_cons, List.mem_cons]
    grind

/-- The edges that leave the user go to the peers in order. -/
theorem filter_pairs_self (other : user ∉ peers) :
    (Store.pairs user peers time).filter (·.source = user.bytes) =
      peers.map (EdgeRow.connected user · time) := by
  induction peers with
  | nil => rfl
  | cons peer rest inductionHypothesis =>
    have different : peer.bytes ≠ user.bytes :=
      fun same => other (UserId.ext same ▸ List.mem_cons_self)
    have later := inductionHypothesis fun member => other (List.mem_cons_of_mem _ member)
    simp [pairs_cons, EdgeRow.connected, different, later]

/-- Nobody else has an edge but back to the user. -/
theorem filter_pairs_of_ne (different : user.bytes ≠ source) :
    (Store.pairs user peers time).filter (·.source = source) =
      (peers.filter (·.bytes = source)).map (EdgeRow.connected · user time) := by
  induction peers with
  | nil => rfl
  | cons peer rest inductionHypothesis =>
    by_cases same : peer.bytes = source
    · simp [pairs_cons, EdgeRow.connected, different, same, inductionHypothesis]
    · simp [pairs_cons, EdgeRow.connected, different, same, inductionHypothesis]

/-- Joining two users leaves every edge that is there and adds those between the two. -/
theorem find?_joined :
    (joined user target time edges).find? (source, destination) =
      (edges.find? (source, destination)).or
        (if Between user [target] source destination then some (madeAt time source destination)
        else none) := by
  unfold joined
  rw [← find?_pairs, Table.find?_insert, Table.find?_insert, Option.or_assoc]
  congr 1
  rw [Store.pairs, List.flatMap_singleton, List.find?_cons, List.find?_cons, List.find?_nil]
  by_cases forth : Keyed.key (EdgeRow.connected user target time) = (source, destination)
  · simp [forth]
  · by_cases back : Keyed.key (EdgeRow.connected target user time) = (source, destination) <;>
      simp [forth, back]

/-- Severing two users takes the edges between them away and leaves all others. -/
theorem find?_severed :
    (severed user target edges).find? (source, destination) =
      if Between user [target] source destination then none
      else edges.find? (source, destination) := by
  unfold severed
  rw [Table.find?_filter]
  cases found : edges.find? (source, destination) with
  | none => simp
  | some row =>
    have keyed := (Table.find?_eq_some_iff.mp found).2
    have meets : (row.joins user target || row.joins target user) = true ↔
        Between user [target] source destination := by
      rw [Bool.or_eq_true, Store.joins_iff, Store.joins_iff, keyed, Prod.mk.injEq, Prod.mk.injEq,
        between_singleton_iff]
    simp only [← meets, Option.filter_some]
    cases row.joins user target || row.joins target user <;> rfl

/-- A block recodes the edge to the target, takes back the one to the user unless it is a block, and
leaves all others. -/
theorem find?_barred :
    (barred user target time edges).find? key =
      if key = (user.bytes, target.bytes) then
        (edges.find? key).map fun row => row.withCode blocked.code time
      else if key = (target.bytes, user.bytes) then
        (edges.find? key).filter fun row => row.code = blocked.code
      else edges.find? key := by
  unfold barred
  rw [Table.find?_filter, Store.find?_recode]
  cases found : edges.find? key with
  | none => simp
  | some row =>
    have keyed := (Table.find?_eq_some_iff.mp found).2
    by_cases forth : key = (user.bytes, target.bytes)
    · simp [forth, EdgeRow.withCode]
    · simp only [forth, ↓reduceIte, Option.filter_some]
      by_cases back : key = (target.bytes, user.bytes)
      · have meets : row.joins target user = true := Store.joins_iff.mpr (keyed.trans back)
        simp [back, meets, bne]
      · have misses : row.joins target user = false :=
          Bool.eq_false_iff.mpr fun meets => back (keyed.symm.trans (Store.joins_iff.mp meets))
        simp [back, misses]

/-- Connecting two users makes the edges between them that are missing. -/
theorem edge?_connect (different : user ≠ target) {isNew : Bool}
    (run : connect budget user target time database = (.ok isNew, after))
    (source destination : StoredId) :
    after.edge? source destination =
      (database.edge? source destination).or
        (if Between user [target] source destination then some (madeAt time source destination)
        else none) := by
  obtain ⟨_, edges, _, present, _, _, _, _, _, rfl⟩ := (connect_eq_ok_iff different).mp run
  rw [Database.edge?_of_edges rfl, Database.edge?_of_edges present, find?_joined]

/-- Two users can only be connected as long as the edges between them are connected. -/
theorem code_of_connect (different : user ≠ target) {isNew : Bool}
    (run : connect budget user target time database = (.ok isNew, after))
    (between : Between user [target] source destination) {row : EdgeRow}
    (stored : database.edge? source destination = some row) : row.code = connected.code := by
  obtain ⟨_, edges, _, present, _, openForth, openBack, _⟩ := (connect_eq_ok_iff different).mp run
  rw [Database.edge?_of_edges present] at stored
  rcases between_singleton_iff.mp between with ⟨rfl, rfl⟩ | ⟨rfl, rfl⟩
  · exact openForth row stored
  · exact openBack row stored

/-- Disconnecting two users leaves no edge between them. -/
theorem edge?_disconnect (different : user ≠ target)
    (run : disconnect budget user target time database = (.ok (), after))
    (source destination : StoredId) :
    after.edge? source destination =
      if Between user [target] source destination then none
      else database.edge? source destination := by
  obtain ⟨edges, present, _, rfl⟩ := (disconnect_eq_ok_iff different).mp run
  rw [Database.edge?_of_edges rfl, Database.edge?_of_edges present, find?_severed]

/-- Barring a user changes the edge to them, and withholds the edge back unless it is a block. -/
theorem edge?_bar (different : user ≠ target)
    (run : bar budget user target time database = (.ok (), after))
    (source destination : StoredId) :
    after.edge? source destination =
      if (source, destination) = (user.bytes, target.bytes) then
        (database.edge? source destination).map fun row => row.withCode blocked.code time
      else if (source, destination) = (target.bytes, user.bytes) then
        (database.edge? source destination).filter fun row => row.code = blocked.code
      else database.edge? source destination := by
  obtain ⟨edges, present, _, _, rfl⟩ := (bar_eq_ok_iff different).mp run
  rw [Database.edge?_of_edges rfl, Database.edge?_of_edges present, find?_barred]

/-- Only a user to whom an edge leads can be barred. -/
theorem edge?_of_bar (different : user ≠ target)
    (run : bar budget user target time database = (.ok (), after)) :
    ∃ row, database.edge? user.bytes target.bytes = some row := by
  obtain ⟨edges, present, isThere, _⟩ := (bar_eq_ok_iff different).mp run
  rw [Database.edge?_of_edges present]
  exact Option.isSome_iff_exists.mp isThere

/-- Connecting a user with the owners of accounts makes both edges between the user and each of
the peers. -/
theorem edge?_connectNew {externalIds : List String}
    (run : connectNew budget user externalIds time database = (.ok peers, after))
    (source destination : StoredId) :
    after.edge? source destination =
      (database.edge? source destination).or
        (if Between user peers source destination then some (madeAt time source destination)
        else none) := by
  obtain ⟨_, _, _, _, _, written⟩ := connectNew_eq_ok_iff.mp run
  rcases written with ⟨rfl, rfl⟩ | ⟨_, edges, grown, present, rows, _, rfl⟩
  · simp [Between]
  · rw [Database.edge?_of_edges rfl, Database.edge?_of_edges present,
      Table.find?_of_rows_eq_append rows, find?_pairs]

/-- All of the edges to and from peers are new. -/
theorem edge?_of_connectNew {externalIds : List String}
    (run : connectNew budget user externalIds time database = (.ok peers, after))
    (between : Between user peers source destination) :
    database.edge? source destination = none := by
  obtain ⟨_, _, _, _, _, written⟩ := connectNew_eq_ok_iff.mp run
  rcases written with ⟨rfl, _⟩ | ⟨_, edges, grown, present, rows, _, rfl⟩
  · simp [Between] at between
  · -- An edge under this key would share it with one of the rows that were appended.
    have added := find?_pairs user peers time source destination
    rw [if_pos between] at added
    have distinct := grown.nodup_keys
    rw [rows, List.map_append, List.nodup_append] at distinct
    rw [Database.edge?_of_edges present, Table.find?_eq_none_iff]
    intro taken
    have keyed := List.find?_some added
    exact distinct.2.2 _ taken _ (List.mem_map.mpr ⟨_, List.mem_of_find?_eq_some added, rfl⟩)
      (of_decide_eq_true keyed).symm

/-- A user is never among the peers. -/
theorem not_mem_of_connectNew {externalIds : List String}
    (run : connectNew budget user externalIds time database = (.ok peers, after)) :
    user ∉ peers := by
  obtain ⟨_, _, _, _, rfl, _⟩ := connectNew_eq_ok_iff.mp run
  intro member
  have other := (List.mem_filter.mp (List.mem_filter.mp member).1).2
  exact of_decide_eq_true other rfl

/-- No two of the peers are the same. -/
theorem nodup_of_connectNew {externalIds : List String}
    (run : connectNew budget user externalIds time database = (.ok peers, after)) :
    peers.Nodup := by
  obtain ⟨_, _, _, _, _, written⟩ := connectNew_eq_ok_iff.mp run
  rcases written with ⟨rfl, _⟩ | ⟨_, edges, grown, _, rows, _, _⟩
  · exact List.nodup_nil
  · have distinct := grown.nodup_keys
    rw [rows, List.map_append, List.nodup_append] at distinct
    exact (nodup_keys_pairs_iff.mp distinct.2.1).1

end Relationship

end FriendGraph
