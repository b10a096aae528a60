import FriendGraph.Proofs.Lookup

/-! # Counters follow edges

The counter of a user is meant to be the number of edges that leave the user; how far it is off
is its *drift*. A database is *closed* when everybody whom an edge leaves has a counter. Every
call leaves a closed database closed and the drift of every user as it was, because what it
writes moves the edges and the counter of each user by the same amount (`Database.Moved`). From a
database in which nobody is related the counters are therefore always right.
-/

namespace FriendGraph

open EdgeState (connected blocked)

namespace Database

/-- The number of edges that leave a user. -/
def outgoing (database : Database) (user : StoredId) : Nat :=
  database.edgeRows.countP (·.source = user)

/-- The count of a user, zero when there is no row for it. -/
def tally (database : Database) (user : StoredId) : Int :=
  ((database.counter? user).map (·.count)).getD 0

/-- How far the counter of a user is off the number of edges that leave them. -/
def drift (database : Database) (user : StoredId) : Int :=
  database.tally user - database.outgoing user

/-- Everybody whom an edge leaves has a counter. -/
def Closed (database : Database) : Prop :=
  ∀ row ∈ database.edgeRows, (database.counter? row.source).isSome

/-- Nobody is related to anybody, or ever was: there are neither edges nor counters. -/
structure Unrelated (database : Database) : Prop where
  edges : database.edgeRows = []
  counters : database.counterRows = []

/-- The edges that leave a user and their counter have both grown by an amount, and the counters
that have grown are stamped. -/
structure Moved (time : Int) (amount : StoredId → Int) (before after : Database) : Prop where
  outgoing : ∀ user, (after.outgoing user : Int) = before.outgoing user + amount user
  counter? : ∀ user, after.counter? user =
    if amount user = 0 then before.counter? user
    else some ⟨user, before.tally user + amount user, time⟩

/-- Every counter is still there, and those that were stamped have changed. -/
def Keeps (time : Int) (before after : Database) : Prop :=
  ∀ user row, before.counter? user = some row →
    ∃ later, after.counter? user = some later ∧
      (later = row ∨ later.count ≠ row.count ∧ later.updatedAt = time)

variable {before after database : Database} {time : Int} {amount : StoredId → Int}

/-- A user has outgoing edges exactly when one leaves them. -/
theorem outgoing_pos_iff {user : StoredId} :
    0 < database.outgoing user ↔ ∃ row ∈ database.edgeRows, row.source = user := by
  simp [outgoing, List.countP_pos_iff]

/-- In a closed database whoever has outgoing edges has a counter. -/
theorem Closed.counter?_of_outgoing (closed : database.Closed) {user : StoredId}
    (leaves : 0 < database.outgoing user) : (database.counter? user).isSome := by
  obtain ⟨row, member, rfl⟩ := outgoing_pos_iff.mp leaves
  exact closed row member

/-- A database in which nobody is related is closed. -/
theorem Unrelated.closed (unrelated : database.Unrelated) : database.Closed := by
  intro row member
  rw [unrelated.edges] at member
  cases member

/-- Where nobody is related all counters are right. -/
theorem Unrelated.drift (unrelated : database.Unrelated) (user : StoredId) :
    database.drift user = 0 := by
  have uncounted : database.counter? user = none := by
    rw [Option.eq_none_iff_forall_ne_some]
    intro row stored
    have member := (counter?_eq_some_iff.mp stored).1
    rw [unrelated.counters] at member
    cases member
  unfold Database.drift tally outgoing
  rw [uncounted, unrelated.edges]
  rfl

namespace Moved

theorem refl (time : Int) (database : Database) : Moved time (fun _ => 0) database database where
  outgoing := by simp
  counter? := by simp

/-- The tally of a user moves by the amount. -/
theorem tally (moved : Moved time amount before after) (user : StoredId) :
    after.tally user = before.tally user + amount user := by
  unfold Database.tally
  rw [moved.counter?]
  by_cases still : amount user = 0
  · simp [still]
  · simp [still, Database.tally]

/-- The drift of a user stays, since edges and counter move by the same amount. -/
theorem drift (moved : Moved time amount before after) (user : StoredId) :
    after.drift user = before.drift user := by
  unfold Database.drift
  rw [moved.tally, moved.outgoing]
  omega

/-- A closed database stays closed. -/
theorem closed (moved : Moved time amount before after) (closed : before.Closed) :
    after.Closed := by
  intro row member
  rw [moved.counter?]
  by_cases still : amount row.source = 0
  · -- An edge left the user before, since the number of their edges is what it was.
    have leaves : 0 < after.outgoing row.source := outgoing_pos_iff.mpr ⟨row, member, rfl⟩
    have same := moved.outgoing row.source
    rw [if_pos still]
    exact closed.counter?_of_outgoing (by omega)
  · rw [if_neg still]
    rfl

/-- Counters stay, and those that are stamped have changed. -/
theorem keeps (moved : Moved time amount before after) : Keeps time before after := by
  intro user row stored
  rw [moved.counter?]
  by_cases still : amount user = 0
  · exact ⟨row, by rw [stored]; simp [still], .inl rfl⟩
  · refine ⟨⟨user, before.tally user + amount user, time⟩, by simp [still], .inr ⟨?_, rfl⟩⟩
    simp only [Database.tally, stored, Option.map_some, Option.getD_some]
    omega

end Moved

end Database

/-! ## Edges that leave a user -/

namespace Relationship

variable {database after : Database} {budget : Budget} {user target : UserId} {time : Int}
  {peers : List UserId} {edges : Table EdgeRow} {owner : StoredId}

/-- Joining two users adds an edge for each who lacks one. -/
theorem countP_joined (different : user ≠ target) :
    (joined user target time edges).rows.countP (·.source = owner) =
      edges.rows.countP (·.source = owner) +
        ((lacking edges user target).map UserId.bytes).count owner := by
  have keyed : ∀ first second : UserId,
      Keyed.key (EdgeRow.connected first second time) = (first.bytes, second.bytes) :=
    fun _ _ => rfl
  have single : ∀ (isThere : Bool) (first second : UserId),
      (if isThere then [] else [EdgeRow.connected first second time]).countP (·.source = owner) =
        ((if isThere then [] else [first]).map UserId.bytes).count owner := by
    intro isThere first second
    cases isThere
    · simp [List.countP_singleton, List.count_singleton, EdgeRow.connected]
    · rfl
  unfold joined lacking
  rw [Table.rows_insert, Table.rows_insert, keyed, keyed, has_insert_connected different,
    List.countP_append, List.countP_append, single, single, List.map_append, List.count_append,
    Nat.add_assoc]

/-- Taking a row away that joins two users takes an edge from the first of them, if there is one. -/
theorem countP_filter_joins (source destination : UserId) (edges : Table EdgeRow)
    (owner : StoredId) :
    edges.rows.countP (·.source = owner) =
      (edges.filter fun row => !row.joins source destination).rows.countP (·.source = owner) +
        ((if edges.has (source.bytes, destination.bytes) then [source] else []).map
          UserId.bytes).count owner := by
  rw [Table.countP_filter_not (fun _ => Store.joins_iff.mp)]
  congr 1
  unfold Table.has
  cases found : edges.find? (source.bytes, destination.bytes) with
  | none => rfl
  | some row =>
    have keyed := (Table.find?_eq_some_iff.mp found).2
    have same : row.source = source.bytes := (Prod.mk.inj keyed).1
    simp [same, Store.joins_iff.mpr keyed, List.count_singleton]

/-- Severing two users takes an edge from each who has one. -/
theorem countP_severed (different : user ≠ target) (edges : Table EdgeRow) (owner : StoredId) :
    edges.rows.countP (·.source = owner) =
      (severed user target edges).rows.countP (·.source = owner) +
        ((linked edges user target).map UserId.bytes).count owner := by
  have first := countP_filter_joins user target edges owner
  have second := countP_filter_joins target user
    (edges.filter fun row => !row.joins user target) owner
  rw [filter_filter_joins, has_filter_joins different] at second
  rw [first, second, linked, List.map_append, List.count_append]
  omega

/-- Recoding keeps the edges that leave a user. -/
theorem countP_recode (source destination : UserId) (code time : Int) (edges : Table EdgeRow) :
    (Statement.recode source destination code time edges).rows.countP (·.source = owner) =
      edges.rows.countP (·.source = owner) := by
  unfold Statement.recode
  rw [Table.rows_adjust, List.countP_map]
  congr 1
  funext row
  by_cases meets : row.joins source destination = true <;> simp [meets, EdgeRow.withCode]

/-- Blocking takes the edge back from the target, if it is to return. -/
theorem countP_barred (different : user ≠ target) (time : Int) (edges : Table EdgeRow)
    (owner : StoredId) :
    edges.rows.countP (·.source = owner) =
      (barred user target time edges).rows.countP (·.source = owner) +
        ((returning edges user target).map UserId.bytes).count owner := by
  have keyed : ∀ row : EdgeRow, (row.joins target user && row.code != blocked.code) = true →
      Keyed.key row = (target.bytes, user.bytes) :=
    fun row both => Store.joins_iff.mp (Bool.and_eq_true_iff.mp both).1
  rw [← countP_recode user target blocked.code time edges,
    Table.countP_filter_not keyed, find?_recode_back different, barred, returning]
  congr 1
  cases found : edges.find? (target.bytes, user.bytes) with
  | none => rfl
  | some row =>
    have keyed := (Table.find?_eq_some_iff.mp found).2
    have same : row.source = target.bytes := (Prod.mk.inj keyed).1
    by_cases isBlock : row.code = blocked.code
    · simp [isBlock]
    · simp [same, Store.joins_iff.mpr keyed, isBlock, List.count_singleton]

/-- The number of edges that leave an owner when a user is connected with peers both ways. -/
def gained (user : UserId) (peers : List UserId) (owner : StoredId) : Nat :=
  (peers.map UserId.bytes).count owner + if owner = user.bytes then peers.length else 0

/-- Pairs with peers are an edge for each peer and as many for the user. -/
theorem countP_pairs :
    (Store.pairs user peers time).countP (·.source = owner) = gained user peers owner := by
  unfold gained
  induction peers with
  | nil => simp [Store.pairs]
  | cons peer rest inductionHypothesis =>
    rw [pairs_cons, List.countP_cons, List.countP_cons, inductionHypothesis, List.map_cons,
      List.count_cons]
    simp only [EdgeRow.connected, beq_iff_eq, List.length_cons]
    grind

/-! ## Counters that are written -/

/-- The tally is read from the counters that are there. -/
theorem tally_of_counters {counters : Table CounterRow}
    (present : database.counters = some counters) :
    database.tally owner = counters.tally owner := by
  unfold Database.tally Database.counter?
  rw [present]
  rfl

/-- Who is raised has the amount added once per occurrence. -/
theorem counter?_raised {users : List UserId} {amount : Int}
    (counted : users = [] ∨ database.counters.isSome) :
    (database.counters.map (Statement.raiseAll users amount time)).bind (Table.find? owner) =
      if owner ∈ users.map UserId.bytes then
        some ⟨owner, database.tally owner + amount * (users.map UserId.bytes).count owner, time⟩
      else database.counter? owner := by
  cases present : database.counters with
  | none =>
    rw [present] at counted
    have nobody := counted.resolve_right nofun
    simp [nobody, Database.counter?, present]
  | some counters =>
    rw [Option.map_some, Option.bind_some, Statement.find?_raiseAll, tally_of_counters present,
      Database.counter?, present, Option.bind_some]

/-- Raising by one adds the occurrences of a user, and stamps who occurs. -/
theorem counter?_raiseAll {users : List UserId}
    (counted : users = [] ∨ database.counters.isSome) :
    (database.counters.map (Statement.raiseAll users 1 time)).bind (Table.find? owner) =
      if ((users.map UserId.bytes).count owner : Int) = 0 then database.counter? owner
      else some ⟨owner, database.tally owner + (users.map UserId.bytes).count owner, time⟩ := by
  simp only [counter?_raised counted, Int.one_mul, Int.natCast_eq_zero, List.count_eq_zero, ite_not]

/-- Who is lowered has one less, if there was a counter at all. -/
theorem counter?_lowered (users : List UserId) :
    (database.counters.map (Statement.lower users time)).bind (Table.find? owner) =
      if owner ∈ users.map UserId.bytes then
        (database.counter? owner).map fun row => row.raised (-1) time
      else database.counter? owner := by
  cases present : database.counters with
  | none => simp [Database.counter?, present]
  | some counters =>
    rw [Option.map_some, Option.bind_some, Statement.find?_lower, Database.counter?, present,
      Option.bind_some]

/-- Lowering different users who have counters takes one from each, and stamps them. -/
theorem counter?_lower {users : List UserId} (distinct : (users.map UserId.bytes).Nodup)
    (stored : ∀ owner ∈ users.map UserId.bytes, (database.counter? owner).isSome) :
    (database.counters.map (Statement.lower users time)).bind (Table.find? owner) =
      if -((users.map UserId.bytes).count owner : Int) = 0 then database.counter? owner
      else some ⟨owner, database.tally owner + -((users.map UserId.bytes).count owner : Int),
        time⟩ := by
  rw [counter?_lowered, distinct.count]
  by_cases member : owner ∈ users.map UserId.bytes
  · obtain ⟨row, found⟩ := Option.isSome_iff_exists.mp (stored owner member)
    have owned := (Database.counter?_eq_some_iff.mp found).2
    simp [member, Database.tally, found, CounterRow.raised, owned]
  · simp [member]

/-- Crediting adds the edges that are gained, and stamps who gains one. -/
theorem counter?_credited (counted : database.counters.isSome) (somebody : peers ≠ []) :
    (database.counters.map (credited user peers time)).bind (Table.find? owner) =
      if (gained user peers owner : Int) = 0 then database.counter? owner
      else some ⟨owner, database.tally owner + gained user peers owner, time⟩ := by
  obtain ⟨counters, present⟩ := Option.isSome_iff_exists.mp counted
  have positive : 0 < peers.length := List.length_pos_iff.mpr somebody
  simp only [tally_of_counters present, Database.counter?, present, Option.map_some,
    Option.bind_some, credited, Statement.find?_raiseAll, Statement.tally_raiseAll, List.map_cons,
    List.map_nil, List.mem_singleton, gained, Int.one_mul, Int.natCast_eq_zero]
  by_cases isUser : owner = user.bytes
  · have moves : (peers.map UserId.bytes).count owner + peers.length ≠ 0 := by omega
    subst isUser
    simp only [↓reduceIte, moves, List.count_singleton_self, Int.natCast_add, Int.cast_ofNat_Int,
      Int.mul_one, Int.add_assoc]
  · simp only [isUser, ↓reduceIte, Nat.add_zero, List.count_eq_zero, ite_not]

/-! ## Changes of relationships -/

/-- Connecting two users moves edges and counters alike. -/
theorem moved_connect (different : user ≠ target) {isNew : Bool}
    (run : connect budget user target time database = (.ok isNew, after)) :
    ∃ amount, database.Moved time amount after := by
  obtain ⟨_, edges, _, present, _, _, _, counted, _, rfl⟩ := (connect_eq_ok_iff different).mp run
  refine ⟨fun owner => ((lacking edges user target).map UserId.bytes).count owner, ?_, ?_⟩
  · intro owner
    rw [Database.outgoing, Database.outgoing, Database.edgeRows_of_edges rfl,
      Database.edgeRows_of_edges present, countP_joined different, Int.natCast_add]
  · exact fun owner => counter?_raiseAll counted

/-- Whoever is linked has an edge to somebody. -/
theorem has_of_mem_linked {lone : UserId} (listed : lone ∈ linked edges user target) :
    ∃ peer : UserId, edges.has (lone.bytes, peer.bytes) = true := by
  rcases List.mem_append.mp listed with listed | listed
  · split at listed
    · next isThere =>
      cases List.mem_singleton.mp listed
      exact ⟨target, isThere⟩
    · cases listed
  · split at listed
    · next isThere =>
      cases List.mem_singleton.mp listed
      exact ⟨user, isThere⟩
    · cases listed

/-- Whoever returns has an edge to the user. -/
theorem has_of_mem_returning {lone : UserId} (listed : lone ∈ returning edges user target) :
    edges.has (lone.bytes, user.bytes) = true := by
  unfold returning at listed
  split at listed
  · next deleted =>
    cases List.mem_singleton.mp listed
    exact Option.isSome_of_any deleted
  · cases listed

/-- Whoever an edge leaves has a counter, if the database is closed. -/
theorem counter?_of_has (closed : database.Closed) (present : database.edges = some edges)
    {source destination : UserId}
    (isThere : edges.has (source.bytes, destination.bytes) = true) :
    (database.counter? source.bytes).isSome := by
  obtain ⟨row, found⟩ := Option.isSome_iff_exists.mp isThere
  obtain ⟨member, keyed⟩ := Table.find?_eq_some_iff.mp found
  have leaves : row ∈ database.edgeRows := by
    rw [Database.edgeRows_of_edges present]
    exact member
  rw [← (Prod.mk.inj keyed).1]
  exact closed row leaves

/-- Disconnecting two users moves edges and counters alike. -/
theorem moved_disconnect (closed : database.Closed) (different : user ≠ target)
    (run : disconnect budget user target time database = (.ok (), after)) :
    ∃ amount, database.Moved time amount after := by
  obtain ⟨edges, present, _, rfl⟩ := (disconnect_eq_ok_iff different).mp run
  have apart : user.bytes ≠ target.bytes := fun same => different (UserId.ext same)
  refine ⟨fun owner => -(((linked edges user target).map UserId.bytes).count owner : Int), ?_, ?_⟩
  · intro owner
    have rows := countP_severed different edges owner
    rw [Database.outgoing, Database.outgoing, Database.edgeRows_of_edges rfl,
      Database.edgeRows_of_edges present]
    omega
  · refine fun owner => counter?_lower ?_ ?_
    · unfold linked
      split <;> split <;> simp [apart]
    · intro owner member
      obtain ⟨lone, listed, rfl⟩ := List.mem_map.mp member
      obtain ⟨peer, isThere⟩ := has_of_mem_linked listed
      exact counter?_of_has closed present isThere

/-- Blocking moves edges and counters alike. -/
theorem moved_bar (closed : database.Closed) (different : user ≠ target)
    (run : bar budget user target time database = (.ok (), after)) :
    ∃ amount, database.Moved time amount after := by
  obtain ⟨edges, present, _, _, rfl⟩ := (bar_eq_ok_iff different).mp run
  refine ⟨fun owner => -(((returning edges user target).map UserId.bytes).count owner : Int),
    ?_, ?_⟩
  · intro owner
    have rows := countP_barred different time edges owner
    rw [Database.outgoing, Database.outgoing, Database.edgeRows_of_edges rfl,
      Database.edgeRows_of_edges present]
    omega
  · refine fun owner => counter?_lower ?_ ?_
    · unfold returning
      split <;> simp
    · intro owner member
      obtain ⟨lone, listed, rfl⟩ := List.mem_map.mp member
      exact counter?_of_has closed present (has_of_mem_returning listed)

/-- Connecting newcomers moves edges and counters alike. -/
theorem moved_connectNew {externalIds : List String}
    (run : connectNew budget user externalIds time database = (.ok peers, after)) :
    ∃ amount, database.Moved time amount after := by
  obtain ⟨_, _, _, _, _, written⟩ := connectNew_eq_ok_iff.mp run
  rcases written with ⟨_, rfl⟩ | ⟨somebody, edges, grown, present, rows, counted, rfl⟩
  · exact ⟨_, .refl time after⟩
  · refine ⟨fun owner => gained user peers owner, ?_, ?_⟩
    · intro owner
      rw [Database.outgoing, Database.outgoing, Database.edgeRows_of_edges rfl,
        Database.edgeRows_of_edges present, rows, List.countP_append, countP_pairs,
        Int.natCast_add]
    · exact fun owner => counter?_credited counted somebody

end Relationship

/-! ## Runs -/

namespace Service

variable {State : Type} [Sender State]

/-- A call moves edges and counters alike. -/
theorem moved_serve (call : Call) (service : Service State)
    (closed : service.database.Closed) :
    ∃ amount, service.database.Moved call.occasion.time amount
      (service.serve call).2.database := by
  apply database_serve fun after =>
    ∃ amount, service.database.Moved call.occasion.time amount after
  · exact ⟨_, .refl _ _⟩
  · exact fun _ _ _ different run => Relationship.moved_connect different run
  · exact fun _ _ _ different run => Relationship.moved_disconnect closed different run
  · exact fun _ _ different run => Relationship.moved_bar closed different run
  · exact fun _ _ _ run => Relationship.moved_connectNew run

/-- A run that starts with nobody related leaves the database closed and every counter right. -/
theorem settled_serveAll (calls : List Call) {service : Service State}
    (unrelated : service.database.Unrelated) :
    (service.serveAll calls).database.Closed ∧
      ∀ user, (service.serveAll calls).database.drift user = 0 := by
  refine serveAll_induction (fun service =>
    service.database.Closed ∧ ∀ user, service.database.drift user = 0) ?_ ?_
  · rintro call _ service ⟨closed, still⟩
    obtain ⟨amount, moved⟩ := moved_serve call service closed
    exact ⟨moved.closed closed, fun user => (moved.drift user).trans (still user)⟩
  · exact ⟨unrelated.closed, unrelated.drift⟩

/-- A run that starts with nobody related keeps every counter right. -/
theorem drift_serveAll (calls : List Call) {service : Service State}
    (unrelated : service.database.Unrelated) (user : StoredId) :
    (service.serveAll calls).database.drift user = 0 :=
  (settled_serveAll calls unrelated).2 user

/-- **Counters follow edges.** A call leaves a closed database closed and the drift of every user
as it was, and stamps exactly the counters that it changes; and after any run that starts with
nobody related, every counter is the number of edges that leave its owner. -/
theorem counters_follow_edges :
    (∀ (call : Call) (service : Service State), service.database.Closed →
      (service.serve call).2.database.Closed ∧
        (∀ user, (service.serve call).2.database.drift user = service.database.drift user) ∧
        service.database.Keeps call.occasion.time (service.serve call).2.database) ∧
      ∀ (calls : List Call) (service : Service State), service.database.Unrelated →
        ∀ row ∈ (service.serveAll calls).database.counterRows,
          row.count = (service.serveAll calls).database.outgoing row.owner ∧ 0 ≤ row.count := by
  refine ⟨fun call service closed => ?_, fun calls service unrelated row member => ?_⟩
  · obtain ⟨amount, moved⟩ := moved_serve call service closed
    exact ⟨moved.closed closed, moved.drift, moved.keeps⟩
  · have counted : (service.serveAll calls).database.tally row.owner = row.count := by
      rw [Database.tally, Database.counter?_eq_some_iff.mpr ⟨member, rfl⟩]
      rfl
    have still := drift_serveAll calls unrelated row.owner
    rw [Database.drift, counted] at still
    omega

/-- Two strangers become friends, and then one of them blocks the other. -/
theorem counters_follow_edges_pair :
    let friends := Pair.strangers.serveAll [Pair.call 5 (.add Pair.bob)]
    let after := (friends.serve (Pair.call 6 (.block Pair.bob))).2.database
    friends.database.counterRows = [⟨Pair.ada.bytes, 1, 5⟩, ⟨Pair.bob.bytes, 1, 5⟩] ∧
      after.counterRows = [⟨Pair.ada.bytes, 1, 5⟩, ⟨Pair.bob.bytes, 0, 6⟩] ∧
      friends.database.Closed ∧ after.Closed ∧ friends.database.Keeps 6 after ∧
      Pair.strangers.database.Unrelated ∧
      ∀ row ∈ friends.database.counterRows,
        row.count = friends.database.outgoing row.owner ∧ 0 ≤ row.count := by
  intro friends after
  have unrelated : Pair.strangers.database.Unrelated := ⟨rfl, rfl⟩
  have closed : friends.database.Closed :=
    (counters_follow_edges.1 (Pair.call 5 (.add Pair.bob)) _ unrelated.closed).1
  obtain ⟨still, _, keeps⟩ := counters_follow_edges.1 (Pair.call 6 (.block Pair.bob)) _ closed
  exact ⟨rfl, rfl, closed, still, keeps, unrelated, counters_follow_edges.2 _ _ unrelated⟩

end Service

end FriendGraph
