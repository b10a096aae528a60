import FriendGraph.Proofs.Adding

/-! # Removing a user, on every state

A removal deletes the edges between two users, and takes one from the counter of each of the two
whose edge it deleted (`Database.parted`). That is all it does, whichever of the two asks for it, so
a removal by the other one does the same, and a second one does nothing. Whatever an addition has
written between two users who were not related is deleted again.
-/

namespace FriendGraph

open Relationship (Between)

/-! ## Databases without some edges -/

namespace Database

/-- One of the edges that are dropped leaves the owner. -/
def Loses (drop : EdgeRow → Bool) (owner : StoredId) (database : Database) : Prop :=
  ∃ row ∈ database.edgeRows, row.source = owner ∧ drop row = true

instance {drop : EdgeRow → Bool} {owner : StoredId} {database : Database} :
    Decidable (database.Loses drop owner) := by
  unfold Loses
  infer_instance

/-- The database without the edges that are dropped; each of their sources who has a counter has
one less from a time on. -/
def without (drop : EdgeRow → Bool) (time : Int) (database : Database) : Database where
  users := database.users
  edges := database.edges.map (Table.filter fun row => !drop row)
  counters := database.counters.map
    (Table.adjust
      (fun row => if database.Loses drop row.owner then row.raised (-1) time else row)
      (by
        intro row
        split <;> rfl))

/-- The database without the edges between two users. -/
def parted (one other : UserId) (time : Int) (database : Database) : Database :=
  database.without (fun row => Between one [other] row.source row.destination) time

variable {database after : Database} {directory : Directory} {drop : EdgeRow → Bool}
  {source destination owner : StoredId} {one other : UserId} {time later : Int}

/-- Without the edges that are dropped the others are left in their order. -/
theorem edgeRows_without :
    (database.without drop time).edgeRows = database.edgeRows.filter fun row => !drop row := by
  unfold edgeRows without
  cases database.edges <;> rfl

/-- An edge is still there exactly when it is not dropped. -/
theorem edge?_without :
    (database.without drop time).edge? source destination =
      (database.edge? source destination).filter fun row => !drop row := by
  unfold edge? without
  cases database.edges with
  | none => rfl
  | some edges => exact Table.find?_filter _ edges _

/-- Those who lose an edge have one less on their counters. -/
theorem counter?_without :
    (database.without drop time).counter? owner =
      if database.Loses drop owner then (database.counter? owner).map (·.raised (-1) time)
      else database.counter? owner := by
  unfold counter? without
  cases database.counters with
  | none => simp
  | some counters =>
    refine (Table.find?_adjust _ _ counters owner).trans ?_
    rw [Option.bind_some]
    cases found : counters.find? owner with
    | none => simp
    | some row =>
      rw [Option.map_some, Option.map_some, Statement.owner_of_find? found]
      split <;> rfl

/-- Those who lose an edge and have a counter have one less in the tally. -/
theorem tally_without :
    (database.without drop time).tally owner =
      if database.Loses drop owner ∧ (database.counter? owner).isSome then database.tally owner - 1
      else database.tally owner := by
  unfold tally
  rw [counter?_without]
  by_cases loses : database.Loses drop owner
  · cases database.counter? owner with
    | none => simp
    | some row => simp [loses, CounterRow.raised, Int.sub_eq_add_neg]
  · simp [loses]

theorem Complete.without (complete : database.Complete directory) :
    (database.without drop time).Complete directory :=
  ⟨complete.users, Option.isSome_map.trans complete.edges,
    Option.isSome_map.trans complete.counters⟩

/-- Dropping edges lowers the counters of those who lose one. -/
theorem counters_without {losers : List UserId}
    (lost : ∀ owner, owner ∈ losers.map UserId.bytes ↔ database.Loses drop owner) :
    (database.without drop time).counters =
      database.counters.map (Statement.lower losers time) := by
  unfold without Statement.lower
  simp only [lost]

/-- Where there is nothing to drop, nothing changes. -/
theorem without_of_absent (absent : ∀ row ∈ database.edgeRows, drop row = false) :
    database.without drop time = database := by
  obtain ⟨users, edges, counters⟩ := database
  have nobody : ∀ owner, ¬Loses drop owner ⟨users, edges, counters⟩ := by
    rintro owner ⟨row, member, _, dropped⟩
    rw [absent row member] at dropped
    cases dropped
  have sameEdges : edges.map (Table.filter fun row => !drop row) = edges := by
    cases edges with
    | none => rfl
    | some edges =>
      refine congrArg some (Table.ext (List.filter_eq_self.mpr fun row member => ?_))
      rw [absent row member]
      rfl
  have lost : ∀ owner, owner ∈ ([] : List UserId).map UserId.bytes ↔
      Loses drop owner ⟨users, edges, counters⟩ :=
    fun owner => iff_of_false List.not_mem_nil (nobody owner)
  have sameCounters : (without drop time ⟨users, edges, counters⟩).counters = counters := by
    rw [counters_without lost]
    cases counters <;> simp
  calc without drop time ⟨users, edges, counters⟩
      = ⟨users, edges.map (Table.filter fun row => !drop row),
          (without drop time ⟨users, edges, counters⟩).counters⟩ := rfl
    _ = ⟨users, edges, counters⟩ := by rw [sameEdges, sameCounters]

/-- Tables that are there are the same as soon as their rows are. -/
theorem edges_eq_of_edgeRows (present : database.edges.isSome) (presentToo : after.edges.isSome)
    (same : after.edgeRows = database.edgeRows) : after.edges = database.edges := by
  obtain ⟨edges, present⟩ := Option.isSome_iff_exists.mp present
  obtain ⟨edgesToo, presentToo⟩ := Option.isSome_iff_exists.mp presentToo
  rw [edgeRows_of_edges present, edgeRows_of_edges presentToo] at same
  rw [present, presentToo, Table.ext same]

/-! ## Databases without the edges between two users -/

/-- Each of two users has an edge to lose if there is one to the other one. -/
theorem loses_iff :
    database.Loses (fun row => Between one [other] row.source row.destination) owner ↔
      owner = one.bytes ∧ (database.edge? one.bytes other.bytes).isSome ∨
        owner = other.bytes ∧ (database.edge? other.bytes one.bytes).isSome := by
  unfold Loses
  simp only [decide_eq_true_eq, Relationship.between_singleton_iff, Option.isSome_iff_exists,
    edge?_eq_some_iff]
  constructor
  · rintro ⟨row, member, rfl, ⟨isOne, isOther⟩ | ⟨isOther, isOne⟩⟩
    · exact .inl ⟨isOne, row, member, isOne, isOther⟩
    · exact .inr ⟨isOther, row, member, isOther, isOne⟩
  · rintro (⟨rfl, row, member, isOne, isOther⟩ | ⟨rfl, row, member, isOther, isOne⟩)
    · exact ⟨row, member, isOne, .inl ⟨isOne, isOther⟩⟩
    · exact ⟨row, member, isOther, .inr ⟨isOther, isOne⟩⟩

/-- Between two users it does not matter who is parted from whom. -/
theorem parted_comm : database.parted one other time = database.parted other one time := by
  unfold parted
  simp only [Relationship.between_comm]

/-- Between those who part no edge is left, and all others are. -/
theorem edge?_parted :
    (database.parted one other time).edge? source destination =
      if Between one [other] source destination then none
      else database.edge? source destination := by
  rw [parted, edge?_without]
  cases stored : database.edge? source destination with
  | none => simp
  | some row =>
    obtain ⟨_, rfl, rfl⟩ := edge?_eq_some_iff.mp stored
    by_cases between : Between one [other] row.source row.destination <;> simp [between]

/-- No edge is between users neither of whom has one to the other. -/
theorem not_between_of_absent (forth : database.edge? one.bytes other.bytes = none)
    (back : database.edge? other.bytes one.bytes = none) :
    ∀ row ∈ database.edgeRows, ¬Between one [other] row.source row.destination := by
  intro row member between
  have stored := edge?_eq_some_iff.mpr ⟨member, rfl, rfl⟩
  rcases Relationship.between_singleton_iff.mp between with ⟨isOne, isOther⟩ | ⟨isOther, isOne⟩
  · rw [isOne, isOther, forth] at stored
    cases stored
  · rw [isOther, isOne, back] at stored
    cases stored

/-- Only the source of an edge that is deleted has a count less. -/
theorem counter?_parted :
    (database.parted one other time).counter? owner =
      if owner = one.bytes ∧ (database.edge? one.bytes other.bytes).isSome ∨
          owner = other.bytes ∧ (database.edge? other.bytes one.bytes).isSome then
        (database.counter? owner).map fun row =>
          { row with count := row.count - 1, updatedAt := time }
      else database.counter? owner := by
  rw [parted, counter?_without]
  simp only [loses_iff]
  rfl

/-- Parting strangers changes nothing. -/
theorem parted_of_absent (forth : database.edge? one.bytes other.bytes = none)
    (back : database.edge? other.bytes one.bytes = none) :
    database.parted one other time = database :=
  without_of_absent fun row member => decide_eq_false (not_between_of_absent forth back row member)

/-- Two users are parted once and for all. -/
theorem parted_parted : (database.parted one other time).parted one other later =
    database.parted one other time := by
  have between : Between one [other] one.bytes other.bytes :=
    Relationship.between_singleton_iff.mpr (.inl ⟨rfl, rfl⟩)
  apply parted_of_absent
  · rw [edge?_parted, if_pos between]
  · rw [edge?_parted, if_pos between.symm]

end Database

namespace Relationship

variable {database after : Database} {directory : Directory} {edges : Table EdgeRow}
  {budget : Budget} {one other user target : UserId} {owner : StoredId} {time later : Int}

/-- A row joins two users in some direction exactly when it is between them. -/
theorem joins_or_joins {row : EdgeRow} :
    (row.joins one other || row.joins other one) =
      decide (Between one [other] row.source row.destination) := by
  rw [Bool.eq_iff_iff, Bool.or_eq_true, Store.joins_iff, Store.joins_iff, decide_eq_true_eq,
    between_singleton_iff]
  simp only [Keyed.key, Prod.mk.injEq]

/-- Those of two users who lose an edge by a removal are those from whom there is one. -/
theorem mem_linked_iff (present : database.edges = some edges) :
    owner ∈ (linked edges one other).map UserId.bytes ↔
      database.Loses (fun row => Between one [other] row.source row.destination) owner := by
  rw [Database.loses_iff, Database.edge?_of_edges present, Database.edge?_of_edges present]
  change _ ↔ owner = one.bytes ∧ edges.has (one.bytes, other.bytes) = true ∨
    owner = other.bytes ∧ edges.has (other.bytes, one.bytes) = true
  unfold linked
  cases edges.has (one.bytes, other.bytes) <;> cases edges.has (other.bytes, one.bytes) <;> simp

/-- Where all tables are there, disconnecting two users succeeds and parts them. -/
theorem disconnect_eq_parted (budget : Budget) (time : Int) (different : one ≠ other)
    (complete : database.Complete directory) :
    disconnect budget one other time database = (.ok (), database.parted one other time) := by
  obtain ⟨edges, present⟩ := Option.isSome_iff_exists.mp complete.edges
  refine (disconnect_eq_ok_iff different).mpr ⟨edges, present, .inr complete.counters, ?_⟩
  have sameEdges : (database.parted one other time).edges = some (severed one other edges) := by
    unfold Database.parted Database.without severed
    simp only [present, Option.map_some, joins_or_joins]
  have sameCounters : (database.parted one other time).counters =
      database.counters.map (Statement.lower (linked edges one other) time) :=
    Database.counters_without fun _ => mem_linked_iff present
  rw [← sameEdges, ← sameCounters]
  rfl

/-- Parting two users who were not related takes back what connecting them has written. -/
theorem parted_of_completed (completed : database.Completed user target time after)
    (complete : database.Complete directory) (completeAfter : after.Complete directory)
    (forth : database.edge? user.bytes target.bytes = none)
    (back : database.edge? target.bytes user.bytes = none) :
    (after.parted user target later).edges = database.edges ∧
      ∀ owner, (after.parted user target later).tally owner = database.tally owner := by
  have made : database.missing user target time =
      [EdgeRow.connected user target time, EdgeRow.connected target user time] := by
    rw [Database.missing, forth, back]
    rfl
  have rows := completed.edgeRows
  have counters := completed.counter?
  rw [made] at rows
  simp only [made, List.map_cons, List.map_nil, EdgeRow.connected] at counters
  have old := Database.not_between_of_absent forth back
  constructor
  · refine Database.edges_eq_of_edgeRows complete.edges completeAfter.without.edges ?_
    rw [Database.parted, Database.edgeRows_without, rows, List.filter_append,
      List.filter_eq_self.mpr fun row member => by simp [old row member]]
    simp [EdgeRow.connected, between_singleton_iff]
  · intro owner
    have between : Between user [target] user.bytes target.bytes :=
      between_singleton_iff.mpr (.inl ⟨rfl, rfl⟩)
    have loses : after.Loses (fun row => Between user [target] row.source row.destination) owner ↔
        owner ∈ [user.bytes, target.bytes] := by
      unfold Database.Loses
      rw [rows, List.mem_cons, List.mem_singleton]
      constructor
      · rintro ⟨row, member, rfl, isBetween⟩
        rcases between_singleton_iff.mp (of_decide_eq_true isBetween) with ⟨same, _⟩ | ⟨same, _⟩
        · exact .inl same
        · exact .inr same
      · rintro (rfl | rfl)
        · exact ⟨EdgeRow.connected user target time, by simp, rfl, decide_eq_true between⟩
        · exact ⟨EdgeRow.connected target user time, by simp, rfl, decide_eq_true between.symm⟩
    rw [Database.parted, Database.tally_without]
    by_cases party : owner ∈ [user.bytes, target.bytes]
    · have raised := counters owner
      rw [if_pos party] at raised
      have isThere : (after.counter? owner).isSome := by rw [raised]; rfl
      rw [if_pos ⟨loses.mpr party, isThere⟩, Database.tally, raised]
      exact Int.add_sub_cancel (database.tally owner) 1
    · rw [if_neg fun both => party (loses.mp both.1), Database.tally, Database.tally, counters,
        if_neg party]

end Relationship

namespace Service

variable {State : Type} [Sender State] {service : Service State} {directory : Directory}
  {call : Call} {one other : UserId}

/-- Where all tables are there, either of two users can part the two. -/
theorem serve_eq_parted (different : one ≠ other) (complete : service.database.Complete directory)
    (parts : call.Parts one.bytes other.bytes) :
    service.serve call = (.ok .done,
      { service with database := service.database.parted one other call.occasion.time }) := by
  obtain ⟨terms, occasion, caller, operation⟩ := call
  obtain ⟨target, asked, between⟩ := parts
  cases asked
  have run : Relationship.remove terms.budget caller target occasion.time service.database =
      (.ok (), service.database.parted one other occasion.time) := by
    refine Relationship.remove_eq_ok_iff.mpr ?_
    rcases Relationship.between_bytes_iff.mp between with ⟨rfl, rfl⟩ | ⟨rfl, rfl⟩
    · exact ⟨different, Relationship.disconnect_eq_parted _ _ different complete⟩
    · rw [Database.parted_comm]
      exact ⟨different.symm, Relationship.disconnect_eq_parted _ _ different.symm complete⟩
  exact change_of_ok run

/-- What an addition between two unrelated users has written is taken back by parting them. -/
theorem parted_of_joins (complete : service.database.Complete directory)
    (joins : call.Joins service.database.users one.bytes other.bytes)
    (forth : service.database.edge? one.bytes other.bytes = none)
    (back : service.database.edge? other.bytes one.bytes = none)
    {outcome : Outcome} (succeeded : (service.serve call).1 = .ok outcome) (later : Int) :
    let undone := (service.serve call).2.database.parted one other later
    undone.edges = service.database.edges ∧
      ∀ owner, undone.tally owner = service.database.tally owner := by
  obtain ⟨target, adds, between⟩ := joins
  obtain ⟨different, isNew, run⟩ := connect_of_adds adds succeeded
  have completed := Relationship.completed_connect different run
  have completeAfter := complete_serve complete call
  rcases Relationship.between_bytes_iff.mp between with ⟨rfl, rfl⟩ | ⟨rfl, rfl⟩
  · exact Relationship.parted_of_completed completed complete completeAfter forth back
  · rw [Database.parted_comm]
    exact Relationship.parted_of_completed completed complete completeAfter back forth

/-- **A removal is exact and symmetric, does nothing the second time, and undoes an addition.** On
every state with all tables, whatever the codes of the edges and the counts, either of two users can
remove the other one. Exactly the edges between the two are gone then, and each of the two whose
edge it was has a count less. The other one could have asked for the same, and any further removal
leaves every row as it is. Where the two were not related, an addition that succeeded before is
undone, in the edges, in everybody's list and in all counts. -/
theorem removal_undoes_addition (one other : UserId) (call : Call) (service : Service State)
    (different : one ≠ other) (complete : service.database.Complete directory)
    (parts : call.Parts one.bytes other.bytes) :
    let database := service.database
    let removed : Service State :=
      { service with database := database.parted one other call.occasion.time }
    service.serve call = (.ok .done, removed) ∧
      (∀ source destination, removed.database.edge? source destination =
        if Between one [other] source destination then none
        else database.edge? source destination) ∧
      (∀ owner, removed.database.counter? owner =
        if owner = one.bytes ∧ (database.edge? one.bytes other.bytes).isSome ∨
            owner = other.bytes ∧ (database.edge? other.bytes one.bytes).isSome then
          (database.counter? owner).map fun row =>
            { row with count := row.count - 1, updatedAt := call.occasion.time }
        else database.counter? owner) ∧
      (∀ counterpart : Call, counterpart.Parts one.bytes other.bytes →
        counterpart.occasion.time = call.occasion.time →
          service.serve counterpart = service.serve call) ∧
      (∀ again : Call, again.Parts one.bytes other.bytes →
        removed.serve again = (.ok .done, removed)) ∧
      ∀ (earlier : Call) (outcome : Outcome),
        earlier.Joins database.users one.bytes other.bytes →
        database.edge? one.bytes other.bytes = none →
        database.edge? other.bytes one.bytes = none →
        (service.serve earlier).1 = .ok outcome →
          let undone := (service.serve earlier).2.serve call
          undone.1 = .ok .done ∧ undone.2.database.edges = database.edges ∧
            (∀ user, (Relationship.list user undone.2.database).1 =
              (Relationship.list user database).1) ∧
            ∀ owner, undone.2.database.tally owner = database.tally owner := by
  intro database removed
  have parted := serve_eq_parted different complete parts
  refine ⟨parted, fun _ _ => Database.edge?_parted, fun _ => Database.counter?_parted, ?_, ?_, ?_⟩
  · intro counterpart partsToo sameTime
    rw [serve_eq_parted different complete partsToo, parted, sameTime]
  · intro again partsToo
    rw [serve_eq_parted different complete.without partsToo, Database.parted_parted]
  · intro earlier outcome joins forth back succeeded undone
    have completeAfter := complete_serve complete earlier
    obtain ⟨edges, tally⟩ :=
      parted_of_joins complete joins forth back succeeded call.occasion.time
    have users : (service.serve earlier).2.database.users = database.users :=
      completeAfter.users.trans complete.users.symm
    have result : undone = _ := serve_eq_parted different completeAfter parts
    rw [result]
    exact ⟨rfl, edges, Relationship.list_congr users edges, tally⟩

end Service

namespace Pair

/-- A call of the second user. -/
def reply (time : Int) (operation : Operation) : Call :=
  { call time operation with caller := ⟨bob, "bob"⟩ }

/-- The second user adds the first. -/
def addition : Call := reply 5 (.add ada)

/-- The first user removes the second. -/
def removal : Call := call 9 (.remove bob)

end Pair

namespace Service

/-- Neither a code without a meaning nor a block is in the way of a removal, and only the second
user has a counter to lower. An addition by one user is undone by a removal by the other one. -/
theorem removal_undoes_addition_pair :
    let removed := (Pair.garbled.serve Pair.removal).2
    let undone := ((Pair.strangers.serve Pair.addition).2.serve Pair.removal).2
    Pair.ada ≠ Pair.bob ∧ Pair.garbled.database.Complete Pair.directory ∧
      Pair.removal.Parts Pair.ada.bytes Pair.bob.bytes ∧
      removed.database.edgeRows = [] ∧ removed.database.counterRows = [⟨Pair.bob.bytes, 6, 9⟩] ∧
      Pair.garbled.serve (Pair.reply 9 (.remove Pair.ada)) = Pair.garbled.serve Pair.removal ∧
      (Pair.strangers.serve Pair.addition).2.database.edgeRows.length = 2 ∧
      undone.database.edges = some .empty ∧ undone.database.tally Pair.ada.bytes = 0 := by
  have different : Pair.ada ≠ Pair.bob := by decide
  have complete : Pair.garbled.database.Complete Pair.directory := ⟨rfl, rfl, rfl⟩
  have completeToo : Pair.strangers.database.Complete Pair.directory := ⟨rfl, rfl, rfl⟩
  have parts : Pair.removal.Parts Pair.ada.bytes Pair.bob.bytes := ⟨Pair.bob, rfl, by decide⟩
  have joins : Pair.addition.Joins (some Pair.directory) Pair.ada.bytes Pair.bob.bytes :=
    ⟨Pair.ada, rfl, by decide⟩
  have succeeded : (Pair.strangers.serve Pair.addition).1 =
      .ok (Pair.addition.added Pair.ada true) := rfl
  obtain ⟨_, _, _, symmetric, _⟩ :=
    removal_undoes_addition Pair.ada Pair.bob Pair.removal Pair.garbled different complete parts
  obtain ⟨_, _, _, _, _, undoes⟩ :=
    removal_undoes_addition Pair.ada Pair.bob Pair.removal Pair.strangers different completeToo
      parts
  obtain ⟨_, edges, _, count⟩ := undoes Pair.addition _ joins rfl rfl succeeded
  exact ⟨different, complete, parts, rfl, rfl, symmetric _ ⟨Pair.ada, rfl, by decide⟩ rfl, rfl,
    edges, count Pair.ada.bytes⟩

end Service

end FriendGraph
