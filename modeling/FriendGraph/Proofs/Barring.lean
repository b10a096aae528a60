import Mathlib.Data.List.Basic
import FriendGraph.Proofs.Listing
import FriendGraph.Proofs.Removing

/-! # Blocking a user, on every state

A user can block whomever an edge leads to. The edge becomes a block where it stands, and the edge
back is deleted unless it is a block itself (`Database.withBlock`); whatever codes the edges had,
and whatever the counters say. The user goes on to see the same friends in the same order. Since the
edge back is gone, the other one cannot answer in kind, and blocking them again only renews the time
of the block.
-/

namespace FriendGraph

open EdgeState (connected blocked)
open Relationship (Between)

namespace Database

/-- The edge from a user to another one is a block since a time. -/
def blockedAt (user target : UserId) (time : Int) (database : Database) : Database :=
  { database with edges := database.edges.map (Statement.recode user target blocked.code time) }

/-- The edge from a user to another one is a block since a time, and only a block leads back. -/
def withBlock (user target : UserId) (time : Int) (database : Database) : Database :=
  (database.blockedAt user target time).without
    (fun row => row.joins target user && row.code != blocked.code) time

/-- The edge from a user to another one was last written at a time. -/
def stamped (user target : UserId) (time : Int) (database : Database) : Database :=
  { database with
    edges := database.edges.map
      (Table.adjust
        (fun row => if row.joins user target then { row with updatedAt := time } else row)
        (by
          intro row
          split <;> rfl)) }

variable {database : Database} {directory : Directory} {one other user target : UserId}
  {source destination owner : StoredId} {time : Int} {edges : Table EdgeRow}

/-- The edge to the target is recoded, and all others stay. -/
theorem edge?_blockedAt :
    (database.blockedAt user target time).edge? source destination =
      if (source, destination) = (user.bytes, target.bytes) then
        (database.edge? source destination).map fun row => row.withCode blocked.code time
      else database.edge? source destination := by
  unfold edge? blockedAt
  cases database.edges with
  | none => simp
  | some edges => exact Store.find?_recode user target blocked.code time edges _

/-- Recoding the edge to the target does not matter for the one back. -/
theorem edge?_blockedAt_back (different : user ≠ target) :
    (database.blockedAt user target time).edge? target.bytes user.bytes =
      database.edge? target.bytes user.bytes := by
  rw [edge?_blockedAt, if_neg (Relationship.back_ne_forth different)]

/-- Of two users the first one loses the edge to the other one if it passes the test. -/
theorem loses_joins_iff {test : EdgeRow → Bool} :
    database.Loses (fun row => row.joins one other && test row) owner ↔
      owner = one.bytes ∧ (database.edge? one.bytes other.bytes).any test := by
  unfold Loses
  simp only [Bool.and_eq_true, Store.joins_iff, Keyed.key, Prod.mk.injEq, Option.any_eq_true,
    edge?_eq_some_iff]
  constructor
  · rintro ⟨row, member, rfl, ⟨isOne, isOther⟩, passes⟩
    exact ⟨isOne, row, ⟨member, isOne, isOther⟩, passes⟩
  · rintro ⟨rfl, row, ⟨member, isOne, isOther⟩, passes⟩
    exact ⟨row, member, isOne, ⟨isOne, isOther⟩, passes⟩

/-- The target loses one from the counter if an edge of theirs is taken back. -/
theorem counter?_withBlock (different : user ≠ target) :
    (database.withBlock user target time).counter? owner =
      if owner = target.bytes ∧
          (database.edge? target.bytes user.bytes).any (fun row => row.code != blocked.code) then
        (database.counter? owner).map fun row =>
          { row with count := row.count - 1, updatedAt := time }
      else database.counter? owner := by
  have same : (database.blockedAt user target time).counter? owner = database.counter? owner := rfl
  rw [withBlock, counter?_without, same]
  simp only [loses_joins_iff, edge?_blockedAt_back different]
  rfl

/-- All tables are there after a block. -/
theorem Complete.withBlock (complete : database.Complete directory) :
    (database.withBlock user target time).Complete directory := by
  have recoded : (database.blockedAt user target time).Complete directory :=
    ⟨complete.users, Option.isSome_map.trans complete.edges, complete.counters⟩
  exact recoded.without

/-- Where the edge is a block, and only a block leads back, another block renews the time. -/
theorem withBlock_of_blocked (different : user ≠ target)
    (forth : ∀ row, database.edge? user.bytes target.bytes = some row → row.code = blocked.code)
    (back : ∀ row, database.edge? target.bytes user.bytes = some row → row.code = blocked.code) :
    database.withBlock user target time = database.stamped user target time := by
  have nothing : ∀ row ∈ (database.blockedAt user target time).edgeRows,
      (row.joins target user && row.code != blocked.code) = false := by
    intro row member
    rw [← Bool.not_eq_true, Bool.and_eq_true]
    rintro ⟨meets, isOther⟩
    obtain ⟨isTarget, isUser⟩ := Prod.mk.inj (Store.joins_iff.mp meets)
    have stored := edge?_eq_some_iff.mpr ⟨member, isTarget, isUser⟩
    rw [edge?_blockedAt_back different] at stored
    rw [back row stored] at isOther
    cases isOther
  rw [withBlock, without_of_absent nothing, blockedAt, stamped]
  cases present : database.edges with
  | none => rfl
  | some edges =>
    have same : Statement.recode user target blocked.code time edges = edges.adjust
        (fun row => if row.joins user target then { row with updatedAt := time } else row)
        (by
          intro row
          split <;> rfl) := by
      refine Table.ext (List.map_congr_left fun row member => ?_)
      cases meets : row.joins user target with
      | false => rfl
      | true =>
        obtain ⟨isUser, isTarget⟩ := Prod.mk.inj (Store.joins_iff.mp meets)
        have isBlock := forth row
          (edge?_eq_some_iff.mpr ⟨edgeRows_of_edges present ▸ member, isUser, isTarget⟩)
        rw [← isBlock]
        rfl
    rw [Option.map_some, Option.map_some, same]

end Database

namespace Relationship

variable {database : Database} {directory : Directory} {budget : Budget} {user target : UserId}
  {time : Int} {edges : Table EdgeRow} {friends : List Friend}

/-- A block leaves the edges as the store's statements do. -/
theorem edges_withBlock (present : database.edges = some edges) :
    (database.withBlock user target time).edges = some (barred user target time edges) := by
  unfold Database.withBlock Database.blockedAt Database.without barred
  rw [present]
  rfl

/-- A block recodes the edge to the target, takes back the one to the user unless it is a block, and
leaves all others. -/
theorem edge?_withBlock (source destination : StoredId) :
    (database.withBlock user target time).edge? source destination =
      if (source, destination) = (user.bytes, target.bytes) then
        (database.edge? source destination).map fun row => row.withCode blocked.code time
      else if (source, destination) = (target.bytes, user.bytes) then
        (database.edge? source destination).filter fun row => row.code = blocked.code
      else database.edge? source destination := by
  cases present : database.edges with
  | none =>
    simp [Database.edge?, Database.withBlock, Database.blockedAt, Database.without, present]
  | some edges =>
    rw [Database.edge?_of_edges (edges_withBlock present), Database.edge?_of_edges present,
      find?_barred]

/-- The edge back stays after a block exactly when it is one. -/
theorem edge?_withBlock_back (different : user ≠ target) :
    (database.withBlock user target time).edge? target.bytes user.bytes =
      (database.edge? target.bytes user.bytes).filter fun row => row.code = blocked.code := by
  rw [edge?_withBlock, if_neg (back_ne_forth different), if_pos rfl]

/-- Another block renews the time of the first one. -/
theorem withBlock_withBlock (different : user ≠ target) (later : Int) :
    (database.withBlock user target time).withBlock user target later =
      (database.withBlock user target time).stamped user target later := by
  apply Database.withBlock_of_blocked different
  · intro row stored
    rw [edge?_withBlock, if_pos rfl, Option.map_eq_some_iff] at stored
    obtain ⟨_, _, rfl⟩ := stored
    rfl
  · intro row stored
    rw [edge?_withBlock_back different, Option.filter_eq_some_iff] at stored
    exact of_decide_eq_true stored.2

/-- Where all tables are there, barring a user to whom an edge leads is to block them. -/
theorem bar_eq_withBlock (budget : Budget) (time : Int) (different : user ≠ target)
    (complete : database.Complete directory)
    (isThere : (database.edge? user.bytes target.bytes).isSome) :
    bar budget user target time database = (.ok (), database.withBlock user target time) := by
  obtain ⟨edges, present⟩ := Option.isSome_iff_exists.mp complete.edges
  rw [Database.edge?_of_edges present] at isThere
  refine (bar_eq_ok_iff different).mpr ⟨edges, present, isThere, .inr complete.counters, ?_⟩
  have sameCounters : (database.withBlock user target time).counters =
      database.counters.map (Statement.lower (returning edges user target) time) := by
    refine Database.counters_without fun owner => ?_
    rw [Database.loses_joins_iff, Database.edge?_blockedAt_back different,
      Database.edge?_of_edges present, returning]
    split
    · next back => simp [back]
    · next back => simp [back]
  rw [← edges_withBlock present, ← sameCounters]
  rfl

/-- An edge, turned into a block if it leads from a user to another one. -/
def blockAt (user target : UserId) (time : Int) (row : EdgeRow) : EdgeRow :=
  if row.joins user target then row.withCode blocked.code time else row

@[simp] theorem source_blockAt (row : EdgeRow) :
    (blockAt user target time row).source = row.source := by
  unfold blockAt
  split <;> rfl

@[simp] theorem position_blockAt (row : EdgeRow) :
    (blockAt user target time row).position = row.position := by
  unfold blockAt
  split <;> rfl

/-- The edges that leave who blocks another user keep their order. -/
theorem leaving_barred (different : user ≠ target) :
    Statement.leaving user (barred user target time edges) =
      (Statement.leaving user edges).map (blockAt user target time) := by
  have departures : (barred user target time edges).rows.filter (·.source = user.bytes) =
      (edges.rows.filter (·.source = user.bytes)).map (blockAt user target time) := by
    calc (barred user target time edges).rows.filter (·.source = user.bytes)
        = ((edges.rows.map (blockAt user target time)).filter fun row =>
            !(row.joins target user && row.code != blocked.code)).filter
              (·.source = user.bytes) := rfl
      _ = (edges.rows.map (blockAt user target time)).filter (·.source = user.bytes) := by
          rw [List.filter_filter]
          refine List.filter_congr fun row _ => ?_
          by_cases leaves : row.source = user.bytes
          · have elsewhere : row.joins target user = false := by
              rw [← Bool.not_eq_true, Store.joins_iff]
              intro keyed
              exact different (UserId.ext (leaves.symm.trans (Prod.mk.inj keyed).1))
            simp [elsewhere]
          · simp [leaves]
      _ = (edges.rows.filter (·.source = user.bytes)).map (blockAt user target time) := by
          simp only [List.filter_map, Function.comp_def, source_blockAt]
  unfold Statement.leaving
  rw [departures, List.map_mergeSort]
  simp

/-- Who blocks a friend goes on to see the same friends in the same order. -/
theorem list_withBlock (different : user ≠ target)
    (listed : (list user database).1 = .ok friends) :
    (list user (database.withBlock user target time)).1 =
      .ok (friends.map fun friend =>
        if friend.profile.id = target then { friend with state := .blocked } else friend) := by
  obtain ⟨directory, edges, users, present, legible, rfl⟩ := list_eq_ok_iff.mp listed
  refine list_eq_ok_iff.mpr ⟨directory, _, users, edges_withBlock present, ?_, ?_⟩
  · rw [leaving_barred different, List.forall_mem_map]
    intro row member
    unfold blockAt
    split
    · exact (legible row member).withCode .blocked time
    · exact legible row member
  · rw [leaving_barred different, List.filterMap_map, List.map_filterMap]
    refine List.filterMap_congr fun row member => ?_
    have leaves : row.source = user.bytes :=
      of_decide_eq_true (List.mem_filter.mp (List.mem_mergeSort.mp member)).2
    rw [Function.comp_apply, blockAt]
    by_cases toTarget : row.destination = target.bytes
    · have meets : row.joins user target = true := decide_eq_true ⟨leaves, toTarget⟩
      rw [if_pos meets, Store.friendAt?_withCode (legible row member) .blocked]
      refine Option.map_congr fun friend shown => ?_
      have isTarget : friend.profile.id = target :=
        UserId.ext ((Store.id_of_friendAt? shown).trans toTarget)
      rw [if_pos isTarget]
    · have misses : row.joins user target ≠ true :=
        fun meets => toTarget (of_decide_eq_true meets).2
      rw [if_neg misses]
      cases shown : Store.friendAt? directory row with
      | none => rfl
      | some friend =>
        have isOther : friend.profile.id ≠ target := fun same =>
          toTarget ((Store.id_of_friendAt? shown).symm.trans (congrArg UserId.bytes same))
        rw [Option.map_some, if_neg isOther]

end Relationship

namespace Service

variable {State : Type} [Sender State] {service : Service State} {directory : Directory}
  {call : Call} {user target : UserId}

/-- Blocking somebody to whom there is an edge blocks them. -/
theorem serve_eq_withBlock (isCaller : call.caller.id = user)
    (asked : call.operation = .block target) (different : user ≠ target)
    (complete : service.database.Complete directory)
    (isThere : (service.database.edge? user.bytes target.bytes).isSome) :
    service.serve call = (.ok .done,
      { service with database := service.database.withBlock user target call.occasion.time }) := by
  obtain ⟨terms, occasion, caller, operation⟩ := call
  cases isCaller
  cases asked
  have run :=
    Relationship.bar_eq_withBlock terms.budget occasion.time different complete isThere
  exact change_of_ok (Relationship.block_eq_ok_iff.mpr ⟨different, run⟩)

/-- Blocking somebody to whom there is no edge fails, and nothing happens. -/
theorem serve_block_of_absent (isCaller : call.caller.id = user)
    (asked : call.operation = .block target) (different : user ≠ target)
    (complete : service.database.Complete directory)
    (absent : service.database.edge? user.bytes target.bytes = none) :
    service.serve call = (.error (.notFound (.relationship target)), service) := by
  have failed : (service.serve call).1 = .error (.notFound (.relationship target)) := by
    obtain ⟨terms, occasion, caller, operation⟩ := call
    cases isCaller
    cases asked
    have refused : (Relationship.block terms.budget caller target occasion.time
        service.database).1 = .error (.notFound (.relationship target)) := by
      rw [Relationship.block, Relationship.fst_bind_requireOther, if_neg different.symm]
      exact Relationship.bar_of_absent complete absent
    refine (fst_change _ _ service).trans ?_
    rw [refused]
    rfl
  exact Prod.ext failed (serve_of_error failed)

/-- **A block does one thing, on every state with all tables.** Blocking fails when no edge leads to
the target. Otherwise that edge becomes a block where it stands, and the edge back is deleted, with
one taken from the target's count, unless it is a block as well; no other row changes. The caller
then sees the same friends in the same order, one of them blocked. Another block of the same target
only renews the time of the first one, and a target who had not blocked the caller cannot do so
now. -/
theorem block_is_exact (call : Call) (target : UserId) (service : Service State)
    (asked : call.operation = .block target) (different : call.caller.id ≠ target)
    (complete : service.database.Complete directory) :
    let user := call.caller.id
    let time := call.occasion.time
    let forth := service.database.edge? user.bytes target.bytes
    let back := service.database.edge? target.bytes user.bytes
    let barred := { service with database := service.database.withBlock user target time }
    (forth = none → service.serve call = (.error (.notFound (.relationship target)), service)) ∧
      (forth.isSome →
        service.serve call = (.ok .done, barred) ∧
        (∀ source destination, barred.database.edge? source destination =
          if (source, destination) = (user.bytes, target.bytes) then
            (service.database.edge? source destination).map fun row =>
              { row with code := blocked.code, updatedAt := time }
          else if (source, destination) = (target.bytes, user.bytes) then
            (service.database.edge? source destination).filter fun row => row.code = blocked.code
          else service.database.edge? source destination) ∧
        (∀ owner, barred.database.counter? owner =
          if owner = target.bytes ∧ back.any (·.code != blocked.code) then
            (service.database.counter? owner).map fun row =>
              { row with count := row.count - 1, updatedAt := time }
          else service.database.counter? owner) ∧
        (∀ friends, (Relationship.list user service.database).1 = .ok friends →
          (Relationship.list user barred.database).1 = .ok (friends.map fun friend =>
            if friend.profile.id = target then { friend with state := .blocked } else friend)) ∧
        (∀ again : Call, again.caller.id = user → again.operation = .block target →
          barred.serve again = (.ok .done, { barred with
            database := barred.database.stamped user target again.occasion.time })) ∧
        ∀ answer : Call, answer.caller.id = target → answer.operation = .block user →
          (∀ row, back = some row → row.code ≠ blocked.code) →
            barred.serve answer = (.error (.notFound (.relationship user)), barred)) := by
  intro user time forth back barred
  have completeAfter : barred.database.Complete directory := complete.withBlock
  refine ⟨serve_block_of_absent rfl asked different complete, fun isThere =>
    ⟨serve_eq_withBlock rfl asked different complete isThere, Relationship.edge?_withBlock,
      fun _ => Database.counter?_withBlock different,
      fun _ => Relationship.list_withBlock different, ?_, ?_⟩⟩
  · intro again sameCaller askedAgain
    have stillThere : (barred.database.edge? user.bytes target.bytes).isSome := by
      rw [Relationship.edge?_withBlock, if_pos rfl, Option.isSome_map]
      exact isThere
    rw [serve_eq_withBlock sameCaller askedAgain different completeAfter stillThere,
      Relationship.withBlock_withBlock different]
  · intro answer isTarget askedBack unblocked
    have gone : barred.database.edge? target.bytes user.bytes = none := by
      rw [Relationship.edge?_withBlock_back different, Option.filter_eq_none_iff]
      exact fun row stored => by simpa using unblocked row stored
    exact serve_block_of_absent isTarget askedBack different.symm completeAfter gone

end Service

namespace Pair

/-- Each of the two has an edge to the other one; the edge back has a code without a meaning. -/
def uneven : Service Recorder :=
  related [⟨ada.bytes, bob.bytes, 1, 1, connected.code⟩, ⟨bob.bytes, ada.bytes, 1, 1, 9⟩]
    (by decide)

/-- The first user blocks the second. -/
def blocking : Call := call 5 (.block bob)

end Pair

namespace Service

/-- An edge back without a meaning is deleted and counted. Blocking again renews the time, and the
other one is left without anybody to block. -/
theorem block_is_exact_pair :
    let barred := (Pair.uneven.serve Pair.blocking).2
    Pair.ada ≠ Pair.bob ∧ Pair.uneven.database.Complete Pair.directory ∧
      (Pair.uneven.serve Pair.blocking).1 = .ok .done ∧
      barred.database.edgeRows = [⟨Pair.ada.bytes, Pair.bob.bytes, 1, 5, blocked.code⟩] ∧
      barred.database.counterRows = [⟨Pair.bob.bytes, 6, 5⟩] ∧
      (barred.serve (Pair.call 9 (.block Pair.bob))).2.database.edgeRows =
        [⟨Pair.ada.bytes, Pair.bob.bytes, 1, 9, blocked.code⟩] ∧
      (barred.serve (Pair.reply 6 (.block Pair.ada))).1 =
        .error (.notFound (.relationship Pair.ada)) := by
  have different : Pair.ada ≠ Pair.bob := by decide
  have complete : Pair.uneven.database.Complete Pair.directory := ⟨rfl, rfl, rfl⟩
  obtain ⟨_, blocks⟩ :=
    block_is_exact Pair.blocking Pair.bob Pair.uneven rfl different complete
  obtain ⟨done, _, _, _, renews, refuses⟩ := blocks rfl
  have unblocked : ∀ row, Pair.uneven.database.edge? Pair.bob.bytes Pair.ada.bytes = some row →
      row.code ≠ blocked.code := by
    intro row stored
    cases stored
    decide
  intro barred
  have same : barred = _ := congrArg Prod.snd done
  refine ⟨different, complete, congrArg Prod.fst done, ?_, ?_, ?_, ?_⟩
  · rw [same]
    rfl
  · rw [same]
    rfl
  · rw [same, renews (Pair.call 9 (.block Pair.bob)) rfl rfl]
    rfl
  · rw [same, refuses (Pair.reply 6 (.block Pair.ada)) rfl rfl unblocked]
    rfl

end Service

end FriendGraph
