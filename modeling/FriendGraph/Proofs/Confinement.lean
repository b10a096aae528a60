import Mathlib.Data.List.Basic
import FriendGraph.Proofs.Locality

/-! # What a call leaves alone

A call is about its caller and some others, its parties (`Call.parties`): those whom it names, and
for an import those whom it has connected. It touches the edges between the caller and the others
and the counters of the parties; all other rows stay as they are and in the order in which they were
(`Database.Frame`). What a user is shown comes in the order of the edges that leave them, by
position and then by insertion, and a stable sort commutes with a filter (`filter_mergeSort`). So a
list changes at most in the entries of the others, whatever the clock says.
-/

namespace FriendGraph

open EdgeState (connected blocked)
open Relationship (Between)

/-! ## Parties -/

/-- Whom an import has connected with its caller, by its outcome. -/
def joinedBy : Except RelationshipError Outcome → List UserId
  | .ok (.imported peers _ _) => peers
  | .ok (.added _ _ _ _) | .ok .done | .ok (.friends _) | .error _ => []

namespace Call

/-- Whom a call names, or has connected by its outcome. -/
def addressees (directory : Directory) (call : Call) (outcome : Except RelationshipError Outcome) :
    List UserId :=
  match call.operation with
  | .add target | .remove target | .block target => [target]
  | .addByHandle handle => (directory.named? handle).toList
  | .list => []
  | .importContacts _ _ => joinedBy outcome

/-- Whom a call is about besides its caller. -/
def partners (directory : Directory) (call : Call) (outcome : Except RelationshipError Outcome) :
    List UserId := (call.addressees directory outcome).filter (· ≠ call.caller.id)

/-- The caller and the others. -/
def parties (directory : Directory) (call : Call) (outcome : Except RelationshipError Outcome) :
    List UserId := call.caller.id :: call.addressees directory outcome

/-- The edge under a key is not between the caller and one of the others. -/
def spares (directory : Directory) (call : Call) (outcome : Except RelationshipError Outcome)
    (key : StoredId × StoredId) : Bool :=
  ¬Between call.caller.id (call.partners directory outcome) key.1 key.2

/-- A user is no party of the call. -/
def passesOver (directory : Directory) (call : Call)
    (outcome : Except RelationshipError Outcome) (user : StoredId) : Bool :=
  ∀ party ∈ call.parties directory outcome, user ≠ party.bytes

variable {directory : Directory} {call : Call} {outcome : Except RelationshipError Outcome}

/-- Whoever a call adds is addressed by it. -/
theorem mem_addressees_of_adds {users : Option Directory} {target : UserId}
    (asked : call.Adds users target) :
    target ∈ call.addressees (users.getD .empty) outcome := by
  obtain ⟨terms, occasion, caller, operation⟩ := call
  cases operation with
  | add named =>
    cases asked
    exact List.mem_singleton_self target
  | addByHandle handle =>
    obtain ⟨directory, rfl, named⟩ := asked
    obtain ⟨row, stored, isTarget⟩ := Option.map_eq_some_iff.mp named
    refine Option.mem_toList.mpr ?_
    rw [Option.getD_some, Directory.named?, stored, Option.bind_some, isTarget,
      UserId.ofStored?_bytes]
  | _ => exact asked.elim

/-- All edges that leave somebody who is no party are spared. -/
theorem spares_of_outside {user : StoredId}
    (outside : ∀ party ∈ call.parties directory outcome, user ≠ party.bytes)
    (destination : StoredId) : call.spares directory outcome (user, destination) = true := by
  refine decide_eq_true fun between => ?_
  rcases between with ⟨isCaller, _⟩ | ⟨_, peer, member, isPeer⟩
  · exact outside call.caller.id List.mem_cons_self isCaller
  · have isParty := List.mem_cons_of_mem call.caller.id (List.mem_filter.mp member).1
    exact outside peer isParty isPeer

/-- No edge between the caller and other addressees is spared. -/
theorem spares_of_between {peers : List UserId} (other : call.caller.id ∉ peers)
    (addressed : ∀ peer ∈ peers, peer ∈ call.addressees directory outcome)
    {source destination : StoredId} (between : Between call.caller.id peers source destination) :
    call.spares directory outcome (source, destination) = false := by
  have partner : ∀ peer ∈ peers, peer ∈ call.partners directory outcome := by
    intro peer member
    have different : peer ≠ call.caller.id := fun same => other (same ▸ member)
    exact List.mem_filter.mpr ⟨addressed peer member, decide_eq_true different⟩
  refine decide_eq_false (Classical.not_not.mpr ?_)
  rcases between with ⟨isCaller, peer, member, isPeer⟩ | ⟨isCaller, peer, member, isPeer⟩
  · exact .inl ⟨isCaller, peer, partner peer member, isPeer⟩
  · exact .inr ⟨isCaller, peer, partner peer member, isPeer⟩

/-- A party of the call is not passed over. -/
theorem passesOver_of_mem {party : UserId} (member : party ∈ call.parties directory outcome) :
    call.passesOver directory outcome party.bytes = false :=
  decide_eq_false fun outside => outside party member rfl

end Call

/-! ## Sorting -/

section Sorting

variable {Item : Type} {le : Item → Item → Bool}

theorem filter_append_self {test : Item → Bool} {first second : List Item}
    (passes : ∀ item ∈ first, test item = true) (fails : ∀ item ∈ second, test item = false) :
    (first ++ second).filter test = first := by
  have none : second.filter test = [] :=
    List.filter_eq_nil_iff.mpr fun item member => Bool.eq_false_iff.mp (fails item member)
  rw [List.filter_append, List.filter_eq_self.mpr passes, none, List.append_nil]

variable (trans : ∀ first second third, le first second = true → le second third = true →
    le first third = true)
  (total : ∀ first second, (le first second || le second first) = true)

include trans total

/-- A stable sort puts an item that came first right behind those that are strictly below it. -/
theorem exists_mergeSort_cons (item : Item) (rest : List Item) :
    ∃ front back, (item :: rest).mergeSort le = front ++ item :: back ∧
      rest.mergeSort le = front ++ back ∧ (∀ other ∈ front, (!le item other) = true) ∧
      ∀ other ∈ back, (!le item other) = false := by
  obtain ⟨front, back, sorted, sortedRest, before⟩ := List.mergeSort_cons trans total item rest
  have ordered := List.pairwise_mergeSort trans total (item :: rest)
  rw [sorted, List.pairwise_append, List.pairwise_cons] at ordered
  refine ⟨front, back, sorted, sortedRest, before, fun other member => ?_⟩
  rw [ordered.2.1.1 other member]
  rfl

/-- A stable sort commutes with a filter. -/
theorem filter_mergeSort (keep : Item → Bool) (items : List Item) :
    (items.mergeSort le).filter keep = (items.filter keep).mergeSort le := by
  induction items with
  | nil => simp
  | cons item rest inductionHypothesis =>
    obtain ⟨front, back, sorted, sortedRest, below, above⟩ :=
      exists_mergeSort_cons trans total item rest
    rw [sortedRest, List.filter_append] at inductionHypothesis
    rw [sorted, List.filter_append]
    by_cases kept : keep item = true
    · -- Without the item both lists are the same, and it parts them at the same place.
      obtain ⟨frontToo, backToo, sortedToo, sortedRestToo, belowToo, aboveToo⟩ :=
        exists_mergeSort_cons trans total item (rest.filter keep)
      rw [sortedRestToo] at inductionHypothesis
      have sameFront : front.filter keep = frontToo := by
        calc front.filter keep
            = (front.filter keep ++ back.filter keep).filter fun other => !le item other :=
              (filter_append_self
                (fun other member => below other (List.mem_filter.mp member).1)
                (fun other member => above other (List.mem_filter.mp member).1)).symm
          _ = (frontToo ++ backToo).filter fun other => !le item other := by
              rw [inductionHypothesis]
          _ = frontToo := filter_append_self belowToo aboveToo
      rw [sameFront] at inductionHypothesis
      rw [List.filter_cons_of_pos kept, List.filter_cons_of_pos kept, sortedToo, sameFront,
        List.append_cancel_left inductionHypothesis]
    · rw [List.filter_cons_of_neg kept, List.filter_cons_of_neg kept]
      exact inductionHypothesis

end Sorting

namespace Statement

variable {table tableAfter : Table EdgeRow} {user : UserId} {seen : StoredId × StoredId → Bool}

/-- What leaves a user, as far as it is visible, depends on the visible edges alone. -/
theorem filter_leaving (user : UserId) (table : Table EdgeRow) :
    (leaving user table).filter (fun row => seen (Keyed.key row)) =
      ((table.part seen).filter fun row => row.source = user.bytes).mergeSort
        fun first second => first.position ≤ second.position := by
  rw [leaving, filter_mergeSort, Table.part, List.filter_filter, List.filter_filter]
  · simp only [Bool.and_comm]
  · intro first second third before beforeToo
    simp only [decide_eq_true_eq] at before beforeToo ⊢
    omega
  · intro first second
    simp only [Bool.or_eq_true, decide_eq_true_eq]
    omega

/-- The rows that leave a user stay if they are visible and the visible ones stay. -/
theorem leaving_congr (visible : ∀ destination, seen (user.bytes, destination) = true)
    (same : tableAfter.part seen = table.part seen) :
    leaving user tableAfter = leaving user table := by
  unfold leaving
  rw [← Table.filter_source_part visible tableAfter, same, Table.filter_source_part visible]

end Statement

/-! ## Parts that are left alone -/

namespace Table

variable {Row Key : Type} [Keyed Row Key] {seen : Key → Bool}

/-- A change of hidden rows only is not seen. -/
theorem part_adjust_of_hidden {change : Row → Row}
    {keeps : ∀ row, Keyed.key (change row) = Keyed.key row} {table : Table Row}
    (same : ∀ row ∈ table.rows, seen (Keyed.key row) = true → change row = row) :
    (table.adjust change keeps).part seen = table.part seen := by
  rw [part_adjust]
  refine (List.map_congr_left fun row member => ?_).trans (List.map_id _)
  exact same row (List.mem_filter.mp member).1 (List.mem_filter.mp member).2

/-- Filtering out hidden rows only is not seen. -/
theorem part_filter_of_hidden {keep : Row → Bool} {table : Table Row}
    (kept : ∀ row ∈ table.rows, seen (Keyed.key row) = true → keep row = true) :
    (table.filter keep).part seen = table.part seen := by
  rw [part_filter, List.filter_eq_self]
  exact fun row member => kept row (List.mem_filter.mp member).1 (List.mem_filter.mp member).2

/-- A change that is not seen in a table is not seen where the table may be missing. -/
theorem map_part_of_some {change : Table Row → Table Row}
    (same : ∀ table, (change table).part seen = table.part seen) (tables : Option (Table Row)) :
    (tables.map change).map (part seen) = tables.map (part seen) := by
  cases tables with
  | none => rfl
  | some table => exact congrArg some (same table)

variable [DecidableEq Key] {row : Row}

/-- A hidden row that is inserted is not seen. -/
theorem part_insert_of_hidden (hidden : seen (Keyed.key row) = false) (table : Table Row) :
    (table.insert row).part seen = table.part seen := by
  have nothing : (if table.has (Keyed.key row) then [] else [row]).filter
      (fun row => seen (Keyed.key row)) = [] := by
    split
    · rfl
    · rw [List.filter_cons_of_neg (by rw [hidden]; exact Bool.false_ne_true), List.filter_nil]
  rw [part, rows_insert, List.filter_append, nothing, List.append_nil, part]

end Table

namespace Statement

variable {users : List UserId} {user : UserId} {amount time : Int} {shown : StoredId → Bool}

/-- Raising a hidden counter is not seen. -/
theorem part_raise (hidden : shown user.bytes = false) (table : Table CounterRow) :
    (raise amount time table user).part shown = table.part shown := by
  unfold raise
  cases appended : table.append? ⟨user.bytes, amount, time⟩ with
  | some grown =>
    have inserted : table.insert ⟨user.bytes, amount, time⟩ = grown := by
      rw [Table.insert, appended]
      rfl
    rw [← inserted]
    exact Table.part_insert_of_hidden hidden table
  | none =>
    refine Table.part_adjust_of_hidden fun row _ visible => ?_
    have other : row.owner ≠ user.bytes := by
      intro same
      rw [← same] at hidden
      exact Bool.false_ne_true (hidden.symm.trans visible)
    exact if_neg other

/-- Raising hidden counters is not seen. -/
theorem part_raiseAll (hidden : ∀ user ∈ users, shown user.bytes = false)
    (table : Table CounterRow) :
    (raiseAll users amount time table).part shown = table.part shown := by
  induction users generalizing table with
  | nil => rfl
  | cons user rest inductionHypothesis =>
    have later := inductionHypothesis
      (fun other member => hidden other (List.mem_cons_of_mem user member))
      (raise amount time table user)
    exact later.trans (part_raise (hidden user List.mem_cons_self) table)

/-- Lowering hidden counters is not seen. -/
theorem part_lower (hidden : ∀ user ∈ users, shown user.bytes = false)
    (table : Table CounterRow) : (lower users time table).part shown = table.part shown := by
  refine Table.part_adjust_of_hidden fun row _ visible => if_neg fun member => ?_
  obtain ⟨user, listed, same⟩ := List.mem_map.mp member
  have unseen := hidden user listed
  rw [same] at unseen
  exact Bool.false_ne_true (unseen.symm.trans visible)

end Statement

/-- What a change leaves alone: the users, the visible edges and the visible counters, in their
order, and the position of every edge that is still there. -/
structure Database.Frame (seen : StoredId × StoredId → Bool) (shown : StoredId → Bool)
    (before after : Database) : Prop where
  users : after.users = before.users
  edges : after.edges.map (Table.part seen) = before.edges.map (Table.part seen)
  counters : after.counters.map (Table.part shown) = before.counters.map (Table.part shown)
  position : ∀ source destination old new, before.edge? source destination = some old →
    after.edge? source destination = some new → new.position = old.position

namespace Database

variable {before after : Database} {seen : StoredId × StoredId → Bool} {shown : StoredId → Bool}
  {user : UserId}

theorem Frame.refl (seen : StoredId × StoredId → Bool) (shown : StoredId → Bool)
    (database : Database) : database.Frame seen shown database where
  users := rfl
  edges := rfl
  counters := rfl
  position := by
    intro source destination old new stored storedToo
    cases stored.symm.trans storedToo
    rfl

/-- Edges that are only ever added do not move. -/
theorem position_of_or {made : StoredId → StoredId → Option EdgeRow}
    (joins : ∀ source destination, after.edge? source destination =
      (before.edge? source destination).or (made source destination))
    (source destination : StoredId) (old new : EdgeRow)
    (stored : before.edge? source destination = some old)
    (storedToo : after.edge? source destination = some new) : new.position = old.position := by
  rw [joins, stored, Option.some_or] at storedToo
  cases storedToo
  rfl

end Database

namespace Relationship

variable {database after : Database} {budget : Budget} {edges grown : Table EdgeRow}
  {user target : UserId} {peers : List UserId} {time : Int}
  {seen : StoredId × StoredId → Bool} {shown : StoredId → Bool}

/-- Those who lack an edge are the two users at most. -/
theorem lacking_subset : lacking edges user target ⊆ [user, target] := by
  unfold lacking
  cases edges.has (user.bytes, target.bytes) <;> cases edges.has (target.bytes, user.bytes) <;>
    simp

/-- Those from whom an edge leads to the other are the two users at most. -/
theorem linked_subset : linked edges user target ⊆ [user, target] := by
  unfold linked
  cases edges.has (user.bytes, target.bytes) <;> cases edges.has (target.bytes, user.bytes) <;>
    simp

/-- Those from whom an edge leads back are the two users at most. -/
theorem returning_subset : returning edges user target ⊆ [user, target] := by
  unfold returning
  split <;> simp

section Named

variable (hidden : ∀ source destination, Between user [target] source destination →
  seen (source, destination) = false)

include hidden

/-- A visible row joins the two users in neither direction. -/
theorem joins_of_seen {row : EdgeRow} (visible : seen (Keyed.key row) = true) :
    row.joins user target = false ∧ row.joins target user = false := by
  have forth : Between user [target] user.bytes target.bytes :=
    between_singleton_iff.mpr (.inl ⟨rfl, rfl⟩)
  constructor
  · rw [← Bool.not_eq_true, Store.joins_iff]
    intro keyed
    rw [keyed, hidden _ _ forth] at visible
    cases visible
  · rw [← Bool.not_eq_true, Store.joins_iff]
    intro keyed
    rw [keyed, hidden _ _ forth.symm] at visible
    cases visible

/-- Joining the two users is not seen. -/
theorem part_joined : (joined user target time edges).part seen = edges.part seen := by
  have forth : Between user [target] user.bytes target.bytes :=
    between_singleton_iff.mpr (.inl ⟨rfl, rfl⟩)
  rw [joined, Table.part_insert_of_hidden (hidden _ _ forth.symm),
    Table.part_insert_of_hidden (hidden _ _ forth)]

/-- Severing the two users is not seen. -/
theorem part_severed : (severed user target edges).part seen = edges.part seen := by
  refine Table.part_filter_of_hidden fun row _ visible => ?_
  obtain ⟨forth, back⟩ := joins_of_seen hidden visible
  rw [forth, back]
  rfl

/-- Blocking between the two users is not seen. -/
theorem part_barred : (barred user target time edges).part seen = edges.part seen := by
  have recoded : (Statement.recode user target blocked.code time edges).part seen =
      edges.part seen := by
    refine Table.part_adjust_of_hidden fun row _ visible => ?_
    rw [(joins_of_seen hidden visible).1]
    rfl
  rw [barred, Table.part_filter_of_hidden, recoded]
  intro row _ visible
  rw [(joins_of_seen hidden visible).2]
  rfl

variable (unseen : ∀ party ∈ [user, target], shown party.bytes = false)

include unseen

/-- Connecting two users is seen only between the two and in their counters. -/
theorem frame_connect (different : user ≠ target) {isNew : Bool}
    (run : connect budget user target time database = (.ok isNew, after)) :
    database.Frame seen shown after := by
  have joins := edge?_connect different run
  obtain ⟨_, edges, _, present, _, _, _, _, _, rfl⟩ := (connect_eq_ok_iff different).mp run
  constructor
  case users => rfl
  case edges =>
    rw [present]
    exact congrArg some (part_joined hidden)
  case counters =>
    apply Table.map_part_of_some
    exact Statement.part_raiseAll fun party member => unseen party (lacking_subset member)
  case position => exact Database.position_of_or joins

/-- Disconnecting two users is seen only between the two and in their counters. -/
theorem frame_disconnect (different : user ≠ target)
    (run : disconnect budget user target time database = (.ok (), after)) :
    database.Frame seen shown after := by
  have parts := edge?_disconnect different run
  obtain ⟨edges, present, _, rfl⟩ := (disconnect_eq_ok_iff different).mp run
  constructor
  case users => rfl
  case edges =>
    rw [present]
    exact congrArg some (part_severed hidden)
  case counters =>
    apply Table.map_part_of_some
    exact Statement.part_lower fun party member => unseen party (linked_subset member)
  case position =>
    intro source destination old new stored storedToo
    rw [parts, stored] at storedToo
    split at storedToo
    · cases storedToo
    · cases storedToo
      rfl

/-- Blocking is seen only between the two and in their counters. -/
theorem frame_bar (different : user ≠ target)
    (run : bar budget user target time database = (.ok (), after)) :
    database.Frame seen shown after := by
  have bars := edge?_bar different run
  obtain ⟨edges, present, _, _, rfl⟩ := (bar_eq_ok_iff different).mp run
  constructor
  case users => rfl
  case edges =>
    rw [present]
    exact congrArg some (part_barred hidden)
  case counters =>
    apply Table.map_part_of_some
    exact Statement.part_lower fun party member => unseen party (returning_subset member)
  case position =>
    intro source destination old new stored storedToo
    rw [bars, stored] at storedToo
    split at storedToo
    · cases storedToo
      rfl
    · split at storedToo
      · cases (Option.filter_eq_some_iff.mp storedToo).1
        rfl
      · cases storedToo
        rfl

end Named

section Joined

variable (hidden : ∀ source destination, Between user peers source destination →
  seen (source, destination) = false)

include hidden

/-- Pairs of a user with peers are not seen where the edges between them are hidden. -/
theorem part_pairs (rows : grown.rows = edges.rows ++ Store.pairs user peers time) :
    grown.part seen = edges.part seen := by
  have nothing : (Store.pairs user peers time).filter (fun row => seen (Keyed.key row)) = [] := by
    rw [List.filter_eq_nil_iff]
    intro row made
    obtain ⟨peer, member, isEdge⟩ := List.mem_flatMap.mp made
    have forth : Between user peers user.bytes peer.bytes := .inl ⟨rfl, peer, member, rfl⟩
    simp only [List.mem_cons, List.not_mem_nil, or_false] at isEdge
    rcases isEdge with rfl | rfl
    · exact Bool.eq_false_iff.mp (hidden _ _ forth)
    · exact Bool.eq_false_iff.mp (hidden _ _ forth.symm)
  rw [Table.part, rows, List.filter_append, nothing, List.append_nil, Table.part]

/-- Connecting newcomers is seen only between the user and them and in their counters. -/
theorem frame_connectNew (unseen : ∀ party ∈ user :: peers, shown party.bytes = false)
    {externalIds : List String}
    (run : connectNew budget user externalIds time database = (.ok peers, after)) :
    database.Frame seen shown after := by
  have joins := edge?_connectNew run
  obtain ⟨_, _, _, _, _, written⟩ := connectNew_eq_ok_iff.mp run
  rcases written with ⟨_, rfl⟩ | ⟨_, edges, grown, present, rows, _, rfl⟩
  · exact Database.Frame.refl seen shown after
  · constructor
    case users => rfl
    case edges =>
      rw [present]
      exact congrArg some (part_pairs hidden rows)
    case counters =>
      apply Table.map_part_of_some
      intro table
      have joined : ∀ party ∈ [user], shown party.bytes = false := by
        intro party member
        rw [List.mem_singleton.mp member]
        exact unseen user List.mem_cons_self
      rw [credited, Statement.part_raiseAll joined, Statement.part_raiseAll]
      exact fun party member => unseen party (List.mem_cons_of_mem user member)
    case position => exact Database.position_of_or joins

end Joined

end Relationship

/-! ## Lists -/

namespace Database.Frame

variable {before after : Database} {seen : StoredId × StoredId → Bool} {shown : StoredId → Bool}
  {user : UserId} {friends friendsAfter : List Friend}

/-- Whose edges are all visible is shown the same. -/
theorem list (frame : before.Frame seen shown after)
    (visible : ∀ destination, seen (user.bytes, destination) = true) :
    (Relationship.list user after).1 = (Relationship.list user before).1 := by
  refine Relationship.list_congr_leaving frame.users ?_
  have same := frame.edges
  cases present : before.edges with
  | none =>
    rw [present, Option.map_none, Option.map_eq_none_iff] at same
    rw [same]
  | some table =>
    rw [present, Option.map_some, Option.map_eq_some_iff] at same
    obtain ⟨tableAfter, presentAfter, same⟩ := same
    rw [presentAfter]
    exact congrArg some (Statement.leaving_congr visible same)

/-- The friends at the far ends of visible edges are those that are read off visible edges. -/
theorem filter_friends {directory : Directory} {table : Table EdgeRow} :
    ((Statement.leaving user table).filterMap (Store.friendAt? directory)).filter
        (fun friend => seen (user.bytes, friend.profile.id.bytes)) =
      ((Statement.leaving user table).filter fun row => seen (Keyed.key row)).filterMap
        (Store.friendAt? directory) := by
  rw [List.filter_filterMap, List.filterMap_filter]
  refine List.filterMap_congr fun row member => ?_
  have leaves : row.source = user.bytes :=
    of_decide_eq_true (List.mem_filter.mp (List.mem_mergeSort.mp member)).2
  have keyed : Keyed.key row = (user.bytes, row.destination) := congrArg (·, row.destination) leaves
  cases found : Store.friendAt? directory row with
  | none => simp
  | some friend => rw [Option.filter_some, Store.id_of_friendAt? found, keyed]

/-- Two lists of a user differ at most in friends to whom no visible edge leads. -/
theorem filter_list (frame : before.Frame seen shown after)
    (listed : (Relationship.list user before).1 = .ok friends)
    (listedAfter : (Relationship.list user after).1 = .ok friendsAfter) :
    friendsAfter.filter (fun friend => seen (user.bytes, friend.profile.id.bytes)) =
      friends.filter fun friend => seen (user.bytes, friend.profile.id.bytes) := by
  obtain ⟨directory, table, users, present, _, rfl⟩ := Relationship.list_eq_ok_iff.mp listed
  obtain ⟨_, tableAfter, usersAfter, presentAfter, _, rfl⟩ :=
    Relationship.list_eq_ok_iff.mp listedAfter
  have same := frame.edges
  rw [present, presentAfter] at same
  cases usersAfter.symm.trans (frame.users.trans users)
  rw [filter_friends, filter_friends, Statement.filter_leaving, Statement.filter_leaving,
    Option.some.inj same]

end Database.Frame

namespace Service

variable {State : Type} [Sender State] {service : Service State} {call : Call}

/-- A call changes nothing but the edges between its caller and the others, and the counters of
the parties. -/
theorem frame_serve (call : Call) (service : Service State) :
    let directory := service.database.users.getD .empty
    service.database.Frame (call.spares directory (service.serve call).1)
      (call.passesOver directory (service.serve call).1) (service.serve call).2.database := by
  intro directory
  have hidden : ∀ (outcome : Except RelationshipError Outcome) (target : UserId),
      call.caller.id ≠ target → target ∈ call.addressees directory outcome →
      (∀ source destination, Between call.caller.id [target] source destination →
        call.spares directory outcome (source, destination) = false) ∧
      ∀ party ∈ [call.caller.id, target],
        call.passesOver directory outcome party.bytes = false := by
    intro outcome target different addressed
    have single : ∀ peer ∈ [target], peer ∈ call.addressees directory outcome := by
      intro peer member
      rw [List.mem_singleton.mp member]
      exact addressed
    constructor
    · intro source destination between
      exact Call.spares_of_between (fun member => different (List.mem_singleton.mp member)) single
        between
    · intro party member
      apply Call.passesOver_of_mem
      rcases List.mem_cons.mp member with rfl | member
      · exact List.mem_cons_self
      · exact List.mem_cons_of_mem _ (single party member)
  have result := served call service
  generalize (service.serve call).1 = outcome, (service.serve call).2 = later at result ⊢
  cases result with
  | failed error => exact .refl _ _ _
  | listed friends asked => exact .refl _ _ _
  | added target isNew database asked different run =>
    obtain ⟨unspared, parties⟩ := hidden _ target different (Call.mem_addressees_of_adds asked)
    exact Relationship.frame_connect unspared parties different run
  | removed target database asked different run =>
    have addressed : target ∈ call.addressees directory (.ok .done) := by
      rw [Call.addressees, asked]
      exact List.mem_singleton_self target
    obtain ⟨unspared, parties⟩ := hidden _ target different addressed
    exact Relationship.frame_disconnect unspared parties different run
  | barred target database asked different run =>
    have addressed : target ∈ call.addressees directory (.ok .done) := by
      rw [Call.addressees, asked]
      exact List.mem_singleton_self target
    obtain ⟨unspared, parties⟩ := hidden _ target different addressed
    exact Relationship.frame_bar unspared parties different run
  | imported externalId contacts connected database asked run =>
    have joined : ∀ outcome, joinedBy outcome = connected →
        call.addressees directory outcome = connected := by
      intro outcome same
      rw [Call.addressees, asked]
      exact same
    refine Relationship.frame_connectNew ?_ ?_ run
    · intro source destination between
      refine Call.spares_of_between (Relationship.not_mem_of_connectNew run) ?_ between
      rw [joined _ rfl]
      exact fun peer member => member
    · intro party member
      apply Call.passesOver_of_mem
      rw [Call.parties, joined _ rfl]
      exact member

/-- **Calls are confined to their own pairs.** On every state, whatever comes of a call, it changes
no user, no edge but those between the caller and the others, and no counter but those of the
parties; rows stay in order, and no edge that is still there has moved. Everybody else is shown the
same, a failure included, and the parties are shown the same but for each other, as far as their
lists can be read. -/
theorem calls_are_confined (call : Call) (service : Service State) :
    let before := service.database
    let after := (service.serve call).2.database
    let directory := before.users.getD .empty
    let outcome := (service.serve call).1
    after.users = before.users ∧
      after.edges.map (Table.part (call.spares directory outcome)) =
        before.edges.map (Table.part (call.spares directory outcome)) ∧
      after.counters.map (Table.part (call.passesOver directory outcome)) =
        before.counters.map (Table.part (call.passesOver directory outcome)) ∧
      (∀ source destination old new, before.edge? source destination = some old →
        after.edge? source destination = some new → new.position = old.position) ∧
      (∀ user, user ∉ call.parties directory outcome →
        (Relationship.list user after).1 = (Relationship.list user before).1) ∧
      ∀ user friends friendsAfter, (Relationship.list user before).1 = .ok friends →
        (Relationship.list user after).1 = .ok friendsAfter →
          friendsAfter.filter (fun friend =>
              call.spares directory outcome (user.bytes, friend.profile.id.bytes)) =
            friends.filter fun friend =>
              call.spares directory outcome (user.bytes, friend.profile.id.bytes) := by
  intro before after directory outcome
  have frame := frame_serve call service
  refine ⟨frame.users, frame.edges, frame.counters, frame.position, fun user outside => ?_,
    fun user friends friendsAfter => frame.filter_list⟩
  apply frame.list
  apply Call.spares_of_outside
  intro party member same
  exact outside (UserId.ext same ▸ member)

end Service

namespace Pair

/-- The first two of four users have become friends. -/
def befriended : Service Recorder := (quartet.serve (call 5 (.add bob))).2

/-- A block, by a clock that has gone back. -/
def barring : Call := call 3 (.block bob)

end Pair

namespace Service

/-- The edge that becomes a block stays where it was, even though the clock has gone back, and
another user is shown the same as before. -/
theorem calls_are_confined_pair :
    let barred := (Pair.befriended.serve Pair.barring).2.database
    Pair.befriended.database.edge? Pair.ada.bytes Pair.bob.bytes =
        some ⟨Pair.ada.bytes, Pair.bob.bytes, 5, 5, connected.code⟩ ∧
      (barred.edge? Pair.ada.bytes Pair.bob.bytes).map (·.code) = some blocked.code ∧
      (barred.edge? Pair.ada.bytes Pair.bob.bytes).map (·.position) = some 5 ∧
      (Relationship.list Pair.dave barred).1 =
        (Relationship.list Pair.dave Pair.befriended.database).1 := by
  obtain ⟨_, _, _, position, outside, _⟩ := calls_are_confined Pair.barring Pair.befriended
  have stands : (Pair.befriended.serve Pair.barring).2.database.edge? Pair.ada.bytes
      Pair.bob.bytes = some ⟨Pair.ada.bytes, Pair.bob.bytes, 5, 3, blocked.code⟩ := rfl
  have still := position Pair.ada.bytes Pair.bob.bytes _ _ rfl stands
  refine ⟨rfl, congrArg (Option.map (·.code)) stands, ?_, outside Pair.dave (by decide)⟩
  exact (congrArg (Option.map (·.position)) stands).trans (congrArg some still)

end Service

end FriendGraph
