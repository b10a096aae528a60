import FriendGraph.Proofs.Drift
import FriendGraph.Proofs.Listing
import FriendGraph.Proofs.Questions

/-! # Whom an import connects

An import connects the caller with the *newcomers* among their contacts: the other registered
users who have one of the accounts and share no edge with the caller (`Relationship.Newcomer`).
As long as the tables are there it cannot fail, because edges are inserted for newcomers only
(`Relationship.connectNew_eq_ok`), and how the contacts are cut into chunks shows in nothing but
the order of the newcomers. The tables afterwards are those that come of adding the newcomers one
by one, in the order of the import (`Relationship.rows_joinedAll`, `Relationship.counter?_added`).
-/

namespace FriendGraph

namespace Database

variable {before after : Database}

/-- Tables with the same counter for every user have the same counters, in some order. -/
theorem counterRows_perm (same : ∀ owner, after.counter? owner = before.counter? owner) :
    after.counterRows.Perm before.counterRows :=
  Table.perm_of_find? same

end Database

namespace Relationship

variable {database after : Database} {directory : Directory} {edges : Table EdgeRow}
  {budget : Budget} {user target : UserId} {accounts : List String} {peers : List UserId}
  {time : Int} {owner : StoredId}

/-- Another registered user who has one of the accounts and shares no edge with the user. -/
structure Newcomer (database : Database) (directory : Directory) (user : UserId)
    (accounts : List String) (id : UserId) : Prop where
  other : id ≠ user
  owns : directory.Owns id accounts
  forth : database.edge? user.bytes id.bytes = none
  back : database.edge? id.bytes user.bytes = none

/-- A user was connected with peers: the edges of each pair are new, the counter of every peer is
up by one and that of the user by the number of peers, and nothing else has changed. -/
structure Merged (user : UserId) (peers : List UserId) (time : Int) (before after : Database) :
    Prop where
  users : after.users = before.users
  edges : ∃ table grown, before.edges = some table ∧ after.edges = some grown ∧
    grown.rows = table.rows ++ Store.pairs user peers time
  caller : peers ≠ [] →
    after.counter? user.bytes = some ⟨user.bytes, before.tally user.bytes + peers.length, time⟩
  peer : ∀ peer ∈ peers,
    after.counter? peer.bytes = some ⟨peer.bytes, before.tally peer.bytes + 1, time⟩
  counters : after.counters.isSome = before.counters.isSome
  others : ∀ owner, (owner = user.bytes → peers = []) → owner ∉ peers.map UserId.bytes →
    after.counter? owner = before.counter? owner

/-! ## The newcomers -/

/-- There is no edge between two users. -/
def Strange (edges : Table EdgeRow) (user target : UserId) : Prop :=
  edges.has (user.bytes, target.bytes) = false ∧ edges.has (target.bytes, user.bytes) = false

/-- A newcomer is somebody else with one of the accounts to whom there is no edge either way. -/
theorem newcomer_iff (present : database.edges = some edges) {id : UserId} :
    Newcomer database directory user accounts id ↔
      id ≠ user ∧ directory.Owns id accounts ∧ Strange edges user id := by
  have absent : ∀ source destination,
      edges.has (source, destination) = false ↔ database.edge? source destination = none := by
    intro source destination
    rw [Database.edge?_of_edges present, Table.has, Option.isSome_eq_false_iff,
      Option.isNone_iff_eq_none]
  rw [Strange, absent, absent]
  constructor
  · rintro ⟨other, owns, forth, back⟩
    exact ⟨other, owns, forth, back⟩
  · rintro ⟨other, owns, forth, back⟩
    exact ⟨other, owns, forth, back⟩

/-- The newcomers, in the order in which they are looked up. -/
def newcomers (budget : Budget) (user : UserId) (accounts : List String) (directory : Directory)
    (edges : Table EdgeRow) : List UserId :=
  ((Store.lookup budget accounts directory).filter (· ≠ user)).filter fun id =>
    !(edges.has (user.bytes, id.bytes) || edges.has (id.bytes, user.bytes))

/-- Those who are connected are the newcomers. -/
theorem mem_newcomers (present : database.edges = some edges) {id : UserId} :
    id ∈ newcomers budget user accounts directory edges ↔
      Newcomer database directory user accounts id := by
  simp only [newcomer_iff present, newcomers, List.mem_filter, Store.mem_lookup,
    decide_eq_true_eq, Bool.not_eq_true', Bool.or_eq_false_iff, Strange]
  constructor
  · rintro ⟨⟨owns, other⟩, strange⟩
    exact ⟨other, owns, strange⟩
  · rintro ⟨other, owns, strange⟩
    exact ⟨⟨owns, other⟩, strange⟩

/-- Newcomers come in the order in which they are looked up. -/
theorem precedes_newcomers (budget : Budget) (user : UserId) (accounts : List String)
    (directory : Directory) (edges : Table EdgeRow) :
    (newcomers budget user accounts directory edges).Pairwise
      (directory.Precedes (chunks (budget.perStatement 1 0) accounts)) :=
  ((Store.precedes_lookup budget accounts directory).filter _).filter _

/-- No newcomer comes twice. -/
theorem nodup_newcomers (budget : Budget) (user : UserId) (accounts : List String)
    (directory : Directory) (edges : Table EdgeRow) :
    (newcomers budget user accounts directory edges).Nodup :=
  (precedes_newcomers budget user accounts directory edges).imp fun precedes => precedes.ne

/-! ## New edges -/

/-- Joining strangers adds a row in either direction. -/
theorem rows_joined (different : user ≠ target) (strange : Strange edges user target) :
    (joined user target time edges).rows =
      edges.rows ++ [EdgeRow.connected user target time, EdgeRow.connected target user time] := by
  have forth : edges.has (Keyed.key (EdgeRow.connected user target time)) = false := strange.1
  have back : (edges.insert (EdgeRow.connected user target time)).has
      (Keyed.key (EdgeRow.connected target user time)) = false :=
    (has_insert_connected different edges).trans strange.2
  rw [joined, Table.rows_insert, back, Table.rows_insert, forth]
  simp

/-- Strangers stay strangers when the user is joined with somebody else. -/
theorem Strange.joined {peer : UserId} (strange : Strange edges user target)
    (apart : target ≠ peer) (different : user ≠ target) :
    Strange (joined user peer time edges) user target := by
  have distinct : ∀ {first second : UserId}, first ≠ second → first.bytes ≠ second.bytes :=
    fun different same => different (UserId.ext same)
  have misses : ¬Between user [peer] user.bytes target.bytes := by
    rw [between_singleton_iff]
    rintro (⟨_, same⟩ | ⟨_, same⟩)
    · exact distinct apart same
    · exact distinct different same.symm
  constructor
  · rw [Table.has, find?_joined, if_neg misses, Option.or_none]
    exact strange.1
  · rw [Table.has, find?_joined, if_neg fun between => misses between.symm, Option.or_none]
    exact strange.2

/-- The edges with those between a user and each of several peers in turn. -/
def joinedAll (user : UserId) (peers : List UserId) (time : Int) (edges : Table EdgeRow) :
    Table EdgeRow := peers.foldl (fun grown peer => joined user peer time grown) edges

/-- Strangers who are joined one by one come out in the order of one batch. -/
theorem rows_joinedAll (time : Int) (distinct : peers.Nodup) (other : user ∉ peers)
    (strange : ∀ peer ∈ peers, Strange edges user peer) :
    (joinedAll user peers time edges).rows = edges.rows ++ Store.pairs user peers time := by
  induction peers generalizing edges with
  | nil => simp [joinedAll, Store.pairs]
  | cons peer rest inductionHypothesis =>
    obtain ⟨fresh, distinct⟩ := List.nodup_cons.mp distinct
    have different : user ≠ peer := fun same => other (same ▸ List.mem_cons_self)
    -- Joining one stranger leaves the others strangers.
    have still : ∀ later ∈ rest, Strange (joined user peer time edges) user later := by
      intro later member
      have apart : later ≠ peer := fun same => fresh (same ▸ member)
      have alsoDifferent : user ≠ later := fun same => other (same ▸ List.mem_cons_of_mem _ member)
      exact (strange later (List.mem_cons_of_mem _ member)).joined apart alsoDifferent
    calc (joinedAll user (peer :: rest) time edges).rows
        = (joinedAll user rest time (joined user peer time edges)).rows := rfl
      _ = (joined user peer time edges).rows ++ Store.pairs user rest time :=
          inductionHypothesis distinct (fun member => other (List.mem_cons_of_mem _ member)) still
      _ = edges.rows ++ Store.pairs user (peer :: rest) time := by
          rw [rows_joined different (strange peer List.mem_cons_self), List.append_assoc]
          rfl

/-! ## The import of accounts -/

/-- With all tables there, connecting a user with the owners of accounts cannot fail. -/
theorem connectNew_eq_ok (budget : Budget) (user : UserId) (accounts : List String) (time : Int)
    (users : database.users = some directory) (sized : directory.Sized)
    (present : database.edges = some edges) (counted : database.counters.isSome) :
    ∃ after, connectNew budget user accounts time database =
      (.ok (newcomers budget user accounts directory edges), after) := by
  obtain ⟨related, reading, isRelated⟩ := Store.relatedPeers_eq_ok budget user
    ((Store.lookup budget accounts directory).filter (· ≠ user)) present
  have lookup : Store.lookupAccounts budget accounts database = (.ok _, database) :=
    Store.lookupAccounts_eq_ok users sized.legible
  have same : newcomers budget user accounts directory edges =
      ((Store.lookup budget accounts directory).filter (· ≠ user)).filter (· ∉ related) := by
    refine List.filter_congr fun id member => ?_
    simp only [isRelated, member, true_and]
    cases edges.has (user.bytes, id.bytes) <;> cases edges.has (id.bytes, user.bytes) <;> rfl
  -- Nothing is written for nobody, and otherwise no key of a new edge is taken.
  by_cases nobody : newcomers budget user accounts directory edges = []
  · exact ⟨database, connectNew_eq_ok_iff.mpr
      ⟨_, related, lookup, reading, same, .inl ⟨nobody, rfl⟩⟩⟩
  · have newcomer : ∀ peer ∈ newcomers budget user accounts directory edges,
        Newcomer database directory user accounts peer :=
      fun peer => (mem_newcomers present).mp
    have grown := rows_joinedAll time (nodup_newcomers budget user accounts directory edges)
      (fun member => (newcomer user member).other rfl)
      (fun peer member => ((newcomer_iff present).mp (newcomer peer member)).2.2)
    exact ⟨_, connectNew_eq_ok_iff.mpr ⟨_, related, lookup, reading, same,
      .inr ⟨nobody, edges, _, present, grown, counted, rfl⟩⟩⟩

/-- Connecting newcomers raises counters by the edges that are gained. -/
theorem counter?_connectNew
    (run : connectNew budget user accounts time database = (.ok peers, after)) (owner : StoredId) :
    after.counter? owner =
      if (gained user peers owner : Int) = 0 then database.counter? owner
      else some ⟨owner, database.tally owner + gained user peers owner, time⟩ := by
  obtain ⟨_, _, _, _, _, written⟩ := connectNew_eq_ok_iff.mp run
  rcases written with ⟨rfl, rfl⟩ | ⟨somebody, edges, grown, _, _, counted, rfl⟩
  · simp [gained]
  · exact counter?_credited counted somebody

/-- The user gains an edge for each peer. -/
theorem gained_self (other : user ∉ peers) : gained user peers user.bytes = peers.length := by
  have absent : user.bytes ∉ peers.map UserId.bytes := by
    intro member
    obtain ⟨peer, listed, same⟩ := List.mem_map.mp member
    exact other (UserId.ext same ▸ listed)
  rw [gained, List.count_eq_zero.mpr absent, if_pos rfl, Nat.zero_add]

/-- A peer gains one edge. -/
theorem gained_of_mem (distinct : peers.Nodup) (other : user ∉ peers) {peer : UserId}
    (member : peer ∈ peers) : gained user peers peer.bytes = 1 := by
  have single : (peers.map UserId.bytes).Nodup :=
    List.Pairwise.map _ (fun _ _ different same => different (UserId.ext same)) distinct
  have different : peer.bytes ≠ user.bytes := fun same => other (UserId.ext same ▸ member)
  rw [gained, single.count, if_pos (List.mem_map.mpr ⟨peer, member, rfl⟩), if_neg different]

/-- Connecting newcomers merges them into the database. -/
theorem merged_of_connectNew (present : database.edges = some edges) (distinct : peers.Nodup)
    (run : connectNew budget user accounts time database = (.ok peers, after)) :
    Merged user peers time database after := by
  have other := not_mem_of_connectNew run
  have counters := counter?_connectNew run
  obtain ⟨_, _, _, _, _, written⟩ := connectNew_eq_ok_iff.mp run
  refine ⟨?_, ?_, ?_, ?_, ?_, ?_⟩
  · rcases written with ⟨_, rfl⟩ | ⟨_, _, _, _, _, _, rfl⟩ <;> rfl
  · rcases written with ⟨rfl, rfl⟩ | ⟨_, _, grown, same, rows, _, rfl⟩
    · exact ⟨edges, edges, present, present, by simp [Store.pairs]⟩
    · exact ⟨_, grown, same, rfl, rows⟩
  · intro somebody
    have moves : (peers.length : Int) ≠ 0 := by
      have positive := List.length_pos_iff.mpr somebody
      omega
    rw [counters, gained_self other, if_neg moves]
  · intro peer member
    rw [counters, gained_of_mem distinct other member]
    rfl
  · rcases written with ⟨_, rfl⟩ | ⟨_, _, _, _, _, _, rfl⟩
    · rfl
    · exact Option.isSome_map
  · intro owner notUser notPeer
    have still : gained user peers owner = 0 := by
      rw [gained, List.count_eq_zero.mpr notPeer, Nat.zero_add, ite_eq_right_iff]
      intro isUser
      rw [notUser isUser]
      rfl
    rw [counters, still]
    rfl

/-! ## Adding one by one -/

/-- Who owns one of the accounts is registered. -/
theorem isSome_withId? {id : UserId} (owns : directory.Owns id accounts) :
    (directory.withId? id.bytes).isSome := by
  obtain ⟨row, member, same, _⟩ := owns
  rw [Directory.withId?, List.find?_isSome]
  exact ⟨row, member, decide_eq_true same⟩

/-- Two strangers can be connected when the target is registered. -/
theorem connect_of_strange (budget : Budget) (time : Int) (different : user ≠ target)
    (users : database.users = some directory)
    (registered : (directory.withId? target.bytes).isSome)
    (present : database.edges = some edges) (counted : database.counters.isSome)
    (strange : Strange edges user target) :
    connect budget user target time database =
      (.ok true, { database with
        edges := some (joined user target time edges)
        counters := database.counters.map (Statement.raiseAll [user, target] 1 time) }) := by
  have isOpen : ∀ {source destination : UserId},
      edges.has (source.bytes, destination.bytes) = false → Open edges source destination := by
    intro source destination absent row stored
    rw [Table.has, stored] at absent
    cases absent
  have both : lacking edges user target = [user, target] := by
    rw [lacking, strange.1, strange.2]
    rfl
  refine (connect_eq_ok_iff different).mpr ⟨directory, edges, users, present, registered,
    isOpen strange.1, isOpen strange.2, .inr counted, ?_, ?_⟩
  · rw [strange.1, strange.2]
    rfl
  · rw [both]

/-- Whoever is newly connected was a stranger. -/
theorem strange_of_connect (different : user ≠ target) (present : database.edges = some edges)
    (run : connect budget user target time database = (.ok true, after)) :
    Strange edges user target := by
  obtain ⟨_, table, _, same, _, _, _, _, bothNew, _⟩ := (connect_eq_ok_iff different).mp run
  cases present.symm.trans same
  simpa [Strange] using bothNew.symm

/-- The edges of a new connection are appended. -/
theorem edgeRows_connect (different : user ≠ target)
    (run : connect budget user target time database = (.ok true, after)) :
    after.edgeRows = database.edgeRows ++ Store.pairs user [target] time := by
  obtain ⟨_, edges, _, present, _, _, _, _, _, written⟩ := (connect_eq_ok_iff different).mp run
  rw [written, Database.edgeRows_of_edges rfl, Database.edgeRows_of_edges present,
    rows_joined different (strange_of_connect different present run)]
  rfl

/-- Connecting newcomers adds their pairs with the user to the edges. -/
theorem edgeRows_connectNew
    (run : connectNew budget user accounts time database = (.ok peers, after)) :
    after.edgeRows = database.edgeRows ++ Store.pairs user peers time := by
  obtain ⟨_, _, _, _, _, written⟩ := connectNew_eq_ok_iff.mp run
  rcases written with ⟨rfl, rfl⟩ | ⟨_, edges, grown, present, rows, _, rfl⟩
  · exact (List.append_nil _).symm
  · rw [Database.edgeRows_of_edges rfl, Database.edgeRows_of_edges present, rows]

/-- Added one by one, a user and their peers come up as often as in one batch. -/
theorem count_added (user : UserId) (peers : List UserId) (owner : StoredId) :
    ((peers.flatMap fun peer => [user, peer]).map UserId.bytes).count owner =
      gained user peers owner := by
  induction peers with
  | nil => simp [gained]
  | cons peer rest inductionHypothesis =>
    rw [List.flatMap_cons, List.map_append, List.count_append, inductionHypothesis, gained, gained,
      List.map_cons, List.map_cons, List.map_nil, List.map_cons, List.count_cons, List.count_cons,
      List.count_cons, List.count_nil, List.length_cons]
    simp only [beq_iff_eq, @eq_comm _ user.bytes]
    split <;> split <;> omega

/-- The order of peers does not matter for what is gained. -/
theorem gained_perm {others : List UserId} (same : others.Perm peers) :
    gained user others owner = gained user peers owner := by
  rw [gained, gained, (same.map UserId.bytes).count_eq, same.length_eq]

end Relationship

/-! ## Two contacts

The two users of the small service, each with an account, and the first one imports a list of
contacts in which the other one stands twice, beside themselves and somebody unknown. -/

namespace Pair

/-- Registered users with accounts. -/
def members : Directory where
  rows := [{ row ada "ada" with externalId := some "a" },
    { row bob "bob" with externalId := some "b" }]
  nodup_ids := by decide
  nodup_handles := by decide
  nodup_externalIds := by decide

/-- A service with these users and without edges. -/
def acquainted : Service Recorder := ⟨⟨some members, some .empty, some .empty⟩, .empty⟩

/-- An import of accounts of which one is unknown, one comes twice and one is the own. -/
def importing : Call :=
  call 5 (.importContacts "a" (.ok [⟨"b", "Bob"⟩, ⟨"x", ""⟩, ⟨"a", "Ada"⟩, ⟨"b", "Bob"⟩]))

/-- The one newcomer of the example. -/
theorem newcomer_iff_bob (id : UserId) :
    Relationship.Newcomer acquainted.database members ada ["b", "x", "a", "b"] id ↔ id = bob := by
  constructor
  · rintro ⟨other, ⟨row, member, same, _⟩, _, _⟩
    rcases List.mem_cons.mp member with rfl | member
    · exact absurd (UserId.ext same.symm) other
    · cases List.mem_singleton.mp member
      exact UserId.ext same.symm
  · rintro rfl
    exact ⟨by decide, by decide, rfl, rfl⟩

end Pair

/-! ## Calls -/

/-- The call that asks to add a user instead. -/
def Call.adding (call : Call) (target : UserId) : Call := { call with operation := .add target }

namespace Service

open Relationship (connectNew newcomers Newcomer Merged Strange joinedAll gained)

variable {State : Type} [Sender State] {call : Call} {service : Service State}
  {directory : Directory} {edges : Table EdgeRow} {externalId : String} {contacts : List Contact}
  {peers : List UserId} {target : UserId} {isNew : Bool} {after : Database}

/-- With all tables there, an import connects the newcomers. -/
theorem serve_import (call : Call) (service : Service State)
    (asked : call.operation = .importContacts externalId (.ok contacts))
    (users : service.database.users = some directory) (sized : directory.Sized)
    (present : service.database.edges = some edges)
    (counted : service.database.counters.isSome) :
    ∃ connected notifications isDispatched,
      connectNew call.terms.budget call.caller.id (contacts.map (·.id)) call.occasion.time
          service.database = (.ok connected, (service.serve call).2.database) ∧
        (service.serve call).1 = .ok (.imported connected notifications isDispatched) ∧
        (∀ id, id ∈ connected ↔
          Newcomer service.database directory call.caller.id (contacts.map (·.id)) id) ∧
        connected.Pairwise (directory.Precedes
          (chunks (call.terms.budget.perStatement 1 0) (contacts.map (·.id)))) := by
  obtain ⟨terms, occasion, caller, operation⟩ := call
  cases asked
  obtain ⟨after, run⟩ := Relationship.connectNew_eq_ok terms.budget caller.id
    (contacts.map (·.id)) occasion.time users sized present counted
  have merged := Relationship.importContacts_eq_ok_iff.mpr ⟨contacts, rfl, run⟩
  have served : service.serve ⟨terms, occasion, caller, .importContacts externalId (.ok contacts)⟩ =
    _ := change_of_ok merged
  rw [served]
  exact ⟨_, _, _, run, rfl, fun _ => Relationship.mem_newcomers present,
    Relationship.precedes_newcomers ..⟩

/-- Adding a user through a call connects the two, and answers whether that is new. -/
theorem serve_adding (different : call.caller.id ≠ target)
    (run : Relationship.connect call.terms.budget call.caller.id target call.occasion.time
      service.database = (.ok isNew, after)) :
    (service.serve (call.adding target)).2.database = after ∧
      ∃ notifications isDispatched, (service.serve (call.adding target)).1 =
        .ok (.added target isNew notifications isDispatched) := by
  have added := Relationship.add_eq_ok_iff.mpr ⟨different, run⟩
  have served : service.serve (call.adding target) = _ := change_of_ok added
  rw [served]
  exact ⟨rfl, _, _, rfl⟩

/-- A call that adds a user has connected the two. -/
theorem connect_of_serve_adding {notifications : List Notification} {isDispatched : Bool}
    (answered : (service.serve (call.adding target)).1 =
      .ok (.added target isNew notifications isDispatched)) :
    ∃ after, Relationship.connect call.terms.budget call.caller.id target call.occasion.time
      service.database = (.ok isNew, after) := by
  have outcome := served (call.adding target) service
  generalize (service.serve (call.adding target)).1 = result,
    (service.serve (call.adding target)).2 = later at outcome answered
  cases outcome with
  | failed error => cases answered
  | removed peer after asked different run => cases answered
  | barred peer after asked different run => cases answered
  | listed friends asked => cases answered
  | imported externalId contacts connected after asked run => cases answered
  | added peer isNew after asked different run =>
    obtain ⟨rfl, rfl, _⟩ := Outcome.added.inj (Except.ok.inj answered)
    exact ⟨after, run⟩

/-- Strangers who are added one by one are all newly connected. -/
theorem serveAll_adding (users : service.database.users = some directory)
    (present : service.database.edges = some edges)
    (counted : service.database.counters.isSome)
    (registered : ∀ peer ∈ peers, (directory.withId? peer.bytes).isSome)
    (distinct : peers.Nodup) (other : call.caller.id ∉ peers)
    (strange : ∀ peer ∈ peers, Strange edges call.caller.id peer) :
    (service.serveAll (peers.map call.adding)).database =
        { service.database with
          edges := some (joinedAll call.caller.id peers call.occasion.time edges)
          counters := service.database.counters.map
            (Statement.raiseAll (peers.flatMap fun peer => [call.caller.id, peer]) 1
              call.occasion.time) } ∧
      ∀ earlier peer rest, peers = earlier ++ peer :: rest →
        ∃ notifications isDispatched,
          ((service.serveAll (earlier.map call.adding)).serve (call.adding peer)).1 =
            .ok (.added peer true notifications isDispatched) := by
  induction peers generalizing service edges with
  | nil =>
    refine ⟨?_, fun earlier peer rest split => ?_⟩
    · have same : service.database.counters.map (Statement.raiseAll [] 1 call.occasion.time) =
          service.database.counters := by
        cases service.database.counters <;> rfl
      rw [List.map_nil, serveAll_nil, joinedAll, List.foldl_nil, List.flatMap_nil, same, ← present]
    · cases earlier <;> cases split
  | cons peer rest inductionHypothesis =>
    obtain ⟨fresh, distinct⟩ := List.nodup_cons.mp distinct
    have different : call.caller.id ≠ peer := fun same => other (same ▸ List.mem_cons_self)
    have run := Relationship.connect_of_strange call.terms.budget call.occasion.time different users
      (registered peer List.mem_cons_self) present counted (strange peer List.mem_cons_self)
    obtain ⟨between, answered⟩ := serve_adding different run
    have still : ∀ later ∈ rest,
        Strange (Relationship.joined call.caller.id peer call.occasion.time edges)
          call.caller.id later := by
      intro later member
      have apart : later ≠ peer := fun same => fresh (same ▸ member)
      have alsoDifferent : call.caller.id ≠ later :=
        fun same => other (same ▸ List.mem_cons_of_mem _ member)
      exact (strange later (List.mem_cons_of_mem _ member)).joined apart alsoDifferent
    have usersNext : (service.serve (call.adding peer)).2.database.users = some directory := by
      rw [between]
      exact users
    have countedNext : (service.serve (call.adding peer)).2.database.counters.isSome := by
      rw [between, Option.isSome_map]
      exact counted
    -- The service after the first addition meets the same conditions for the rest.
    obtain ⟨finished, further⟩ := inductionHypothesis usersNext (by rw [between]) countedNext
      (fun later member => registered later (List.mem_cons_of_mem _ member)) distinct
      (fun member => other (List.mem_cons_of_mem _ member)) still
    refine ⟨?_, fun earlier later others split => ?_⟩
    · rw [List.map_cons, serveAll_cons, finished, between]
      simp only [Option.map_map]
      rfl
    · cases earlier with
      | nil =>
        obtain ⟨rfl, rfl⟩ := List.cons.inj split
        exact answered
      | cons first earlier =>
        obtain ⟨rfl, remainder⟩ := List.cons.inj split
        exact further earlier later others remainder

/-- **An import connects exactly the newcomers, whatever the batching.** It succeeds, connects
every newcomer once, in the order of the chunks and ascending within a chunk, and changes nothing
but their edges and counters. Under other terms, and so with other chunks, the same users are
connected, and the tables end up with the same edges and counters. -/
theorem import_connects_newcomers (call : Call) (service : Service State)
    (asked : call.operation = .importContacts externalId (.ok contacts))
    (users : service.database.users = some directory) (sized : directory.Sized)
    (present : service.database.edges = some edges)
    (counted : service.database.counters.isSome) :
    let accounts := contacts.map (·.id)
    let imported := service.serve call
    ∃ connected notifications isDispatched,
      imported.1 = .ok (.imported connected notifications isDispatched) ∧
      connected.Nodup ∧
      (∀ id, id ∈ connected ↔
        Newcomer service.database directory call.caller.id accounts id) ∧
      connected.Pairwise
        (directory.Precedes (chunks (call.terms.budget.perStatement 1 0) accounts)) ∧
      Merged call.caller.id connected call.occasion.time service.database imported.2.database ∧
      ∀ terms, let again := service.serve { call with terms := terms }
        ∃ others notifications isDispatched,
          again.1 = .ok (.imported others notifications isDispatched) ∧
          others.Perm connected ∧
          again.2.database.edgeRows.Perm imported.2.database.edgeRows ∧
          again.2.database.counterRows.Perm imported.2.database.counterRows := by
  intro accounts imported
  obtain ⟨connected, notifications, isDispatched, run, answered, isNewcomer, ordered⟩ :=
    serve_import call service asked users sized present counted
  have distinct : connected.Nodup := ordered.imp fun precedes => precedes.ne
  have merged := Relationship.merged_of_connectNew present distinct run
  refine ⟨connected, notifications, isDispatched, answered, distinct, isNewcomer, ordered, merged,
    fun terms => ?_⟩
  intro again
  obtain ⟨others, notificationsAgain, isDispatchedAgain, runAgain, answeredAgain, alsoNewcomer,
    orderedAgain⟩ :=
    serve_import { call with terms := terms } service asked users sized present counted
  have distinctAgain : others.Nodup := orderedAgain.imp fun precedes => precedes.ne
  have mergedAgain := Relationship.merged_of_connectNew present distinctAgain runAgain
  have perm : others.Perm connected := by
    rw [List.perm_ext_iff_of_nodup distinctAgain distinct]
    exact fun id => (alsoNewcomer id).trans (isNewcomer id).symm
  refine ⟨others, notificationsAgain, isDispatchedAgain, answeredAgain, perm, ?_, ?_⟩
  · obtain ⟨_, _, same, grown, rows⟩ := merged.edges
    obtain ⟨_, _, sameAgain, grownAgain, rowsAgain⟩ := mergedAgain.edges
    cases same.symm.trans sameAgain
    rw [Database.edgeRows_of_edges grown, Database.edgeRows_of_edges grownAgain, rows, rowsAgain]
    exact (perm.flatMap_right _).append_left _
  · refine Database.counterRows_perm fun owner => ?_
    rw [Relationship.counter?_connectNew run, Relationship.counter?_connectNew runAgain,
      Relationship.gained_perm perm]

/-- The import of the example connects the one newcomer. -/
theorem serve_importing : ∃ notifications isDispatched,
    (Pair.acquainted.serve Pair.importing).1 =
      .ok (.imported [Pair.bob] notifications isDispatched) := by
  obtain ⟨connected, notifications, isDispatched, _, answered, isNewcomer, ordered⟩ :=
    serve_import Pair.importing Pair.acquainted rfl rfl (by decide) rfl rfl
  have distinct : connected.Nodup := ordered.imp fun precedes => precedes.ne
  have single : connected.Perm [Pair.bob] := by
    rw [List.perm_ext_iff_of_nodup distinct (List.pairwise_singleton _ _)]
    intro id
    rw [List.mem_singleton]
    exact (isNewcomer id).trans (Pair.newcomer_iff_bob id)
  cases List.perm_singleton.mp single
  exact ⟨notifications, isDispatched, answered⟩

/-- The import of the example connects its newcomer and gives either of the two a counter. -/
theorem import_connects_newcomers_pair :
    let imported := Pair.acquainted.serve Pair.importing
    ∃ notifications isDispatched,
      imported.1 = .ok (.imported [Pair.bob] notifications isDispatched) ∧
      Merged Pair.ada [Pair.bob] 5 Pair.acquainted.database imported.2.database ∧
      imported.2.database.counter? Pair.ada.bytes = some ⟨Pair.ada.bytes, 1, 5⟩ := by
  intro imported
  obtain ⟨_, _, found⟩ := serve_importing
  obtain ⟨connected, notifications, isDispatched, answered, _, _, _, merged, _⟩ :=
    import_connects_newcomers Pair.importing Pair.acquainted rfl rfl (by decide) rfl rfl
  obtain ⟨rfl, _⟩ := Outcome.imported.inj (Except.ok.inj (found.symm.trans answered))
  exact ⟨notifications, isDispatched, answered, merged, merged.caller (List.cons_ne_nil _ _)⟩

/-- **An import agrees with adding one by one.** Adding those whom it connects, in order and at the
same time, finds each of them unrelated and leaves the same tables: the edges row by row, and the
counters. A contact whom it does not connect could not have been newly connected either. -/
theorem import_agrees_with_adding (call : Call) (service : Service State)
    (asked : call.operation = .importContacts externalId (.ok contacts))
    (users : service.database.users = some directory) (sized : directory.Sized)
    (present : service.database.edges = some edges)
    (counted : service.database.counters.isSome) :
    let imported := service.serve call
    let adding (peers : List UserId) := service.serveAll (peers.map call.adding)
    ∃ connected notifications isDispatched,
      imported.1 = .ok (.imported connected notifications isDispatched) ∧
      (adding connected).database.users = imported.2.database.users ∧
      (adding connected).database.edges = imported.2.database.edges ∧
      (adding connected).database.counterRows.Perm imported.2.database.counterRows ∧
      (∀ user, (Relationship.list user (adding connected).database).1 =
        (Relationship.list user imported.2.database).1) ∧
      (∀ earlier peer rest, connected = earlier ++ peer :: rest →
        ∃ notifications isDispatched, ((adding earlier).serve (call.adding peer)).1 =
          .ok (.added peer true notifications isDispatched)) ∧
      ∀ peer, peer ≠ call.caller.id → directory.Owns peer (contacts.map (·.id)) →
        peer ∉ connected → ∀ notifications isDispatched,
          (service.serve (call.adding peer)).1 ≠
            .ok (.added peer true notifications isDispatched) := by
  intro imported adding
  obtain ⟨connected, notifications, isDispatched, run, answered, isNewcomer, ordered⟩ :=
    serve_import call service asked users sized present counted
  have distinct : connected.Nodup := ordered.imp fun precedes => precedes.ne
  have other := Relationship.not_mem_of_connectNew run
  have strange : ∀ peer ∈ connected, Strange edges call.caller.id peer := fun peer member =>
    ((Relationship.newcomer_iff present).mp ((isNewcomer peer).mp member)).2.2
  have registered : ∀ peer ∈ connected, (directory.withId? peer.bytes).isSome :=
    fun peer member => Relationship.isSome_withId? ((isNewcomer peer).mp member).owns
  have merged := Relationship.merged_of_connectNew present distinct run
  obtain ⟨added, eachNew⟩ :=
    serveAll_adding users present counted registered distinct other strange
  have sameUsers : (adding connected).database.users = imported.2.database.users := by
    rw [merged.users, added]
  have sameEdges : (adding connected).database.edges = imported.2.database.edges := by
    obtain ⟨_, grown, same, written, rows⟩ := merged.edges
    cases present.symm.trans same
    have oneByOne := Relationship.rows_joinedAll call.occasion.time distinct other strange
    rw [written, added, Table.ext (oneByOne.trans rows.symm)]
  refine ⟨connected, notifications, isDispatched, answered, sameUsers, sameEdges, ?_,
    Relationship.list_congr sameUsers sameEdges, eachNew, ?_⟩
  · refine Database.counterRows_perm fun owner => ?_
    rw [Relationship.counter?_connectNew run, ← Relationship.count_added,
      ← Relationship.counter?_raiseAll (.inr counted), added]
    rfl
  · intro peer different owns absent notifications isDispatched answeredAdd
    obtain ⟨after, run⟩ := connect_of_serve_adding answeredAdd
    have strange := Relationship.strange_of_connect (Ne.symm different) present run
    exact absent ((isNewcomer peer).mpr
      ((Relationship.newcomer_iff present).mpr ⟨different, owns, strange⟩))

/-- The import makes the two friends just as adding the other one does. -/
theorem import_agrees_with_adding_pair :
    let imported := Pair.acquainted.serve Pair.importing
    (∃ notifications isDispatched,
      imported.1 = .ok (.imported [Pair.bob] notifications isDispatched)) ∧
      (Pair.acquainted.serve (Pair.importing.adding Pair.bob)).2.database.edges =
        imported.2.database.edges ∧
      ∃ notifications isDispatched, (Pair.acquainted.serve (Pair.importing.adding Pair.bob)).1 =
        .ok (.added Pair.bob true notifications isDispatched) := by
  intro imported
  obtain ⟨_, _, found⟩ := serve_importing
  obtain ⟨connected, _, _, answered, _, sameEdges, _, _, eachNew, _⟩ :=
    import_agrees_with_adding Pair.importing Pair.acquainted rfl rfl (by decide) rfl rfl
  obtain ⟨rfl, _⟩ := Outcome.imported.inj (Except.ok.inj (found.symm.trans answered))
  exact ⟨⟨_, _, found⟩, sameEdges, eachNew [] Pair.bob [] rfl⟩

end Service

end FriendGraph
