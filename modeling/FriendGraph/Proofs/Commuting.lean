import FriendGraph.Proofs.Announcement
import FriendGraph.Proofs.Confinement
import FriendGraph.Proofs.Refinement

/-! # Calls on different pairs commute

A call is about some pairs of users, its footprint (`Call.footprint`). It leaves the edges of all
other pairs alone (`Service.agree_serve`), and it depends on nothing but the edges of its own pairs
(`Call.local_act`). So two calls whose footprints are disjoint have the same outcomes in either
order, and leave the same edges. They may still have a user in common, whose counter both of them
change: it comes to the same count, since the drift of a counter never changes, but it is stamped by
the call that comes last. Only calls that share no user leave all counters and all lists the same.
-/

namespace FriendGraph

open Relationship (Between)
open Database (Agree)

namespace Call

/-- The pairs of users whose edges a call reads or writes. -/
def footprint (directory : Directory) (call : Call) : Set (Sym2 UserId) :=
  match call.operation with
  | .add target | .remove target | .block target => {s(call.caller.id, target)}
  | .addByHandle handle =>
    {pair | ∃ target, directory.named? handle = some target ∧ pair = s(call.caller.id, target)}
  | .list | .importContacts _ _ => {pair | call.caller.id ∈ pair ∧ ¬pair.IsDiag}

/-- No pair is in the footprints of both calls. -/
def Apart (directory : Directory) (first second : Call) : Prop :=
  ∀ pair ∈ first.footprint directory, pair ∉ second.footprint directory

theorem Apart.symm {directory : Directory} {first second : Call}
    (apart : first.Apart directory second) : second.Apart directory first :=
  fun pair inside insideToo => apart pair insideToo inside

variable {directory : Directory} {call : Call} {outcome : Except RelationshipError Outcome}
  {seen : StoredId × StoredId → Bool}

/-- Whoever a call is about is in a pair of its footprint. -/
theorem mem_footprint {peer : UserId} (member : peer ∈ call.partners directory outcome) :
    peer ≠ call.caller.id ∧ s(call.caller.id, peer) ∈ call.footprint directory := by
  obtain ⟨terms, occasion, caller, operation⟩ := call
  obtain ⟨named, apart⟩ := List.mem_filter.mp member
  have different : peer ≠ caller.id := of_decide_eq_true apart
  refine ⟨different, ?_⟩
  cases operation with
  | add target | remove target | block target =>
    cases List.mem_singleton.mp named
    exact Set.mem_singleton _
  | addByHandle handle => exact ⟨peer, Option.mem_toList.mp named, rfl⟩
  | list => cases named
  | importContacts externalId fetched =>
    exact ⟨Sym2.mem_mk_left _ _, fun diagonal => different (Sym2.mk_isDiag_iff.mp diagonal).symm⟩

/-- What a call does not spare is an edge of its footprint, between two users. -/
theorem exists_of_not_spares {key : StoredId × StoredId}
    (touched : call.spares directory outcome key = false) :
    ∃ one other : UserId, one ≠ other ∧ key = (one.bytes, other.bytes) ∧
      s(one, other) ∈ call.footprint directory := by
  have between : Between call.caller.id (call.partners directory outcome) key.1 key.2 := by
    simpa [spares] using touched
  rcases between with ⟨isCaller, peer, member, isPeer⟩ | ⟨isCaller, peer, member, isPeer⟩
  · obtain ⟨different, inside⟩ := mem_footprint member
    exact ⟨call.caller.id, peer, different.symm, Prod.ext isCaller isPeer, inside⟩
  · obtain ⟨different, inside⟩ := mem_footprint member
    exact ⟨peer, call.caller.id, different, Prod.ext isPeer isCaller, Sym2.eq_swap ▸ inside⟩

/-- A pair with an edge that is not spared is in the footprint. -/
theorem mem_footprint_of_not_spares {one other : UserId}
    (touched : call.spares directory outcome (one.bytes, other.bytes) = false) :
    s(one, other) ∈ call.footprint directory := by
  obtain ⟨source, destination, _, same, inside⟩ := exists_of_not_spares touched
  cases UserId.ext (Prod.mk.inj same).1
  cases UserId.ext (Prod.mk.inj same).2
  exact inside

/-- A call is local when the edges of its footprint are visible, and for a list all those that leave
the caller. -/
theorem local_act
    (visible : ∀ one other : UserId, s(one, other) ∈ call.footprint directory →
      seen (one.bytes, other.bytes) = true)
    (visibleAll : call.operation = .list →
      ∀ destination, seen (call.caller.id.bytes, destination) = true) :
    call.act.Local directory seen := by
  have both : ∀ one other : UserId, s(one, other) ∈ call.footprint directory →
      seen (one.bytes, other.bytes) = true ∧ seen (other.bytes, one.bytes) = true :=
    fun one other inside => ⟨visible one other inside, visible other one (Sym2.eq_swap ▸ inside)⟩
  obtain ⟨terms, occasion, caller, operation⟩ := call
  cases operation with
  | add target =>
    obtain ⟨forth, back⟩ := both caller.id target (Set.mem_singleton _)
    exact (Relationship.local_requireOther (Relationship.local_connect forth back)).map _
  | addByHandle handle =>
    refine (Relationship.local_addByHandle fun target named => ?_).map _
    exact both caller.id target ⟨target, named, rfl⟩
  | remove target =>
    obtain ⟨forth, back⟩ := both caller.id target (Set.mem_singleton _)
    exact (Relationship.local_requireOther (Relationship.local_disconnect forth back)).map _
  | block target =>
    obtain ⟨forth, back⟩ := both caller.id target (Set.mem_singleton _)
    exact (Relationship.local_requireOther (Relationship.local_bar forth back)).map _
  | list => exact (Relationship.local_list (visibleAll rfl)).map _
  | importContacts externalId fetched =>
    refine (Relationship.local_importContacts fun peer different => ?_).map _
    exact both caller.id peer ⟨Sym2.mem_mk_left _ _,
      fun diagonal => different (Sym2.mk_isDiag_iff.mp diagonal).symm⟩

end Call

namespace Service

variable {State : Type} [Sender State] {service : Service State} {directory : Directory}
  {call first second : Call}

/-- A call leaves alone what it spares. -/
theorem agree_serve (call : Call) (complete : service.database.Complete directory) :
    Agree directory (call.spares directory (service.serve call).1) service.database
      (service.serve call).2.database := by
  have edges := (frame_serve call service).edges
  rw [complete.users] at edges
  exact ⟨complete, complete_serve complete call, edges.symm⟩

/-- A call does not look at the edges of the other one. -/
theorem local_of_apart (apart : first.Apart directory second)
    (outcome : Except RelationshipError Outcome) :
    second.act.Local directory (first.spares directory outcome) := by
  apply Call.local_act
  · intro one other inside
    rw [← Bool.not_eq_false]
    intro touched
    exact apart _ (Call.mem_footprint_of_not_spares touched) inside
  · intro lists destination
    rw [← Bool.not_eq_false]
    intro touched
    obtain ⟨source, other, different, same, touches⟩ := Call.exists_of_not_spares touched
    cases UserId.ext (Prod.mk.inj same).1
    refine apart _ touches ?_
    rw [Call.footprint, lists]
    exact ⟨Sym2.mem_mk_left _ _, fun diagonal => different (Sym2.mk_isDiag_iff.mp diagonal)⟩

end Service

/-! ## Counters -/

namespace Database

variable {before after one other oneAfter otherAfter : Database} {user : StoredId}
  {time : Int} {amount amountToo : StoredId → Int}

/-- A counter stays as it is where no edge is gained. -/
theorem Moved.counter?_of_outgoing (moved : Moved time amount before after)
    (same : after.outgoing user = before.outgoing user) :
    after.counter? user = before.counter? user := by
  have gained := moved.outgoing user
  rw [moved.counter?, if_pos (by omega)]

/-- Counters that agree and move with edges that agree agree afterwards. -/
theorem Moved.counter?_congr (moved : Moved time amount one oneAfter)
    (movedToo : Moved time amountToo other otherAfter)
    (counter : one.counter? user = other.counter? user)
    (before : one.outgoing user = other.outgoing user)
    (after : oneAfter.outgoing user = otherAfter.outgoing user) :
    oneAfter.counter? user = otherAfter.counter? user := by
  have gained := moved.outgoing user
  have gainedToo := movedToo.outgoing user
  have same : amount user = amountToo user := by omega
  rw [moved.counter?, movedToo.counter?, same, Database.tally, Database.tally, counter]

/-- The same edges are equally many, in whatever order. -/
theorem outgoing_congr (same : ∀ source destination,
    one.edge? source destination = other.edge? source destination) (user : StoredId) :
    one.outgoing user = other.outgoing user := by
  have perm : one.edgeRows.Perm other.edgeRows :=
    Table.perm_of_find? fun key => same key.1 key.2
  exact perm.countP_eq _

/-- Where all edges of a user are visible databases that agree have the same number of them. -/
theorem Agree.outgoing {directory : Directory} {seen : StoredId × StoredId → Bool}
    (agree : Agree directory seen one other)
    (visible : ∀ destination, seen (user, destination) = true) :
    one.outgoing user = other.outgoing user := by
  obtain ⟨first, second, present, also, same⟩ := agree.tables
  rw [Database.outgoing, Database.outgoing, edgeRows_of_edges present, edgeRows_of_edges also,
    List.countP_eq_length_filter, List.countP_eq_length_filter,
    ← Table.filter_source_part visible, same, Table.filter_source_part visible]

end Database

/-! ## Two orders -/

namespace Service

variable {State : Type} [Sender State] {service : Service State} {directory : Directory}
  {first second : Call} {user : StoredId}

/-- After the other call a call has the same outcome as before it, and does the same to what the
other one spares. -/
theorem exchange (complete : service.database.Complete directory)
    (apart : first.Apart directory second) :
    (service.serve second).1 = ((service.serve first).2.serve second).1 ∧
      Agree directory (first.spares directory (service.serve first).1)
        (service.serve second).2.database ((service.serve first).2.serve second).2.database := by
  rw [serve_eq second service, serve_eq second (service.serve first).2]
  exact local_of_apart apart _ (agree_serve first complete)

/-- After a call elsewhere a call still changes nothing of what it spares. -/
theorem agree_serve_after (complete : service.database.Complete directory)
    (apart : first.Apart directory second) :
    Agree directory (first.spares directory (service.serve first).1)
      (service.serve second).2.database ((service.serve second).2.serve first).2.database := by
  obtain ⟨same, _⟩ := exchange complete apart.symm
  have spared := agree_serve first (complete_serve complete second)
  rw [← same] at spared
  exact spared

/-- Either order leaves the same of what the first call spares. -/
theorem agree_orders (complete : service.database.Complete directory)
    (apart : first.Apart directory second) :
    Agree directory (first.spares directory (service.serve first).1)
      ((service.serve first).2.serve second).2.database
      ((service.serve second).2.serve first).2.database :=
  (exchange complete apart).2.symm.trans (agree_serve_after complete apart)

/-- The edges are the same in either order. -/
theorem edge?_orders (complete : service.database.Complete directory)
    (apart : first.Apart directory second)
    (source destination : StoredId) :
    ((service.serve first).2.serve second).2.database.edge? source destination =
      ((service.serve second).2.serve first).2.database.edge? source destination := by
  cases isSpared : first.spares directory (service.serve first).1 (source, destination) with
  | true => exact (agree_orders complete apart).edge? isSpared
  | false =>
    -- What the first call touches the second one spares.
    obtain ⟨one, other, _, same, inside⟩ := Call.exists_of_not_spares isSpared
    obtain ⟨rfl, rfl⟩ := Prod.mk.inj same
    have isSparedToo :
        second.spares directory (service.serve second).1 (one.bytes, other.bytes) = true := by
      rw [← Bool.not_eq_false]
      intro touched
      exact apart _ inside (Call.mem_footprint_of_not_spares touched)
    exact ((agree_orders complete apart.symm).edge? isSparedToo).symm

/-- Either order leaves the same count, since neither call changes the drift. -/
theorem tally_orders (complete : service.database.Complete directory)
    (closed : service.database.Closed)
    (apart : first.Apart directory second)
    (user : StoredId) :
    ((service.serve first).2.serve second).2.database.tally user =
      ((service.serve second).2.serve first).2.database.tally user := by
  have drift : ∀ call callToo : Call,
      ((service.serve call).2.serve callToo).2.database.drift user =
        service.database.drift user := by
    intro call callToo
    obtain ⟨_, moved⟩ := moved_serve call service closed
    obtain ⟨_, movedToo⟩ := moved_serve callToo (service.serve call).2 (moved.closed closed)
    exact (movedToo.drift user).trans (moved.drift user)
  have same := (drift first second).trans (drift second first).symm
  have outgoing := Database.outgoing_congr (edge?_orders complete apart) user
  unfold Database.drift at same
  omega

/-- Either order leaves the counter of whoever is no party of the first call the same. -/
theorem counter?_orders (complete : service.database.Complete directory)
    (closed : service.database.Closed)
    (apart : first.Apart directory second)
    (outside : ∀ party ∈ first.parties directory (service.serve first).1, user ≠ party.bytes) :
    ((service.serve first).2.serve second).2.database.counter? user =
      ((service.serve second).2.serve first).2.database.counter? user := by
  have visible := fun destination => Call.spares_of_outside outside destination
  obtain ⟨_, movedFirst⟩ := moved_serve first service closed
  obtain ⟨_, movedSecond⟩ := moved_serve second service closed
  obtain ⟨_, movedSecondToo⟩ := moved_serve second _ (movedFirst.closed closed)
  obtain ⟨_, movedFirstToo⟩ := moved_serve first _ (movedSecond.closed closed)
  -- The first call leaves the edges of the user alone, whether it comes first or last.
  have still := ((agree_serve first complete).outgoing visible).symm
  have stillToo := ((agree_serve_after complete apart).outgoing visible).symm
  have done := ((exchange complete apart).2.outgoing visible).symm
  calc ((service.serve first).2.serve second).2.database.counter? user
      = (service.serve second).2.database.counter? user :=
        movedSecondToo.counter?_congr movedSecond (movedFirst.counter?_of_outgoing still) still done
    _ = ((service.serve second).2.serve first).2.database.counter? user :=
        (movedFirstToo.counter?_of_outgoing stillToo).symm

/-- Either order leaves the list of whoever is no party of the first call the same. -/
theorem list_orders (complete : service.database.Complete directory)
    (apart : first.Apart directory second) {user : UserId}
    (outside : user ∉ first.parties directory (service.serve first).1) :
    (Relationship.list user ((service.serve first).2.serve second).2.database).1 =
      (Relationship.list user ((service.serve second).2.serve first).2.database).1 := by
  have visible : ∀ destination,
      first.spares directory (service.serve first).1 (user.bytes, destination) = true := by
    apply Call.spares_of_outside
    intro party member same
    exact outside (UserId.ext same ▸ member)
  exact (Relationship.local_list visible (agree_orders complete apart)).1

/-- **Calls on different pairs commute.** Each has the same outcome in either order, and the edges
and counts come to the same. With no party in common the counters and everybody's list do too. -/
theorem calls_on_different_pairs_commute (first second : Call) (service : Service State)
    (directory : Directory) (complete : service.database.Complete directory)
    (closed : service.database.Closed)
    (apart : first.Apart directory second) :
    (service.serve first).1 = ((service.serve second).2.serve first).1 ∧
      (service.serve second).1 = ((service.serve first).2.serve second).1 ∧
      (∀ source destination,
        ((service.serve first).2.serve second).2.database.edge? source destination =
          ((service.serve second).2.serve first).2.database.edge? source destination) ∧
      (∀ user, ((service.serve first).2.serve second).2.database.tally user =
        ((service.serve second).2.serve first).2.database.tally user) ∧
      ((first.parties directory (service.serve first).1).Disjoint
          (second.parties directory (service.serve second).1) →
        (∀ user, ((service.serve first).2.serve second).2.database.counter? user =
          ((service.serve second).2.serve first).2.database.counter? user) ∧
        ∀ user, (Relationship.list user ((service.serve first).2.serve second).2.database).1 =
          (Relationship.list user ((service.serve second).2.serve first).2.database).1) := by
  refine ⟨(exchange complete apart.symm).1, (exchange complete apart).1,
    edge?_orders complete apart, tally_orders complete closed apart, fun strangers => ⟨?_, ?_⟩⟩
  · intro user
    by_cases outside : ∀ party ∈ first.parties directory (service.serve first).1,
        user ≠ party.bytes
    · exact counter?_orders complete closed apart outside
    · -- A party of the first call is none of the second one.
      refine (counter?_orders complete closed apart.symm fun party member same => ?_).symm
      refine outside fun partyToo memberToo sameToo => ?_
      cases UserId.ext (same.symm.trans sameToo)
      exact strangers memberToo member
  · intro user
    by_cases inside : user ∈ first.parties directory (service.serve first).1
    · exact (list_orders complete apart.symm (strangers inside)).symm
    · exact list_orders complete apart inside

end Service

namespace Pair

/-- One user adds another. -/
def here : Call := call 5 (.add bob)

/-- A third user adds a fourth. -/
def elsewhere : Call := { call 6 (.add dave) with caller := ⟨carol, "carol"⟩ }

theorem apart_elsewhere : here.Apart circle elsewhere := by
  have different : s(ada, bob) ≠ s(carol, dave) := by decide
  intro pair isHere isElsewhere
  exact different (isHere.symm.trans isElsewhere)

end Pair

namespace Service

/-- Two calls without a common user. -/
theorem calls_on_different_pairs_commute_pair :
    (Pair.quartet.serve Pair.here).1 =
        ((Pair.quartet.serve Pair.elsewhere).2.serve Pair.here).1 ∧
      ((Pair.quartet.serve Pair.here).2.serve Pair.elsewhere).2.database.tally Pair.bob.bytes = 1 ∧
      ((Pair.quartet.serve Pair.elsewhere).2.serve Pair.here).2.database.counter? Pair.bob.bytes =
        some ⟨Pair.bob.bytes, 1, 5⟩ := by
  obtain ⟨same, _, _, count, further⟩ := calls_on_different_pairs_commute Pair.here Pair.elsewhere
    Pair.quartet Pair.circle ⟨rfl, rfl, rfl⟩ (Database.Unrelated.closed ⟨rfl, rfl⟩)
    Pair.apart_elsewhere
  have strangers : ∀ user ∈ Pair.here.parties Pair.circle (Pair.quartet.serve Pair.here).1,
      user ∉ Pair.elsewhere.parties Pair.circle (Pair.quartet.serve Pair.elsewhere).1 := by
    decide
  obtain ⟨counters, _⟩ := further fun user isFirst => strangers user isFirst
  refine ⟨same, (count _).trans rfl, (counters _).symm.trans rfl⟩

end Service

end FriendGraph
