import FriendGraph.Proofs.Lookup

/-! # How two users can stand to each other

Nothing in the tables makes the edges between two users agree. Still, a run that starts without
edges relates every two users in exactly one of four ways (`PairShape`): not at all, as friends
with two edges made at the same time, or by a single edge with which one of them blocks the
other. This is an invariant of every change of a relationship (`Database.Paired`).
-/

namespace FriendGraph

open EdgeState (connected blocked)

/-- The ways in which one user stands to another one. -/
inductive PairShape where
  | unrelated
  | friends
  | blocking
  | blockedBy
deriving DecidableEq

namespace PairShape

/-- The same relation, seen from the other user. -/
def flip : PairShape → PairShape
  | unrelated => unrelated
  | friends => friends
  | blocking => blockedBy
  | blockedBy => blocking

end PairShape

namespace Database

variable {before after database : Database} {one other : StoredId} {shape : PairShape}

/-- The two edges between one user and another one have a shape. -/
def Stand (database : Database) (one other : StoredId) : PairShape → Prop
  | .unrelated => database.edge? one other = none ∧ database.edge? other one = none
  | .friends => ∃ time,
      database.edge? one other = some ⟨one, other, time, time, connected.code⟩ ∧
        database.edge? other one = some ⟨other, one, time, time, connected.code⟩
  | .blocking => (∃ row, database.edge? one other = some row ∧ row.code = blocked.code) ∧
      database.edge? other one = none
  | .blockedBy => database.edge? one other = none ∧
      ∃ row, database.edge? other one = some row ∧ row.code = blocked.code

/-- A pair stands the other way round in the flipped shape. -/
theorem Stand.flip (stand : database.Stand one other shape) :
    database.Stand other one shape.flip := by
  cases shape with
  | unrelated => exact stand.symm
  | friends =>
    obtain ⟨time, forth, back⟩ := stand
    exact ⟨time, back, forth⟩
  | blocking => exact stand.symm
  | blockedBy => exact stand.symm

/-- The shape depends on nothing but the two edges. -/
theorem Stand.of_same (stand : before.Stand one other shape)
    (forth : after.edge? one other = before.edge? one other)
    (back : after.edge? other one = before.edge? other one) : after.Stand one other shape := by
  cases shape <;> simpa only [Stand, forth, back] using stand

/-- No two shapes fit the same edges. -/
theorem Stand.unique {first second : PairShape} (stand : database.Stand one other first)
    (again : database.Stand one other second) : second = first := by
  have apart : connected.code ≠ blocked.code := by decide
  cases first <;> cases second <;> first | rfl | grind [Stand]

/-- Nobody has an edge to themselves, and every two users stand in one of the four ways. -/
structure Paired (database : Database) : Prop where
  loopless : ∀ one, database.edge? one one = none
  shaped : ∀ one other, one ≠ other → ∃ shape, database.Stand one other shape

/-- Without edges every pair is unrelated. -/
theorem paired_of_edgeRows (empty : database.edgeRows = []) : database.Paired := by
  have absent := edge?_of_edgeRows empty
  refine ⟨fun one => absent one one, fun one other _ => ⟨.unrelated, ?_⟩⟩
  exact ⟨absent one other, absent other one⟩

end Database

namespace Relationship

variable {before after database : Database} {budget : Budget} {user target : UserId} {time : Int}
  {peers : List UserId}

/-- Connecting a user with peers keeps the pairs, provided that no edge between them is a block. -/
theorem paired_join (paired : before.Paired) (other : user ∉ peers)
    (joins : ∀ source destination, after.edge? source destination =
      (before.edge? source destination).or
        (if Between user peers source destination then some (madeAt time source destination)
        else none))
    (unblocked : ∀ source destination, Between user peers source destination →
      ∀ row, before.edge? source destination = some row → row.code = connected.code) :
    after.Paired := by
  have apart : blocked.code ≠ connected.code := by decide
  constructor
  · intro one
    rw [joins, paired.loopless one, Option.none_or]
    refine ite_eq_right_iff.mpr fun between => absurd ?_ other
    obtain ⟨isUser, peer, member, isPeer⟩ | ⟨isUser, peer, member, isPeer⟩ := between <;>
    · have same : user = peer := UserId.ext (isUser.symm.trans isPeer)
      exact same ▸ member
  · intro one another different
    obtain ⟨shape, stand⟩ := paired.shaped one another different
    by_cases between : Between user peers one another
    · have forth := joins one another
      have back := joins another one
      rw [if_pos between] at forth
      rw [if_pos between.symm] at back
      -- Strangers become friends, friends stay as they are, and a block is ruled out.
      cases shape with
      | unrelated =>
        rw [stand.1] at forth
        rw [stand.2] at back
        exact ⟨.friends, time, forth, back⟩
      | friends =>
        obtain ⟨since, there, andBack⟩ := stand
        rw [there] at forth
        rw [andBack] at back
        exact ⟨.friends, since, forth, back⟩
      | blocking =>
        obtain ⟨⟨row, stored, block⟩, _⟩ := stand
        exact absurd (block.symm.trans (unblocked _ _ between row stored)) apart
      | blockedBy =>
        obtain ⟨_, row, stored, block⟩ := stand
        exact absurd (block.symm.trans (unblocked _ _ between.symm row stored)) apart
    · refine ⟨shape, stand.of_same ?_ ?_⟩
      · rw [joins, if_neg between, Option.or_none]
      · rw [joins, if_neg fun meets => between meets.symm, Option.or_none]

/-- Connecting two users keeps the shapes of pairs. -/
theorem paired_connect (paired : database.Paired) (different : user ≠ target) {isNew : Bool}
    (run : connect budget user target time database = (.ok isNew, after)) : after.Paired :=
  paired_join paired (fun member => different (List.mem_singleton.mp member))
    (edge?_connect different run)
    (fun _ _ between _ stored => code_of_connect different run between stored)

/-- Connecting newcomers keeps the shapes of pairs. -/
theorem paired_connectNew (paired : database.Paired) {externalIds : List String}
    (run : connectNew budget user externalIds time database = (.ok peers, after)) :
    after.Paired := by
  refine paired_join paired (not_mem_of_connectNew run) (edge?_connectNew run) ?_
  intro source destination between row stored
  rw [edge?_of_connectNew run between] at stored
  cases stored

/-- Disconnecting two users keeps the shapes of pairs. -/
theorem paired_disconnect (paired : database.Paired) (different : user ≠ target)
    (run : disconnect budget user target time database = (.ok (), after)) : after.Paired := by
  constructor
  · intro one
    rw [edge?_disconnect different run, paired.loopless one, ite_self]
  · intro one other apart
    obtain ⟨shape, stand⟩ := paired.shaped one other apart
    by_cases between : Between user [target] one other
    · refine ⟨.unrelated, ?_, ?_⟩
      · rw [edge?_disconnect different run, if_pos between]
      · rw [edge?_disconnect different run,
          if_pos between.symm]
    · refine ⟨shape, stand.of_same ?_ ?_⟩
      · rw [edge?_disconnect different run,
          if_neg between]
      · rw [edge?_disconnect different run,
          if_neg fun meets => between meets.symm]

/-- A user who can be barred is a friend or blocked already, and is blocked afterwards. -/
theorem blocking_of_bar (paired : database.Paired) (different : user ≠ target)
    (run : bar budget user target time database = (.ok (), after)) :
    after.Stand user.bytes target.bytes .blocking := by
  have apart : user.bytes ≠ target.bytes := fun same => different (UserId.ext same)
  have swapped : (target.bytes, user.bytes) ≠ (user.bytes, target.bytes) :=
    fun same => apart (Prod.mk.inj same).2
  have forth := edge?_bar different run user.bytes target.bytes
  have back := edge?_bar different run target.bytes user.bytes
  simp only [↓reduceIte] at forth
  simp only [swapped, ↓reduceIte] at back
  obtain ⟨row, stored⟩ := edge?_of_bar different run
  rw [stored, Option.map_some] at forth
  refine ⟨⟨_, forth, rfl⟩, ?_⟩
  obtain ⟨shape, stand⟩ := paired.shaped _ _ apart
  cases shape with
  | unrelated => cases stored.symm.trans stand.1
  | friends =>
    obtain ⟨_, _, stored⟩ := stand
    rw [back, stored]
    rfl
  | blocking => rw [back, stand.2, Option.filter_none]
  | blockedBy => cases stored.symm.trans stand.1

/-- Blocking keeps the shapes of pairs. -/
theorem paired_bar (paired : database.Paired) (different : user ≠ target)
    (run : bar budget user target time database = (.ok (), after)) : after.Paired := by
  have stand := blocking_of_bar paired different run
  constructor
  · intro one
    rw [edge?_bar different run, paired.loopless one]
    simp
  · intro one other apart
    by_cases forth : (one, other) = (user.bytes, target.bytes)
    · cases forth
      exact ⟨.blocking, stand⟩
    · by_cases back : (one, other) = (target.bytes, user.bytes)
      · cases back
        exact ⟨.blockedBy, stand.flip⟩
      · obtain ⟨shape, stand⟩ := paired.shaped one other apart
        refine ⟨shape, stand.of_same ?_ ?_⟩
        · rw [edge?_bar different run, if_neg forth,
            if_neg back]
        · rw [edge?_bar different run, if_neg fun same => back (congrArg Prod.swap same),
            if_neg fun same => forth (congrArg Prod.swap same)]

end Relationship

namespace Service

variable {State : Type} [Sender State]

/-- Every call keeps the shapes of pairs. -/
theorem paired_serve (call : Call) (service : Service State) (paired : service.database.Paired) :
    (service.serve call).2.database.Paired := by
  apply database_serve Database.Paired
  · exact paired
  · exact fun _ _ _ different run => Relationship.paired_connect paired different run
  · exact fun _ _ _ different run => Relationship.paired_disconnect paired different run
  · exact fun _ _ different run => Relationship.paired_bar paired different run
  · exact fun _ _ _ run => Relationship.paired_connectNew paired run

/-- **Every two users stand in exactly one of four ways**, after any run that starts without
edges; in particular nobody is a friend on one side only, and no two users block each other. -/
theorem pairs_have_one_shape (calls : List Call) (service : Service State)
    (empty : service.database.edgeRows = []) :
    let database := (service.serveAll calls).database
    (∀ row ∈ database.edgeRows, row.source ≠ row.destination) ∧
      ∀ one other, one ≠ other →
        (∃ shape, database.Stand one other shape ∧
          ∀ another, database.Stand one other another → another = shape) ∧
        (∀ row, database.edge? one other = some row → row.code = connected.code →
          ∃ back, database.edge? other one = some back ∧ back.code = connected.code) ∧
        ¬((∃ row, database.edge? one other = some row ∧ row.code = blocked.code) ∧
          ∃ row, database.edge? other one = some row ∧ row.code = blocked.code) := by
  intro database
  have paired : database.Paired :=
    serveAll_induction (fun service => service.database.Paired)
      (fun call _ service => paired_serve call service) (Database.paired_of_edgeRows empty)
  have apart : blocked.code ≠ connected.code := by decide
  constructor
  · intro row member same
    have stored := Database.edge?_eq_some_iff.mpr ⟨member, rfl, same.symm⟩
    cases stored.symm.trans (paired.loopless row.source)
  · intro one other different
    obtain ⟨shape, stand⟩ := paired.shaped one other different
    refine ⟨⟨shape, stand, fun _ => stand.unique⟩, ?_, ?_⟩
    · intro row stored isFriend
      cases shape with
      | unrelated => cases stored.symm.trans stand.1
      | friends =>
        obtain ⟨_, _, back⟩ := stand
        exact ⟨_, back, rfl⟩
      | blocking =>
        obtain ⟨⟨block, found, isBlock⟩, _⟩ := stand
        cases found.symm.trans stored
        exact absurd (isBlock.symm.trans isFriend) apart
      | blockedBy => cases stored.symm.trans stand.1
    · rintro ⟨⟨forth, storedForth, isBlock⟩, back, storedBack, _⟩
      cases shape with
      | unrelated => cases storedForth.symm.trans stand.1
      | friends =>
        obtain ⟨_, found, _⟩ := stand
        cases found.symm.trans storedForth
        exact absurd isBlock.symm apart
      | blocking => cases storedBack.symm.trans stand.2
      | blockedBy => cases storedForth.symm.trans stand.1

/-- Two strangers become friends, and then one of them blocks the other. -/
theorem pairs_have_one_shape_pair :
    let calls := [Pair.call 5 (.add Pair.bob), Pair.call 6 (.block Pair.bob)]
    let database := (Pair.strangers.serveAll calls).database
    database.edgeRows = [⟨Pair.ada.bytes, Pair.bob.bytes, 5, 6, blocked.code⟩] ∧
      ∃ shape, database.Stand Pair.ada.bytes Pair.bob.bytes shape ∧
        ∀ another, database.Stand Pair.ada.bytes Pair.bob.bytes another → another = shape :=
  ⟨rfl, ((pairs_have_one_shape _ Pair.strangers rfl).2 _ _ (by decide)).1⟩

end Service

end FriendGraph
