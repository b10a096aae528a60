import FriendGraph.Proofs.Bonds

/-! # Two edges stand for one bond

A database and bonds tell the same when every edge between two users is in the state in which its
source sees its destination (`Bonds.Describe`). Whatever a call does to such a database it does to
the bonds: both answer alike, with the same error where they fail, and tell the same afterwards
(`Bonds.simulates_serve`). So a run that starts without edges can be followed on bonds alone, and
the counter of a user is the number of those whom they see.
-/

namespace FriendGraph

open EdgeState (connected blocked)
open Relationship (Between)

namespace Database

variable {database : Database} {user : UserId}

/-- The users to whom an edge leads from a user. -/
def destinations (user : UserId) (database : Database) : List UserId :=
  (database.edgeRows.filter (·.source = user.bytes)).filterMap fun row =>
    UserId.ofStored? row.destination

/-- A destination is a user to whom an edge leads. -/
theorem mem_destinations {peer : UserId} :
    peer ∈ database.destinations user ↔ (database.edge? user.bytes peer.bytes).isSome := by
  simp only [destinations, List.mem_filterMap, List.mem_filter, decide_eq_true_eq,
    UserId.ofStored?_eq_some_iff, Option.isSome_iff_exists, edge?_eq_some_iff, and_assoc,
    @eq_comm _ peer.bytes]

/-- No destination comes twice. -/
theorem nodup_destinations {edges : Table EdgeRow} (present : database.edges = some edges)
    (user : UserId) : (database.destinations user).Nodup := by
  have keys : (database.edgeRows.filter (·.source = user.bytes)).Pairwise
      fun first second => Keyed.key first ≠ Keyed.key second := by
    rw [edgeRows_of_edges present]
    exact (List.pairwise_map.mp edges.nodup_keys).filter _
  -- Edges that leave one user differ in their destinations, since their keys differ.
  refine List.pairwise_filterMap.mpr (keys.imp_of_mem ?_)
  rintro first second isFirst isSecond apart peer found _ alsoFound rfl
  have sameSource : first.source = second.source :=
    (of_decide_eq_true (List.mem_filter.mp isFirst).2).trans
      (of_decide_eq_true (List.mem_filter.mp isSecond).2).symm
  have sameDestination : first.destination = second.destination :=
    (UserId.ofStored?_eq_some_iff.mp found).symm.trans (UserId.ofStored?_eq_some_iff.mp alsoFound)
  exact apart (Prod.ext sameSource sameDestination)

end Database

namespace Bonds

variable {bonds : Bonds} {before after database : Database} {directory : Directory}
  {budget : Budget} {caller : Caller} {user target : UserId} {time : Int}

/-- Every edge between two users is in the state in which its source sees its destination, and
there are no edges but those between users. -/
structure Describe (bonds : Bonds) (database : Database) : Prop where
  edge? : ∀ one other : UserId, (database.edge? one.bytes other.bytes).map (·.code) =
    ((bonds s(one, other)).state? one).map EdgeState.code
  named : ∀ source destination, (database.edge? source destination).isSome →
    ∃ one other : UserId, source = one.bytes ∧ destination = other.bytes

/-- A bond is seen alike from whichever side its pair is written. -/
theorem state?_congr (bonds : Bonds) {first second : Sym2 UserId} (same : first = second)
    (user : UserId) : (bonds first).state? user = (bonds second).state? user := by
  subst same
  rfl

/-- Leaving a bond as it is changes nothing. -/
theorem change_self (bonds : Bonds) (pair : Sym2 UserId) :
    bonds.change pair (bonds pair) = bonds := Function.update_eq_self pair bonds

/-- An edge is between a user and peers exactly when its ends are the user and one of them. -/
theorem between_iff {peers : List UserId} {one other : UserId} :
    Between user peers one.bytes other.bytes ↔ ∃ peer ∈ peers, s(one, other) = s(user, peer) := by
  have same : ∀ first second : UserId, first.bytes = second.bytes ↔ first = second :=
    fun _ _ => ⟨UserId.ext, congrArg UserId.bytes⟩
  simp only [Between, same, Sym2.eq_iff]
  constructor
  · rintro (⟨isUser, peer, member, isPeer⟩ | ⟨isUser, peer, member, isPeer⟩)
    · exact ⟨peer, member, .inl ⟨isUser, isPeer⟩⟩
    · exact ⟨peer, member, .inr ⟨isPeer, isUser⟩⟩
  · rintro ⟨peer, member, ⟨isUser, isPeer⟩ | ⟨isPeer, isUser⟩⟩
    · exact .inl ⟨isUser, peer, member, isPeer⟩
    · exact .inr ⟨isUser, peer, member, isPeer⟩

/-- Bonds among strangers describe a database without edges. -/
theorem describe_strangers (empty : database.edgeRows = []) : strangers.Describe database := by
  have absent := Database.edge?_of_edgeRows empty
  constructor
  · intro one other
    rw [absent]
    rfl
  · intro source destination isThere
    rw [absent] at isThere
    cases isThere

namespace Describe

/-- The edge back, by the same bond. -/
theorem back (describe : bonds.Describe database) (one other : UserId) :
    (database.edge? other.bytes one.bytes).map (·.code) =
      ((bonds s(one, other)).state? other).map EdgeState.code := by
  rw [describe.edge?, bonds.state?_congr Sym2.eq_swap]

/-- Where bonds describe a database all codes are known. -/
theorem known (describe : bonds.Describe database) : database.Known := by
  intro row member
  have stored := Database.edge?_eq_some_iff.mpr ⟨member, rfl, rfl⟩
  obtain ⟨one, other, source, destination⟩ :=
    describe.named row.source row.destination (by rw [stored]; rfl)
  have seen := describe.edge? one other
  rw [← source, ← destination, stored, Option.map_some, eq_comm, Option.map_eq_some_iff] at seen
  obtain ⟨state, _, coded⟩ := seen
  rw [← coded, EdgeState.ofCode?_code]
  rfl

/-- A pair is unrelated exactly when there is no edge either way. -/
theorem unrelated_iff (describe : bonds.Describe database) {one other : UserId} :
    bonds s(one, other) = .unrelated ↔
      database.edge? one.bytes other.bytes = none ∧
        database.edge? other.bytes one.bytes = none := by
  rw [Bond.eq_unrelated_iff, ← Option.map_eq_none_iff (f := EdgeState.code), ← describe.edge?,
    Option.map_eq_none_iff, ← Option.map_eq_none_iff (f := EdgeState.code), ← describe.back,
    Option.map_eq_none_iff]

/-- Where neither of two users has blocked the other one, no edge between them is a block. -/
theorem unblocked (describe : bonds.Describe database)
    (free : ∀ blocker, bonds s(user, target) ≠ .blocked blocker) (source destination : StoredId)
    (between : Between user [target] source destination) (row : EdgeRow)
    (stored : database.edge? source destination = some row) : row.code = connected.code := by
  have sight : ∀ one, (database.edge? source destination).map (·.code) =
      ((bonds s(user, target)).state? one).map EdgeState.code → row.code = connected.code := by
    intro one seen
    rw [stored] at seen
    cases bond : bonds s(user, target) with
    | unrelated =>
      rw [bond] at seen
      cases seen
    | friends =>
      rw [bond] at seen
      exact Option.some.inj seen
    | blocked blocker => exact absurd bond (free blocker)
  rcases Relationship.between_singleton_iff.mp between with ⟨rfl, rfl⟩ | ⟨rfl, rfl⟩
  · exact sight user (describe.edge? user target)
  · exact sight target (describe.back user target)

/-- Where the edges between two users have changed, their bond has. -/
theorem change (describe : bonds.Describe before) {bond : Bond s(user, target)}
    (forth : (after.edge? user.bytes target.bytes).map (·.code) =
      (bond.state? user).map EdgeState.code)
    (back : (after.edge? target.bytes user.bytes).map (·.code) =
      (bond.state? target).map EdgeState.code)
    (others : ∀ source destination, ¬Between user [target] source destination →
      after.edge? source destination = before.edge? source destination) :
    (bonds.change s(user, target) bond).Describe after := by
  have here : bonds.change s(user, target) bond s(user, target) = bond :=
    Function.update_self _ _ _
  constructor
  · intro one other
    by_cases between : Between user [target] one.bytes other.bytes
    · rcases Relationship.between_bytes_iff.mp between with ⟨rfl, rfl⟩ | ⟨rfl, rfl⟩
      · rw [here, forth]
      · rw [state?_congr _ Sym2.eq_swap, here, back]
    · have apart : s(one, other) ≠ s(user, target) :=
        fun same => between (between_iff.mpr ⟨target, List.mem_singleton_self target, same⟩)
      have elsewhere : bonds.change s(user, target) bond s(one, other) = bonds s(one, other) :=
        Function.update_of_ne apart _ _
      rw [others _ _ between, elsewhere, describe.edge?]
  · intro source destination isThere
    by_cases between : Between user [target] source destination
    · rcases Relationship.between_singleton_iff.mp between with ⟨rfl, rfl⟩ | ⟨rfl, rfl⟩
      · exact ⟨user, target, rfl, rfl⟩
      · exact ⟨target, user, rfl, rfl⟩
    · rw [others _ _ between] at isThere
      exact describe.named _ _ isThere

/-- Whoever can be connected are friends afterwards. -/
theorem connect (describe : bonds.Describe before) (different : user ≠ target) {isNew : Bool}
    (run : Relationship.connect budget user target time before = (.ok isNew, after)) :
    (bonds.change s(user, target) .friends).Describe after := by
  have edges := Relationship.edge?_connect different run
  have forth : Between user [target] user.bytes target.bytes :=
    Relationship.between_singleton_iff.mpr (.inl ⟨rfl, rfl⟩)
  have isFriend : ∀ source destination, Between user [target] source destination →
      (after.edge? source destination).map (·.code) = some connected.code := by
    intro source destination between
    rw [edges, if_pos between]
    cases stored : before.edge? source destination with
    | none => rfl
    | some row =>
      rw [Option.some_or, Option.map_some,
        Relationship.code_of_connect different run between stored]
  refine describe.change (isFriend _ _ forth) (isFriend _ _ forth.symm) ?_
  intro source destination misses
  rw [edges, if_neg misses, Option.or_none]

/-- Disconnecting two users makes their pair unrelated. -/
theorem disconnect (describe : bonds.Describe before) (different : user ≠ target)
    (run : Relationship.disconnect budget user target time before = (.ok (), after)) :
    (bonds.change s(user, target) .unrelated).Describe after := by
  have edges := Relationship.edge?_disconnect different run
  have forth : Between user [target] user.bytes target.bytes :=
    Relationship.between_singleton_iff.mpr (.inl ⟨rfl, rfl⟩)
  refine describe.change ?_ ?_ ?_
  · rw [edges, if_pos forth]
    rfl
  · rw [edges, if_pos forth.symm]
    rfl
  · intro source destination misses
    rw [edges, if_neg misses]

/-- Whoever is barred is blocked, provided that they have not blocked the user themselves. -/
theorem bar (describe : bonds.Describe before) (different : user ≠ target)
    (run : Relationship.bar budget user target time before = (.ok (), after))
    (free : (bonds s(user, target)).state? target ≠ some blocked) :
    (bonds.change s(user, target) (.blocked ⟨user, Sym2.mem_mk_left _ _⟩)).Describe after := by
  have edges := Relationship.edge?_bar different run
  have swapped : (target.bytes, user.bytes) ≠ (user.bytes, target.bytes) :=
    Relationship.back_ne_forth different
  refine describe.change ?_ ?_ ?_
  · obtain ⟨row, stored⟩ := Relationship.edge?_of_bar different run
    rw [edges, if_pos rfl, stored, Bond.state?_of_blocker rfl]
    rfl
  · rw [edges, if_neg swapped, if_pos rfl, Bond.state?_of_other different, Option.map_none,
      Option.map_eq_none_iff, Option.filter_eq_none_iff]
    intro row stored isBlock
    have seen := describe.back user target
    rw [stored, Option.map_some, of_decide_eq_true isBlock, eq_comm, Option.map_eq_some_iff] at seen
    obtain ⟨state, visible, coded⟩ := seen
    cases state with
    | connected => exact absurd coded (by decide)
    | blocked => exact free visible
  · intro source destination misses
    rw [Relationship.between_singleton_iff, not_or] at misses
    rw [edges, if_neg fun same => misses.1 (Prod.mk.inj same),
      if_neg fun same => misses.2 (Prod.mk.inj same)]

/-- Those who are newly connected are friends. -/
theorem join (describe : bonds.Describe before) {accounts : List String} {peers : List UserId}
    (run : Relationship.connectNew budget user accounts time before = (.ok peers, after)) :
    (bonds.join user peers.toFinset).Describe after := by
  have edges := Relationship.edge?_connectNew run
  constructor
  · intro one other
    have isPeer : (∃ peer ∈ peers.toFinset, s(one, other) = s(user, peer)) ↔
        Between user peers one.bytes other.bytes := by
      simp only [List.mem_toFinset, between_iff]
    by_cases between : Between user peers one.bytes other.bytes
    · have here : bonds.join user peers.toFinset s(one, other) = .friends :=
        if_pos (isPeer.mpr between)
      rw [edges, Relationship.edge?_of_connectNew run between, if_pos between, here]
      rfl
    · have here : bonds.join user peers.toFinset s(one, other) = bonds s(one, other) :=
        if_neg fun joins => between (isPeer.mp joins)
      rw [edges, if_neg between, Option.or_none, here, describe.edge?]
  · intro source destination isThere
    by_cases between : Between user peers source destination
    · rcases between with ⟨isUser, peer, _, isPeer⟩ | ⟨isUser, peer, _, isPeer⟩
      · exact ⟨user, peer, isUser, isPeer⟩
      · exact ⟨peer, user, isPeer, isUser⟩
    · rw [edges, if_neg between, Option.or_none] at isThere
      exact describe.named _ _ isThere

end Describe

/-! ## Steps -/

/-- What an action does to a database a step does to the bonds, with the same answer in a view. -/
structure Simulates {Answer View : Type} (action : Action RelationshipError Answer)
    (view : Answer → View) (database : Database)
    (step : Except RelationshipError View × Bonds) : Prop where
  answer : (action database).1.map view = step.1
  describe : step.2.Describe (action database).2

namespace Simulates

variable {Answer View : Type} {action : Action RelationshipError Answer} {view : Answer → View}

/-- A failed action that leaves nothing behind simulates a step that fails alike. -/
theorem of_error {error : RelationshipError} (describe : bonds.Describe database)
    (allOrNothing : action.AllOrNothing) (failed : (action database).1 = .error error) :
    Simulates action view database (.error error, bonds) := by
  have unchanged : (action database).2 = database := allOrNothing (Prod.ext failed rfl)
  constructor
  · rw [failed]
    rfl
  · rw [unchanged]
    exact describe

/-- A successful action simulates a step with the same answer whose bonds describe what is left. -/
theorem of_ok {answer : Answer} (run : action database = (.ok answer, after))
    (describe : bonds.Describe after) :
    Simulates action view database (.ok (view answer), bonds) := by
  constructor
  · rw [run]
    rfl
  · rw [run]
    exact describe

/-- Whoever names themselves is refused, and anything else happens to another user. -/
theorem requireOther {verb : Verb} {step : Except RelationshipError View × Bonds}
    (describe : bonds.Describe database)
    (further : caller.id ≠ target → Simulates action.atomically view database step) :
    Simulates (Relationship.requireOther caller target verb >>= fun _ => action.atomically) view
      database (if target = caller.id then (.error (.invalid (.self verb)), bonds) else step) := by
  by_cases same : target = caller.id
  · have run : (Relationship.requireOther caller target verb >>= fun _ => action.atomically)
        database = (.error (.invalid (.self verb)), database) :=
      Action.bind_run_of_error (Relationship.requireOther_of_self same verb)
    rw [if_pos same]
    constructor
    · rw [run]
      rfl
    · rw [run]
      exact describe
  · have run : (Relationship.requireOther caller target verb >>= fun _ => action.atomically)
        database = action.atomically database :=
      Action.bind_run_of_ok (Relationship.requireOther_of_ne same verb)
    obtain ⟨answer, describes⟩ := further (Ne.symm same)
    rw [if_neg same]
    constructor
    · rw [run]
      exact answer
    · rw [run]
      exact describes

end Simulates

/-- Connecting two users simulates connecting their bond. -/
theorem simulates_connect (different : user ≠ target) (complete : database.Complete directory)
    (describe : bonds.Describe database) :
    Simulates (Relationship.connect budget user target time).atomically id database
      (bonds.connect directory user target) := by
  have allOrNothing : (Relationship.connect budget user target time).atomically.AllOrNothing :=
    .atomically _
  have forth := describe.edge? user target
  have back := describe.back user target
  unfold Bonds.connect
  cases registered : (directory.withId? target.bytes).isSome with
  | false =>
    have failed : (Relationship.connect budget user target time database).1 =
        .error (.notFound (.user target)) := by
      rw [Relationship.connect_of_unregistered complete.users registered]
    exact .of_error describe allOrNothing failed
  | true =>
    have connecting : (∀ blocker, bonds s(user, target) ≠ .blocked blocker) → ∃ after,
        Relationship.connect budget user target time database = (.ok _, after) := fun free =>
      Relationship.connect_eq_ok budget time different complete registered (describe.unblocked free)
    rw [if_pos rfl]
    cases bond : bonds s(user, target) with
    | unrelated =>
      obtain ⟨noneForth, noneBack⟩ := describe.unrelated_iff.mp bond
      obtain ⟨after, run⟩ := connecting (by rw [bond]; exact fun _ same => nomatch same)
      rw [noneForth, noneBack] at run
      exact .of_ok (Action.atomically_eq_ok_iff.mpr run) (describe.connect different run)
    | friends =>
      rw [bond] at forth
      obtain ⟨row, stored, _⟩ := Option.map_eq_some_iff.mp forth
      obtain ⟨after, run⟩ := connecting (by rw [bond]; exact fun _ same => nomatch same)
      rw [stored] at run
      -- Friends are made friends once more, which is the bond they have.
      have described := describe.connect different run
      rw [← bond, change_self] at described
      exact .of_ok (Action.atomically_eq_ok_iff.mpr run) described
    | blocked blocker =>
      rw [bond] at forth back
      have block : (database.edge? user.bytes target.bytes).map (·.code) = some blocked.code ∨
          (database.edge? target.bytes user.bytes).map (·.code) = some blocked.code := by
        rcases Sym2.mem_iff.mp blocker.property with isUser | isTarget
        · left
          rw [forth, Bond.state?_of_blocker isUser]
          rfl
        · right
          rw [back, Bond.state?_of_blocker isTarget]
          rfl
      have readable : (database.unknownCode? user target).or
          (database.unknownCode? target user) = none :=
        Option.or_eq_none_iff.mpr
          ⟨describe.known.unknownCode? user target, describe.known.unknownCode? target user⟩
      have failed : (Relationship.connect budget user target time database).1 =
          .error .blocked := by
        rw [Relationship.connect_of_block complete readable registered block]
      exact .of_error describe allOrNothing failed

/-- Adding a user simulates adding on bonds. -/
theorem simulates_add (complete : database.Complete directory)
    (describe : bonds.Describe database) :
    Simulates (Relationship.add budget caller target time) id database
      (bonds.add directory caller target) :=
  .requireOther describe fun different => simulates_connect different complete describe

/-- Adding by handle simulates adding by handle on bonds. -/
theorem simulates_addByHandle (complete : database.Complete directory) (sized : directory.Sized)
    (describe : bonds.Describe database) (handle : String) :
    Simulates (Relationship.addByHandle budget caller handle time) id database
      (bonds.addByHandle directory caller handle) := by
  have allOrNothing := Relationship.allOrNothing_addByHandle budget caller handle time
  have outcome : (Relationship.addByHandle budget caller handle time database).1 = _ :=
    Relationship.fst_addByHandle complete.users sized handle
  unfold Bonds.addByHandle
  by_cases refused : (handle.isEmpty || decide (handle = caller.handle)) = true
  · rw [if_pos refused] at outcome ⊢
    exact .of_error describe allOrNothing outcome
  rw [if_neg refused] at outcome ⊢
  cases named : directory.named? handle with
  | none =>
    rw [named] at outcome
    exact .of_error describe allOrNothing outcome
  | some target =>
    rw [named] at outcome
    obtain ⟨answer, describes⟩ : Simulates (Relationship.add budget caller target time) id database
      (bonds.add directory caller target) := simulates_add complete describe
    dsimp only at outcome ⊢
    rw [Except.map_id] at answer
    rw [← answer]
    cases run : Relationship.add budget caller target time database with
    | mk result after =>
      rw [run] at outcome describes
      cases result with
      | error error =>
        cases Relationship.allOrNothing_add budget caller target time run
        exact .of_error describes allOrNothing outcome
      | ok isNew =>
        obtain ⟨row, stored, proper⟩ := Option.bind_eq_some_iff.mp named
        obtain ⟨different, connects⟩ := Relationship.add_eq_ok_iff.mp run
        rw [Bool.or_eq_true, not_or, decide_eq_true_eq, Bool.not_eq_true] at refused
        have found : (directory.withHandle? handle).map (·.id) = some target.bytes := by
          rw [stored, Option.map_some, UserId.ofStored?_eq_some_iff.mp proper]
        exact .of_ok (Relationship.addByHandle_eq_ok_iff.mpr
          ⟨refused.1, refused.2, ⟨directory, complete.users, found⟩, different, connects⟩) describes

/-- Removing a user simulates removing on bonds. -/
theorem simulates_remove (complete : database.Complete directory)
    (describe : bonds.Describe database) :
    Simulates (Relationship.remove budget caller target time) id database
      (bonds.remove caller target) := by
  refine .requireOther describe fun different => ?_
  obtain ⟨after, run⟩ := Relationship.disconnect_eq_ok budget time different complete
  exact .of_ok (Action.atomically_eq_ok_iff.mpr run) (describe.disconnect different run)

/-- Blocking between two users simulates blocking their bond. -/
theorem simulates_bar (different : user ≠ target) (complete : database.Complete directory)
    (describe : bonds.Describe database) :
    Simulates (Relationship.bar budget user target time).atomically id database
      (bonds.bar user target) := by
  have forth := describe.edge? user target
  -- A user whom the caller does not see cannot be blocked.
  have unseen : (bonds s(user, target)).state? user = none →
      Simulates (Relationship.bar budget user target time).atomically id database
        (.error (.notFound (.relationship target)), bonds) := by
    intro invisible
    rw [invisible] at forth
    exact .of_error describe (.atomically _)
      (Relationship.bar_of_absent complete (Option.map_eq_none_iff.mp forth))
  have barring : ((bonds s(user, target)).state? user).isSome →
      ∃ after, Relationship.bar budget user target time database = (.ok (), after) := by
    intro visible
    refine Relationship.bar_eq_ok budget time different complete ?_
    rw [← Option.isSome_map (f := EdgeRow.code), forth, Option.isSome_map]
    exact visible
  unfold Bonds.bar
  cases bond : bonds s(user, target) with
  | unrelated => exact unseen (by rw [bond]; rfl)
  | friends =>
    have free : (bonds s(user, target)).state? target ≠ some blocked := by
      rw [bond]
      exact fun same => nomatch same
    obtain ⟨after, run⟩ := barring (by rw [bond]; rfl)
    exact .of_ok (Action.atomically_eq_ok_iff.mpr run) (describe.bar different run free)
  | blocked blocker =>
    dsimp only
    by_cases mine : blocker.val = user
    · have free : (bonds s(user, target)).state? target ≠ some blocked := by
        rw [bond, Bond.state?_of_other fun other => different (mine.symm.trans other)]
        exact fun same => nomatch same
      have itself : blocker = ⟨user, Sym2.mem_mk_left user target⟩ := Subtype.ext mine
      obtain ⟨after, run⟩ := barring (by rw [bond, Bond.state?_of_blocker mine]; rfl)
      -- A block is made once more, which is the bond there is.
      have described := describe.bar different run free
      rw [← itself, ← bond, change_self] at described
      rw [if_pos mine]
      exact .of_ok (Action.atomically_eq_ok_iff.mpr run) described
    · rw [if_neg mine]
      exact unseen (by rw [bond, Bond.state?_of_other mine])

/-- Blocking a user simulates blocking on bonds. -/
theorem simulates_block (complete : database.Complete directory)
    (describe : bonds.Describe database) :
    Simulates (Relationship.block budget caller target time) id database
      (bonds.block caller target) :=
  .requireOther describe fun different => simulates_bar different complete describe

/-! ## Lists and imports -/

/-- The friends whom the edges list are those whom the bonds list. -/
theorem toFinset_listed (describe : bonds.Describe database) {edges : Table EdgeRow}
    (present : database.edges = some edges) :
    ((Statement.listed user directory edges).filterMap Store.friend?).toFinset =
      bonds.list directory user := by
  ext friend
  simp only [Bonds.list, List.mem_toFinset, List.mem_filterMap, Statement.listed,
    Statement.leaving, List.mem_mergeSort, List.mem_filter, decide_eq_true_eq,
    Option.map_eq_some_iff, ← Database.edgeRows_of_edges present]
  constructor
  · rintro ⟨_, ⟨edge, ⟨member, source⟩, peer, found, rfl⟩, isRead⟩
    obtain ⟨id, proper, stated⟩ := Option.bind_eq_some_iff.mp isRead
    obtain ⟨state, known, rfl⟩ := Option.map_eq_some_iff.mp stated
    obtain ⟨registered, isPeer⟩ := Directory.withId?_eq_some_iff.mp found
    have named : edge.destination = id.bytes :=
      isPeer.symm.trans (UserId.ofStored?_eq_some_iff.mp proper).symm
    have seen := describe.edge? user id
    rw [Database.edge?_eq_some_iff.mpr ⟨member, source, named⟩, Option.map_some, eq_comm,
      Option.map_eq_some_iff] at seen
    obtain ⟨sight, visible, coded⟩ := seen
    rw [← coded, EdgeState.ofCode?_code] at known
    cases known
    refine ⟨peer, registered, ?_⟩
    rw [proper, Option.bind_some, visible, Option.map_some]
  · rintro ⟨row, member, visible⟩
    obtain ⟨id, proper, seen⟩ := Option.bind_eq_some_iff.mp visible
    obtain ⟨state, sight, rfl⟩ := Option.map_eq_some_iff.mp seen
    have named : id.bytes = row.id := UserId.ofStored?_eq_some_iff.mp proper
    have isThere := describe.edge? user id
    rw [sight, Option.map_some, Option.map_eq_some_iff] at isThere
    obtain ⟨edge, stored, coded⟩ := isThere
    obtain ⟨leaves, source, destination⟩ := Database.edge?_eq_some_iff.mp stored
    refine ⟨(row, edge.code), ⟨edge, ⟨leaves, source⟩, row, ?_, rfl⟩, ?_⟩
    · exact Directory.withId?_eq_some_iff.mpr ⟨member, named.symm.trans destination.symm⟩
    · rw [Store.friend?, proper, Option.bind_some, coded, EdgeState.ofCode?_code, Option.map_some]

/-- A list shows, in some order, what the bonds list. -/
theorem simulates_list (complete : database.Complete directory) (sized : directory.Sized)
    (describe : bonds.Describe database) :
    Simulates (Relationship.list user) List.toFinset database
      (.ok (bonds.list directory user), bonds) := by
  obtain ⟨edges, present⟩ := Option.isSome_iff_exists.mp complete.edges
  rw [← toFinset_listed describe present]
  exact .of_ok (Relationship.list_eq_ok complete sized describe.known present) describe

/-- The newcomers of an import are those of the bonds. -/
theorem toFinset_newcomers (describe : bonds.Describe database) {edges : Table EdgeRow}
    (present : database.edges = some edges) (budget : Budget) (accounts : List String) :
    (Relationship.newcomers budget user accounts directory edges).toFinset =
      bonds.newcomers directory user accounts := by
  ext peer
  rw [List.mem_toFinset, Relationship.mem_newcomers present, Bonds.newcomers, Finset.mem_filter]
  constructor
  · rintro ⟨other, owns, forth, back⟩
    have ⟨row, registered, named, _⟩ := owns
    exact ⟨Directory.mem_members.mpr ⟨row, registered, named⟩, other, owns,
      describe.unrelated_iff.mpr ⟨forth, back⟩⟩
  · rintro ⟨_, other, owns, unrelated⟩
    obtain ⟨forth, back⟩ := describe.unrelated_iff.mp unrelated
    exact ⟨other, owns, forth, back⟩

/-- An import simulates an import on bonds. -/
theorem simulates_importContacts (complete : database.Complete directory)
    (sized : directory.Sized) (describe : bonds.Describe database)
    (fetched : Except ContactsError (List Contact)) :
    Simulates (Relationship.importContacts budget caller fetched time) List.toFinset database
      (bonds.importContacts directory caller.id fetched) := by
  cases fetched with
  | error error =>
    exact .of_error describe (Relationship.allOrNothing_importContacts ..) rfl
  | ok contacts =>
    obtain ⟨edges, present⟩ := Option.isSome_iff_exists.mp complete.edges
    obtain ⟨after, run⟩ := Relationship.connectNew_eq_ok budget caller.id (contacts.map (·.id)) time
      complete.users sized present complete.counters
    have described := describe.join run
    rw [toFinset_newcomers describe present] at described
    unfold Bonds.importContacts
    dsimp only
    rw [← toFinset_newcomers describe present budget] at described ⊢
    exact .of_ok (Relationship.importContacts_eq_ok_iff.mpr ⟨contacts, rfl, run⟩) described

/-! ## Calls -/

/-- A call whose action simulates a step answers like it and describes the same bonds. -/
theorem Simulates.change {State Answer View : Type} {service : Service State}
    {action : Action RelationshipError Answer} {view : Answer → View}
    {step : Except RelationshipError View × Bonds} {answered : View → BondAnswer}
    {next : Answer → Service State → Outcome × Service State}
    (simulates : Simulates action view service.database step)
    (outcome : ∀ answer later, (next answer later).1.bondAnswer = answered (view answer))
    (kept : ∀ answer later, (next answer later).2.database = later.database) :
    (service.change action next).1.map Outcome.bondAnswer = step.1.map answered ∧
      step.2.Describe (service.change action next).2.database := by
  obtain ⟨answer, describes⟩ := simulates
  unfold Service.change
  cases run : action service.database with
  | mk result after =>
    rw [run] at answer describes
    rw [← answer]
    cases result with
    | error error => exact ⟨rfl, describes⟩
    | ok found =>
      constructor
      · exact congrArg Except.ok (outcome found _)
      · rw [kept]
        exact describes

variable {State : Type} [Sender State] {service : Service State}

/-- A call answers as on the bonds that the database describes, and describes what they become. -/
theorem simulates_serve (complete : service.database.Complete directory) (sized : directory.Sized)
    (describe : bonds.Describe service.database) (call : Call) :
    (service.serve call).1.map Outcome.bondAnswer = (bonds.serve directory call).1 ∧
      (bonds.serve directory call).2.Describe (service.serve call).2.database := by
  obtain ⟨terms, occasion, caller, operation⟩ := call
  cases operation with
  | add target =>
    exact (simulates_add complete describe).change (fun _ _ => rfl) fun _ _ => rfl
  | addByHandle handle =>
    exact (simulates_addByHandle complete sized describe handle).change (fun _ _ => rfl)
      fun _ _ => rfl
  | remove target =>
    exact (simulates_remove complete describe).change (fun _ _ => rfl) fun _ _ => rfl
  | block target =>
    exact (simulates_block complete describe).change (fun _ _ => rfl) fun _ _ => rfl
  | list =>
    exact (simulates_list complete sized describe).change (fun _ _ => rfl) fun _ _ => rfl
  | importContacts externalId fetched =>
    exact (simulates_importContacts complete sized describe fetched).change (fun _ _ => rfl)
      fun _ _ => rfl

/-- A run is described by the bonds that go through the same calls. -/
theorem describe_serveAll (calls : List Call) (complete : service.database.Complete directory)
    (sized : directory.Sized) (describe : bonds.Describe service.database) :
    (service.serveAll calls).database.Complete directory ∧
      (bonds.serveAll directory calls).Describe (service.serveAll calls).database := by
  induction calls generalizing service bonds with
  | nil => exact ⟨complete, describe⟩
  | cons call rest inductionHypothesis =>
    exact inductionHypothesis (Service.complete_serve complete call)
      (simulates_serve complete sized describe call).2

/-! ## Counters -/

/-- A user has as many destinations as outgoing edges. -/
theorem length_destinations (describe : bonds.Describe database) (user : UserId) :
    (database.destinations user).length = database.outgoing user.bytes := by
  rw [Database.outgoing, List.countP_eq_length_filter, Database.destinations,
    List.filterMap_length_eq_length]
  intro row member
  have stored := Database.edge?_eq_some_iff.mpr ⟨(List.mem_filter.mp member).1, rfl, rfl⟩
  obtain ⟨_, other, _, isOther⟩ := describe.named _ _ (Option.isSome_of_eq_some stored)
  rw [isOther, UserId.ofStored?_bytes]
  rfl

/-- As many edges leave a user as there are others whom they see. -/
theorem outgoing_eq_card (describe : bonds.Describe database) {edges : Table EdgeRow}
    (present : database.edges = some edges) (user : UserId) :
    ∃ seen : Finset UserId, (∀ peer, peer ∈ seen ↔ bonds.Sees user peer) ∧
      database.outgoing user.bytes = seen.card := by
  refine ⟨(database.destinations user).toFinset, fun peer => ?_, ?_⟩
  · rw [List.mem_toFinset, Database.mem_destinations, ← Option.isSome_map (f := EdgeRow.code),
      describe.edge?, Option.isSome_map, Sees]
  · rw [List.toFinset_card_of_nodup (Database.nodup_destinations present user),
      length_destinations describe]

end Bonds

namespace Service

variable {State : Type} [Sender State] {directory : Directory}

/-- **Two edges stand for one bond.** A run that starts with nobody related answers call by call
like the same run on bonds, failures and their causes included; after it every edge is in the
state in which the bonds let its source see its destination, and the counter of a user is the
number of those whom they see. -/
theorem bonds_simulate (service : Service State) (calls : List Call)
    (users : service.database.users = some directory) (sized : directory.Sized)
    (edges : service.database.edges = some .empty)
    (counters : service.database.counters = some .empty) :
    let reached := service.serveAll calls
    let bonds := Bonds.strangers.serveAll directory calls
    (∀ call, (reached.serve call).1.map Outcome.bondAnswer = (bonds.serve directory call).1) ∧
      bonds.Describe reached.database ∧
      ∀ user : UserId, ∃ seen : Finset UserId, (∀ peer, peer ∈ seen ↔ bonds.Sees user peer) ∧
        reached.database.tally user.bytes = seen.card := by
  intro reached bonds
  obtain ⟨start, unrelated⟩ := Database.Complete.of_empty users edges counters
  obtain ⟨complete, describe⟩ :=
    Bonds.describe_serveAll calls start sized (Bonds.describe_strangers unrelated.edges)
  refine ⟨fun call => (Bonds.simulates_serve complete sized describe call).1, describe, ?_⟩
  intro user
  obtain ⟨_, present⟩ := Option.isSome_iff_exists.mp complete.edges
  obtain ⟨seen, isSeen, outgoing⟩ := Bonds.outgoing_eq_card describe present user
  have still := drift_serveAll calls unrelated user.bytes
  rw [Database.drift, outgoing, Int.sub_eq_zero] at still
  exact ⟨seen, isSeen, still⟩

/-- Two strangers become friends, one of them blocks the other, who then cannot come back. -/
theorem bonds_simulate_pair :
    let calls := [Pair.call 5 (.add Pair.bob), Pair.call 6 (.block Pair.bob)]
    let reached := Pair.strangers.serveAll calls
    let bonds := Bonds.strangers.serveAll Pair.directory calls
    let back : Call := { Pair.call 7 (.add Pair.ada) with caller := ⟨Pair.bob, "bob"⟩ }
    (bonds s(Pair.ada, Pair.bob)).state? Pair.ada = some blocked ∧
      (bonds s(Pair.ada, Pair.bob)).state? Pair.bob = none ∧
      (reached.serve back).1.map Outcome.bondAnswer = .error .blocked := by
  intro calls reached bonds back
  obtain ⟨same, _⟩ := bonds_simulate Pair.strangers calls rfl (by decide) rfl rfl
  have isBlocked : ∀ pair, pair = s(Pair.ada, Pair.bob) →
      ∃ blocker, bonds pair = .blocked blocker := by
    rintro _ rfl
    exact ⟨_, rfl⟩
  obtain ⟨blocker, found⟩ := isBlocked s(Pair.bob, Pair.ada) Sym2.eq_swap
  have refused : (bonds.serve Pair.directory back).1 = .error .blocked := by
    change (bonds.add Pair.directory ⟨Pair.bob, "bob"⟩ Pair.ada).1.map _ = _
    rw [Bonds.add, if_neg (by decide), Bonds.connect, if_pos (by decide), found]
    rfl
  exact ⟨rfl, rfl, (same back).trans refused⟩

end Service

end FriendGraph
