import FriendGraph.Proofs.Store
import FriendGraph.Relationship

/-! # Lists of friends

The friends of a user are read off the users and the edges that leave the user, in order; no other
edge matters, and no counter (`Relationship.list_congr_leaving`). A list comes out exactly when
every registered friend can be read, and then it is what is read off the edges one by one
(`Relationship.list_eq_ok_iff`).
-/

namespace FriendGraph

namespace Store

variable {database after : Database} {directory : Directory} {edges : Table EdgeRow}
  {user : UserId}

/-- A listed user as a friend, if the identifier and the state can be read. -/
def friend? (listed : UserRow × Int) : Option Friend :=
  (UserId.ofStored? listed.1.id).bind fun id =>
    (EdgeState.ofCode? listed.2).map fun state => ⟨listed.1.profile id, state⟩

/-- The friend to whom an edge leads, if they are registered and can be read. -/
def friendAt? (directory : Directory) (row : EdgeRow) : Option Friend :=
  (directory.withId? row.destination).bind fun peer => friend? (peer, row.code)

/-- If an edge leads to a registered user, they can be read. -/
def Legible (directory : Directory) (row : EdgeRow) : Prop :=
  ∀ peer, directory.withId? row.destination = some peer → (friend? (peer, row.code)).isSome

/-- A friend is shown under the identifier to which the edge leads. -/
theorem id_of_friendAt? {row : EdgeRow} {friend : Friend}
    (shown : friendAt? directory row = some friend) :
    friend.profile.id.bytes = row.destination := by
  obtain ⟨peer, registered, read⟩ := Option.bind_eq_some_iff.mp shown
  obtain ⟨id, proper, stated⟩ := Option.bind_eq_some_iff.mp read
  obtain ⟨state, _, rfl⟩ := Option.map_eq_some_iff.mp stated
  have isPeer : peer.id = row.destination := by simpa using List.find?_some registered
  exact (UserId.ofStored?_eq_some_iff.mp proper).trans isPeer

/-- Whoever can be read can be read in another state as well. -/
theorem friend?_of_code {peer : UserRow} {code : Int} (state : EdgeState)
    (readable : (friend? (peer, code)).isSome) :
    friend? (peer, state.code) =
      (friend? (peer, code)).map fun friend => { friend with state := state } := by
  obtain ⟨friend, read⟩ := Option.isSome_iff_exists.mp readable
  obtain ⟨id, proper, stated⟩ := Option.bind_eq_some_iff.mp read
  obtain ⟨old, _, rfl⟩ := Option.map_eq_some_iff.mp stated
  rw [read, friend?, proper, Option.bind_some, EdgeState.ofCode?_code, Option.map_some,
    Option.map_some]

/-- A row can be read with the code of any state. -/
theorem Legible.withCode {row : EdgeRow} (legible : Legible directory row) (state : EdgeState)
    (time : Int) : Legible directory (row.withCode state.code time) := by
  intro peer registered
  change (friend? (peer, state.code)).isSome
  rw [friend?_of_code state (legible peer registered), Option.isSome_map]
  exact legible peer registered

/-- An edge that is given another state shows the same friend in that state. -/
theorem friendAt?_withCode {row : EdgeRow} (legible : Legible directory row) (state : EdgeState)
    (time : Int) :
    friendAt? directory (row.withCode state.code time) =
      (friendAt? directory row).map fun friend => { friend with state := state } := by
  change (directory.withId? row.destination).bind (fun peer => friend? (peer, state.code)) = _
  unfold friendAt?
  cases registered : directory.withId? row.destination with
  | none => rfl
  | some peer => exact friend?_of_code state (legible peer registered)

theorem detached_decodeFriend (listed : UserRow × Int) : (decodeFriend listed).Detached := by
  have id : (decodeId listed.1.id).Detached := by
    unfold decodeId
    split
    · exact Action.Detached.pure _
    · exact Action.Detached.fail _
  have state : (decodeState listed.2).Detached := by
    unfold decodeState
    split
    · exact Action.Detached.pure _
    · exact Action.Detached.fail _
  exact id.bind fun _ => state.bind fun _ => Action.Detached.pure _

/-- A state is read exactly from its own code. -/
theorem decodeState_eq_ok_iff {code : Int} {state : EdgeState} :
    decodeState code database = (.ok state, after) ↔
      EdgeState.ofCode? code = some state ∧ after = database := by
  unfold decodeState
  cases EdgeState.ofCode? code with
  | none => simp
  | some known => simp [eq_comm]

/-- A friend is read exactly when its row is one. -/
theorem decodeFriend_eq_ok_iff {listed : UserRow × Int} {friend : Friend} :
    decodeFriend listed database = (.ok friend, after) ↔
      friend? listed = some friend ∧ after = database := by
  simp only [decodeFriend, Action.bind_eq_ok_iff, decodeId_eq_ok_iff, decodeState_eq_ok_iff,
    Action.pure_eq_ok_iff, friend?, Option.bind_eq_some_iff, Option.map_eq_some_iff,
    UserId.ofStored?_eq_some_iff]
  constructor
  · rintro ⟨id, _, ⟨proper, rfl⟩, state, _, ⟨known, rfl⟩, rfl, rfl⟩
    exact ⟨⟨id, proper, state, known, rfl⟩, rfl⟩
  · rintro ⟨⟨id, proper, state, known, rfl⟩, rfl⟩
    exact ⟨id, _, ⟨proper, rfl⟩, state, _, ⟨known, rfl⟩, rfl, rfl⟩

/-- The rows of a list are asked for successfully exactly when both tables are there. -/
theorem listing_eq_ok_iff {listed : List (UserRow × Int)} :
    (Statement.listing user).run database = (.ok listed, after) ↔
      ∃ directory edges, database.users = some directory ∧ database.edges = some edges ∧
        listed = Statement.listed user directory edges ∧ after = database := by
  simp only [Statement.run]
  cases database.users <;> cases database.edges <;> simp [eq_comm]

/-- Friends are listed when all of them can be read. -/
theorem listFriends_eq_ok_iff {friends : List Friend} :
    listFriends user database = (.ok friends, after) ↔
      ∃ directory edges, database.users = some directory ∧ database.edges = some edges ∧
        (∀ listed ∈ Statement.listed user directory edges, (friend? listed).isSome) ∧
        friends = (Statement.listed user directory edges).filterMap friend? ∧
        after = database := by
  have reads : ∀ listed database friend after, decodeFriend listed database = (.ok friend, after) ↔
      friend? listed = some friend ∧ after = database :=
    fun _ _ _ _ => decodeFriend_eq_ok_iff
  simp only [listFriends, Action.bind_eq_ok_iff, listing_eq_ok_iff, Action.mapM_eq_ok_iff reads]
  constructor
  · rintro ⟨_, _, ⟨directory, edges, users, present, rfl, rfl⟩, read⟩
    exact ⟨directory, edges, users, present, read⟩
  · rintro ⟨directory, edges, users, present, read⟩
    exact ⟨_, _, ⟨directory, edges, users, present, rfl, rfl⟩, read⟩

/-- The outcome of listing depends on the edges that leave the user alone. -/
theorem listFriends_congr (users : after.users = database.users)
    (edges : after.edges.map (Statement.leaving user) =
      database.edges.map (Statement.leaving user)) :
    (listFriends user after).1 = (listFriends user database).1 := by
  obtain ⟨outcome, asked, askedAfter⟩ : ∃ outcome,
      (Statement.listing user).run database = (outcome, database) ∧
        (Statement.listing user).run after = (outcome, after) := by
    simp only [Statement.run, users]
    cases present : database.edges with
    | none =>
      rw [present, Option.map_none, Option.map_eq_none_iff] at edges
      rw [edges]
      cases database.users <;> exact ⟨_, rfl, rfl⟩
    | some table =>
      rw [present, Option.map_some, Option.map_eq_some_iff] at edges
      obtain ⟨tableAfter, presentAfter, same⟩ := edges
      rw [presentAfter]
      cases database.users with
      | none => exact ⟨_, rfl, rfl⟩
      | some directory =>
        have listed : Statement.listed user directory tableAfter =
            Statement.listed user directory table :=
          congrArg (List.filterMap _) same
        exact ⟨_, rfl, congrArg (fun listed => (Except.ok listed, after)) listed⟩
  rw [listFriends]
  cases outcome with
  | error error => rw [Action.bind_run_of_error asked, Action.bind_run_of_error askedAfter]
  | ok listed =>
    obtain ⟨friends, reading⟩ := Action.Detached.mapM detached_decodeFriend listed
    rw [Action.bind_run_of_ok asked, Action.bind_run_of_ok askedAfter, reading, reading]

end Store

namespace Relationship

variable {database after : Database} {user : UserId}

/-- The list of a user depends on the users and on the edges that leave the user alone. -/
theorem list_congr_leaving (users : after.users = database.users)
    (edges : after.edges.map (Statement.leaving user) =
      database.edges.map (Statement.leaving user)) :
    (list user after).1 = (list user database).1 := by
  have lifted : ∀ database, (list user database).1 =
      (Store.listFriends user database).1.mapError RelationshipError.storage := fun _ => rfl
  rw [lifted, lifted, Store.listFriends_congr users edges]

/-- A list depends on users and edges only. -/
theorem list_congr (users : after.users = database.users)
    (edges : after.edges = database.edges) (user : UserId) :
    (list user after).1 = (list user database).1 :=
  list_congr_leaving users (by rw [edges])

/-- The list of a user is read off the edges that leave the user in order, when all of them can be
read. -/
theorem list_eq_ok_iff {friends : List Friend} :
    (list user database).1 = .ok friends ↔
      ∃ directory edges, database.users = some directory ∧ database.edges = some edges ∧
        (∀ row ∈ Statement.leaving user edges, Store.Legible directory row) ∧
        friends = (Statement.leaving user edges).filterMap (Store.friendAt? directory) := by
  have quiet : (Store.listFriends user database).2 = database := Store.quiet_listFriends user _
  have lifted : list user database = (.ok friends, database) ↔
      Store.listFriends user database = (.ok friends, database) := Action.mapError_eq_ok_iff
  have run : (list user database).1 = .ok friends ↔
      Store.listFriends user database = (.ok friends, database) := by
    rw [← lifted]
    exact ⟨fun listed => Prod.ext listed quiet, fun listed => congrArg Prod.fst listed⟩
  rw [run, Store.listFriends_eq_ok_iff]
  refine exists_congr fun directory => exists_congr fun edges => and_congr_right fun _ =>
    and_congr_right fun _ => and_congr ?_ ?_
  · simp only [Statement.listed, List.forall_mem_filterMap, Option.map_eq_some_iff, Store.Legible,
      forall_exists_index, and_imp, forall_apply_eq_imp_iff₂]
  · rw [Statement.listed, List.filterMap_filterMap]
    simp only [Option.bind_map, and_true]
    rfl

end Relationship

end FriendGraph
