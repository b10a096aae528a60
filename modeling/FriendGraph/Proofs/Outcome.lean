import FriendGraph.Proofs.Import
import FriendGraph.Proofs.PairShape

/-! # Outcomes where all tables are there

Where all tables are there, every user is stored under a proper identifier and every state can be
read, the outcome of a call is decided by the two edges between its users. Whatever fails then
fails for a reason that the caller can see: a request that is invalid, somebody or something that
is not found, a block, or contacts that could not be fetched. A run that starts without edges
stays among such databases, so no call of it ever meets a failure of the storage.
-/

namespace FriendGraph

open EdgeState (connected blocked)

namespace Database

variable {database : Database} {directory : Directory}

/-- All tables are there, the users being those of a directory. -/
structure Complete (directory : Directory) (database : Database) : Prop where
  users : database.users = some directory
  edges : database.edges.isSome
  counters : database.counters.isSome

/-- A database with empty tables of edges and counters. -/
theorem Complete.of_empty (users : database.users = some directory)
    (edges : database.edges = some .empty) (counters : database.counters = some .empty) :
    database.Complete directory ∧ database.Unrelated := by
  have noCounters : database.counterRows = [] := by
    rw [counterRows, counters]
    rfl
  exact ⟨⟨users, by rw [edges]; rfl, by rw [counters]; rfl⟩, edgeRows_of_edges edges, noCounters⟩

/-- The state of every edge can be read. -/
def Known (database : Database) : Prop :=
  ∀ row ∈ database.edgeRows, (EdgeState.ofCode? row.code).isSome

/-- Where every pair has one of its shapes all codes are known. -/
theorem Paired.known (paired : database.Paired) : database.Known := by
  intro row member
  have stored := edge?_eq_some_iff.mpr ⟨member, rfl, rfl⟩
  have apart : row.source ≠ row.destination := by
    intro same
    have loop := paired.loopless row.source
    rw [same] at stored loop
    cases stored.symm.trans loop
  obtain ⟨shape, stand⟩ := paired.shaped _ _ apart
  cases shape with
  | unrelated => cases stored.symm.trans stand.1
  | friends =>
    obtain ⟨_, forth, _⟩ := stand
    rw [Option.some.inj (stored.symm.trans forth)]
    rfl
  | blocking =>
    obtain ⟨⟨_, forth, isBlock⟩, _⟩ := stand
    cases stored.symm.trans forth
    rw [isBlock]
    rfl
  | blockedBy => cases stored.symm.trans stand.1

/-- The code of the edge from one user to another, if it has no meaning. -/
def unknownCode? (database : Database) (source destination : UserId) : Option Int :=
  ((database.edge? source.bytes destination.bytes).map (·.code)).filter fun code =>
    code ≠ connected.code ∧ code ≠ blocked.code

/-- The unknown code between two users is that of a row that cannot be read. -/
theorem unknownCode?_eq_some_iff {source destination : UserId} {code : Int} :
    database.unknownCode? source destination = some code ↔
      ∃ row, database.edge? source.bytes destination.bytes = some row ∧ row.code = code ∧
        EdgeState.ofCode? row.code = none := by
  simp only [unknownCode?, Option.filter_eq_some_iff, Option.map_eq_some_iff, decide_eq_true_eq,
    EdgeState.ofCode?_eq_none_iff]
  grind

/-- There is no unknown code exactly when the row, if there is one, can be read. -/
theorem unknownCode?_eq_none_iff {source destination : UserId} :
    database.unknownCode? source destination = none ↔
      ∀ row, database.edge? source.bytes destination.bytes = some row →
        (EdgeState.ofCode? row.code).isSome := by
  rw [Option.eq_none_iff_forall_ne_some]
  simp only [ne_eq, unknownCode?_eq_some_iff, Option.isSome_iff_ne_none]
  grind

/-- Where all codes are known, none is unknown. -/
theorem Known.unknownCode? (known : database.Known) (source destination : UserId) :
    database.unknownCode? source destination = none :=
  unknownCode?_eq_none_iff.mpr fun row stored => known row (edge?_eq_some_iff.mp stored).1

end Database

/-- The user who has a handle, under a proper identifier. -/
def Directory.named? (handle : String) (directory : Directory) : Option UserId :=
  (directory.withHandle? handle).bind fun row => UserId.ofStored? row.id

namespace Relationship

variable {database : Database} {directory : Directory} {budget : Budget} {user target : UserId}
  {time : Int} {caller : Caller} {edges : Table EdgeRow} {Answer : Type}

/-! ## Connecting -/

/-- A blocked edge is one whose state says so. -/
theorem isBlock_iff {found : Option Edge} :
    isBlock found = true ↔ found.map (·.state) = some blocked := by
  cases found <;> simp [isBlock]

/-- An edge whose code has a meaning can be read. -/
theorem getEdge_eq_ok (present : database.edges = some edges) {source destination : UserId}
    (readable : database.unknownCode? source destination = none) :
    ∃ found, Store.getEdge source destination database = (.ok found, database) ∧
      (isBlock found = true ↔
        (database.edge? source.bytes destination.bytes).map (·.code) = some blocked.code) := by
  rw [Database.edge?_of_edges present]
  cases stored : edges.find? (source.bytes, destination.bytes) with
  | none =>
    refine ⟨none, Store.getEdge_eq_ok_iff.mpr ⟨edges, present, by rw [stored]; rfl, rfl⟩, ?_⟩
    simp [isBlock]
  | some row =>
    rw [← Database.edge?_of_edges present] at stored
    obtain ⟨state, meaning⟩ := Option.isSome_iff_exists.mp
      (Database.unknownCode?_eq_none_iff.mp readable row stored)
    rw [Database.edge?_of_edges present] at stored
    refine ⟨some ⟨source, destination, row.position, row.updatedAt, state⟩,
      Store.getEdge_eq_ok_iff.mpr ⟨edges, present, ?_, rfl⟩, ?_⟩
    · rw [stored, Option.map_some, Option.map_some, Store.decodeEdge?, meaning, Option.map_some]
    · rw [isBlock_iff, Option.map_some, Option.map_some,
        EdgeState.ofCode?_eq_some_iff.mp meaning]
      cases state <;> simp [EdgeState.code]

/-- Reading an edge whose code has no meaning fails with the code. -/
theorem getEdge_of_unknown (present : database.edges = some edges) {source destination : UserId}
    {code : Int} (unknown : database.unknownCode? source destination = some code) :
    Store.getEdge source destination database =
      (.error (.unknownEdgeState code), database) := by
  obtain ⟨row, stored, rfl, meaningless⟩ := Database.unknownCode?_eq_some_iff.mp unknown
  rw [Database.edge?_of_edges present] at stored
  have asked : (Statement.edge source destination).run database = (.ok (some row), database) :=
    Statement.askEdges_eq_ok_iff.mpr ⟨edges, present, stored.symm, rfl⟩
  rw [Store.getEdge, Action.bind_run_of_ok asked]
  have failed : Store.decodeState row.code database =
      (.error (.unknownEdgeState row.code), database) := by
    rw [Store.decodeState, meaningless]
    rfl
  exact Action.bind_run_of_error failed

/-- Whether a user is registered is answered from the directory. -/
theorem isRegistered_eq_ok (users : database.users = some directory) (target : UserId) :
    (liftM (Store.isRegistered target) : Action RelationshipError Bool) database =
      (.ok (directory.withId? target.bytes).isSome, database) :=
  liftM_eq_ok_iff.mpr (Store.isRegistered_eq_ok_iff.mpr ⟨directory, users, rfl, rfl⟩)

/-- Nobody can be connected with a user who is not registered. -/
theorem connect_of_unregistered (users : database.users = some directory)
    (unregistered : (directory.withId? target.bytes).isSome = false) :
    connect budget user target time database = (.error (.notFound (.user target)), database) := by
  have asked := isRegistered_eq_ok users target
  rw [unregistered] at asked
  rw [connect, Action.bind_run_of_ok asked]
  rfl

/-- An edge between the two that cannot be read ends the attempt to connect them. The edge to the
target is read first, whatever the other one is. -/
theorem connect_of_unknown (complete : database.Complete directory)
    (registered : (directory.withId? target.bytes).isSome) {code : Int}
    (unknown : (database.unknownCode? user target).or (database.unknownCode? target user) =
      some code) :
    connect budget user target time database =
      (.error (.storage (.unknownEdgeState code)), database) := by
  have asked := isRegistered_eq_ok complete.users target
  rw [registered] at asked
  obtain ⟨edges, present⟩ := Option.isSome_iff_exists.mp complete.edges
  rw [connect, Action.bind_run_of_ok asked]
  simp only [Bool.not_true, Bool.false_eq_true, ↓reduceIte]
  cases forth : database.unknownCode? user target with
  | some strange =>
    rw [forth, Option.some_or] at unknown
    cases unknown
    exact Action.bind_run_of_error (liftM_eq_error (getEdge_of_unknown present forth))
  | none =>
    rw [forth, Option.none_or] at unknown
    obtain ⟨outgoing, readOutgoing, _⟩ := getEdge_eq_ok present forth
    rw [Action.bind_run_of_ok (liftM_eq_ok_iff.mpr readOutgoing)]
    exact Action.bind_run_of_error (liftM_eq_error (getEdge_of_unknown present unknown))

/-- Nobody is connected past a block, whoever of the two it is by. -/
theorem connect_of_block (complete : database.Complete directory)
    (readable : (database.unknownCode? user target).or (database.unknownCode? target user) = none)
    (registered : (directory.withId? target.bytes).isSome)
    (block : (database.edge? user.bytes target.bytes).map (·.code) = some blocked.code ∨
      (database.edge? target.bytes user.bytes).map (·.code) = some blocked.code) :
    connect budget user target time database = (.error .blocked, database) := by
  obtain ⟨edges, present⟩ := Option.isSome_iff_exists.mp complete.edges
  obtain ⟨forth, back⟩ := Option.or_eq_none_iff.mp readable
  have asked := isRegistered_eq_ok complete.users target
  obtain ⟨outgoing, readOutgoing, blocksForth⟩ := getEdge_eq_ok present forth
  obtain ⟨incoming, readIncoming, blocksBack⟩ := getEdge_eq_ok present back
  have isBlocked : (isBlock outgoing || isBlock incoming) = true := by
    rw [Bool.or_eq_true]
    exact block.imp blocksForth.mpr blocksBack.mpr
  rw [registered] at asked
  rw [connect, Action.bind_run_of_ok asked]
  simp only [Bool.not_true, Bool.false_eq_true, ↓reduceIte]
  rw [Action.bind_run_of_ok (liftM_eq_ok_iff.mpr readOutgoing),
    Action.bind_run_of_ok (liftM_eq_ok_iff.mpr readIncoming), if_pos isBlocked]
  rfl

/-- Connecting with a registered user succeeds where neither has blocked the other, and says whether
there was no edge at all. -/
theorem connect_eq_ok (budget : Budget) (time : Int) (different : user ≠ target)
    (complete : database.Complete directory)
    (registered : (directory.withId? target.bytes).isSome)
    (unblocked : ∀ source destination, Between user [target] source destination →
      ∀ row, database.edge? source destination = some row → row.code = connected.code) :
    ∃ after, connect budget user target time database =
      (.ok ((database.edge? user.bytes target.bytes).isNone &&
        (database.edge? target.bytes user.bytes).isNone), after) := by
  obtain ⟨edges, present⟩ := Option.isSome_iff_exists.mp complete.edges
  have forth : Between user [target] user.bytes target.bytes :=
    between_singleton_iff.mpr (.inl ⟨rfl, rfl⟩)
  simp only [Database.edge?_of_edges present] at unblocked ⊢
  refine ⟨_, (connect_eq_ok_iff different).mpr ⟨directory, edges, complete.users, present,
    registered, unblocked _ _ forth, unblocked _ _ forth.symm, .inr complete.counters, ?_, rfl⟩⟩
  simp only [Table.has, Option.not_isSome]

/-- An edge that can be read and is no block is connected. -/
theorem code_of_unblocked {source destination : UserId}
    (readable : database.unknownCode? source destination = none)
    (unblocked : (database.edge? source.bytes destination.bytes).map (·.code) ≠ some blocked.code)
    {row : EdgeRow} (stored : database.edge? source.bytes destination.bytes = some row) :
    row.code = connected.code := by
  obtain ⟨state, meaning⟩ := Option.isSome_iff_exists.mp
    (Database.unknownCode?_eq_none_iff.mp readable row stored)
  have coded := EdgeState.ofCode?_eq_some_iff.mp meaning
  cases state with
  | connected => exact coded
  | blocked =>
    rw [stored, Option.map_some, coded] at unblocked
    exact absurd rfl unblocked

/-- What an attempt to connect two users comes to: first the target has to be registered, then both
edges have to be readable, and then none of them may be a block. -/
theorem fst_connect (budget : Budget) (time : Int) (different : user ≠ target)
    (complete : database.Complete directory) :
    (connect budget user target time database).1 =
      if (directory.withId? target.bytes).isSome then
        match (database.unknownCode? user target).or (database.unknownCode? target user) with
        | some code => .error (.storage (.unknownEdgeState code))
        | none =>
          if (database.edge? user.bytes target.bytes).map (·.code) = some blocked.code ∨
              (database.edge? target.bytes user.bytes).map (·.code) = some blocked.code then
            .error .blocked
          else .ok ((database.edge? user.bytes target.bytes).isNone &&
            (database.edge? target.bytes user.bytes).isNone)
      else .error (.notFound (.user target)) := by
  cases registered : (directory.withId? target.bytes).isSome with
  | false =>
    rw [connect_of_unregistered complete.users registered]
    rfl
  | true =>
    rw [if_pos rfl]
    cases readable : (database.unknownCode? user target).or (database.unknownCode? target user) with
    | some code => rw [connect_of_unknown complete registered readable]
    | none =>
      dsimp only
      split
      · next block => rw [connect_of_block complete readable registered block]
      · next unblocked =>
        obtain ⟨forth, back⟩ := Option.or_eq_none_iff.mp readable
        obtain ⟨unblockedForth, unblockedBack⟩ := not_or.mp unblocked
        have connectable : ∀ source destination, Between user [target] source destination →
            ∀ row, database.edge? source destination = some row → row.code = connected.code := by
          intro source destination between row stored
          rcases between_singleton_iff.mp between with ⟨rfl, rfl⟩ | ⟨rfl, rfl⟩
          · exact code_of_unblocked forth unblockedForth stored
          · exact code_of_unblocked back unblockedBack stored
        obtain ⟨after, run⟩ :=
          connect_eq_ok budget time different complete registered connectable
        rw [run]

/-! ## Disconnecting and barring -/

/-- Disconnecting two users always succeeds. -/
theorem disconnect_eq_ok (budget : Budget) (time : Int) (different : user ≠ target)
    (complete : database.Complete directory) :
    ∃ after, disconnect budget user target time database = (.ok (), after) := by
  obtain ⟨edges, present⟩ := Option.isSome_iff_exists.mp complete.edges
  exact ⟨_, (disconnect_eq_ok_iff different).mpr ⟨edges, present, .inr complete.counters, rfl⟩⟩

/-- Blocking succeeds where there is an edge to the target. -/
theorem bar_eq_ok (budget : Budget) (time : Int) (different : user ≠ target)
    (complete : database.Complete directory)
    (isThere : (database.edge? user.bytes target.bytes).isSome) :
    ∃ after, bar budget user target time database = (.ok (), after) := by
  obtain ⟨edges, present⟩ := Option.isSome_iff_exists.mp complete.edges
  rw [Database.edge?_of_edges present] at isThere
  exact ⟨_, (bar_eq_ok_iff different).mpr
    ⟨edges, present, isThere, .inr complete.counters, rfl⟩⟩

/-- Blocking fails where there is no edge to the target. -/
theorem bar_of_absent (complete : database.Complete directory)
    (absent : database.edge? user.bytes target.bytes = none) :
    (bar budget user target time database).1 = .error (.notFound (.relationship target)) := by
  obtain ⟨edges, present⟩ := Option.isSome_iff_exists.mp complete.edges
  have missing : edges.has (user.bytes, target.bytes) = false := by
    rw [Database.edge?_of_edges present] at absent
    rw [Table.has, absent]
    rfl
  have asked : (liftM (Store.setState user target .blocked time) : Action RelationshipError Bool)
      database = (.ok false, _) :=
    liftM_eq_ok_iff.mpr (Store.setState_eq_ok_iff.mpr ⟨edges, present, missing.symm, rfl⟩)
  rw [bar, Action.bind_run_of_ok asked]
  rfl

/-! ## Listing -/

/-- Every row of a list can be read. -/
theorem friend?_isSome (sized : directory.Sized) (known : database.Known)
    {edges : Table EdgeRow} (present : database.edges = some edges) :
    ∀ listed ∈ Statement.listed user directory edges, (Store.friend? listed).isSome := by
  intro listed member
  obtain ⟨row, leaving, found⟩ := List.mem_filterMap.mp member
  obtain ⟨peer, stored, rfl⟩ := Option.map_eq_some_iff.mp found
  have isEdge : row ∈ database.edgeRows := by
    rw [Database.edgeRows_of_edges present]
    exact (List.mem_filter.mp (List.mem_mergeSort.mp leaving)).1
  obtain ⟨state, readable⟩ := Option.isSome_iff_exists.mp (known row isEdge)
  have proper := sized.ofStored? (List.mem_of_find?_eq_some stored)
  rw [Store.friend?, proper, Option.bind_some, readable]
  rfl

/-- A list is all that is listed for the user, read row by row. -/
theorem list_eq_ok (complete : database.Complete directory) (sized : directory.Sized)
    (known : database.Known) {edges : Table EdgeRow} (present : database.edges = some edges) :
    list user database =
      (.ok ((Statement.listed user directory edges).filterMap Store.friend?), database) :=
  liftM_eq_ok_iff.mpr (Store.listFriends_eq_ok_iff.mpr ⟨directory, edges, complete.users, present,
    friend?_isSome sized known present, rfl, rfl⟩)

/-! ## Requests -/

/-- The caller is refused as a target. -/
theorem requireOther_of_self (same : target = caller.id) (verb : Verb) :
    requireOther caller target verb database = (.error (.invalid (.self verb)), database) := by
  rw [requireOther, checkTarget, if_pos same]

/-- Everybody else is let through as a target. -/
theorem requireOther_of_ne (different : target ≠ caller.id) (verb : Verb) :
    requireOther caller target verb database = (.ok (), database) := by
  rw [requireOther, checkTarget, if_neg different]

/-- What names another user than the caller has the outcome of the transaction after the check. -/
theorem fst_bind_requireOther {verb : Verb} {action : Action RelationshipError Answer} :
    ((requireOther caller target verb >>= fun _ => action.atomically) database).1 =
      if target = caller.id then .error (.invalid (.self verb)) else (action database).1 := by
  by_cases same : target = caller.id
  · rw [Action.bind_run_of_error (requireOther_of_self same verb), if_pos same]
  · rw [Action.bind_run_of_ok (requireOther_of_ne same verb), if_neg same]
    rfl

/-- An empty handle and the caller's own are refused. -/
theorem addByHandle_of_invalid {handle : String}
    (invalid : (handle.isEmpty || handle = caller.handle) = true) :
    addByHandle budget caller handle time database = (.error (.invalid .handle), database) := by
  rw [addByHandle, if_pos invalid]
  rfl

/-- Adding by a handle that nobody has finds nobody. -/
theorem addByHandle_of_unregistered (users : database.users = some directory) {handle : String}
    (valid : ¬(handle.isEmpty || handle = caller.handle) = true)
    (unregistered : directory.withHandle? handle = none) :
    addByHandle budget caller handle time database =
      (.error (.notFound (.handle handle)), database) := by
  have asked : (liftM (Store.findHandle handle) : Action RelationshipError (Option UserId))
      database = (.ok none, database) :=
    liftM_eq_ok_iff.mpr (Store.findHandle_eq_ok_iff.mpr
      ⟨directory, users, by rw [unregistered]; rfl, rfl⟩)
  have failed : connectHandle budget caller handle time database =
      (.error (.notFound (.handle handle)), database) := by
    rw [connectHandle, Action.bind_run_of_ok asked]
    rfl
  rw [addByHandle, if_neg valid, Action.atomically, failed]
  rfl

/-- Adding by handle is adding the user who has the handle, unless the handle is empty or the
caller's own. -/
theorem addByHandle_of_named (users : database.users = some directory) {handle : String}
    (valid : ¬(handle.isEmpty || handle = caller.handle) = true)
    (named : directory.named? handle = some target) :
    addByHandle budget caller handle time database =
      ((add budget caller target time database).1.map fun isNew => (target, isNew),
        (add budget caller target time database).2) := by
  obtain ⟨row, stored, proper⟩ := Option.bind_eq_some_iff.mp named
  have asked : (liftM (Store.findHandle handle) : Action RelationshipError (Option UserId))
      database = (.ok (some target), database) := by
    refine liftM_eq_ok_iff.mpr (Store.findHandle_eq_ok_iff.mpr ⟨directory, users, ?_, rfl⟩)
    rw [stored, Option.map_some, Option.map_some, UserId.ofStored?_eq_some_iff.mp proper]
  have resolved : connectHandle budget caller handle time database =
      (do
        requireOther caller target .add
        let isNew ← connect budget caller.id target time
        return (target, isNew) : Action RelationshipError (UserId × Bool)) database := by
    rw [connectHandle, Action.bind_run_of_ok asked]
  rw [addByHandle, if_neg valid, add, Action.atomically, resolved]
  by_cases same : target = caller.id
  · rw [Action.bind_run_of_error (requireOther_of_self same .add),
      Action.bind_run_of_error (requireOther_of_self same .add)]
    rfl
  · rw [Action.bind_run_of_ok (requireOther_of_ne same .add),
      Action.bind_run_of_ok (requireOther_of_ne same .add), Action.atomically]
    cases run : connect budget caller.id target time database with
    | mk outcome after =>
      cases outcome with
      | error error =>
        rw [Action.bind_run_of_error run]
        rfl
      | ok isNew =>
        rw [Action.bind_run_of_ok run]
        rfl

/-- What comes of adding by handle where everybody is stored under a proper identifier. -/
theorem fst_addByHandle (users : database.users = some directory) (sized : directory.Sized)
    (handle : String) :
    (addByHandle budget caller handle time database).1 =
      if handle.isEmpty || handle = caller.handle then .error (.invalid .handle)
      else match directory.named? handle with
        | none => .error (.notFound (.handle handle))
        | some target =>
          (add budget caller target time database).1.map fun isNew => (target, isNew) := by
  split
  · next invalid => rw [addByHandle_of_invalid invalid]
  · next valid =>
    cases named : directory.named? handle with
    | some target => rw [addByHandle_of_named users valid named]
    | none =>
      have unregistered : directory.withHandle? handle = none := by
        rw [Option.eq_none_iff_forall_ne_some]
        intro row stored
        have proper := sized.ofStored? (List.mem_of_find?_eq_some stored)
        rw [Directory.named?, stored, Option.bind_some, proper] at named
        cases named
      rw [addByHandle_of_unregistered users valid unregistered]

end Relationship

/-! ## Calls -/

namespace Service

variable {State : Type} [Sender State] {service : Service State} {call : Call}
  {directory : Directory}

/-- A call leaves all tables there and the users as they are. -/
theorem complete_serve (complete : service.database.Complete directory) (call : Call) :
    (service.serve call).2.database.Complete directory := by
  obtain ⟨users, edges, counters⟩ := complete
  -- A change replaces the edges and maps the counters; no table is lost.
  have kept : ∀ change : Table CounterRow → Table CounterRow,
      (service.database.counters.map change).isSome :=
    fun change => Option.isSome_map.trans counters
  apply database_serve (Database.Complete directory)
  · exact ⟨users, edges, counters⟩
  · intro target isNew after different run
    obtain ⟨_, _, _, _, _, _, _, _, _, rfl⟩ := (Relationship.connect_eq_ok_iff different).mp run
    exact ⟨users, rfl, kept _⟩
  · intro target after _ different run
    obtain ⟨_, _, _, rfl⟩ := (Relationship.disconnect_eq_ok_iff different).mp run
    exact ⟨users, rfl, kept _⟩
  · intro target after different run
    obtain ⟨_, _, _, _, rfl⟩ := (Relationship.bar_eq_ok_iff different).mp run
    exact ⟨users, rfl, kept _⟩
  · intro externalIds peers after run
    obtain ⟨_, _, _, _, _, written⟩ := Relationship.connectNew_eq_ok_iff.mp run
    rcases written with ⟨_, rfl⟩ | ⟨_, _, _, _, _, _, rfl⟩
    · exact ⟨users, edges, counters⟩
    · exact ⟨users, rfl, kept _⟩

omit [Sender State] in
/-- A change fails as its action does. -/
theorem fst_change {Answer : Type} (action : Action RelationshipError Answer)
    (next : Answer → Service State → Outcome × Service State) (service : Service State) :
    (service.change action next).1 = (action service.database).1.map fun answer =>
      (next answer { service with database := (action service.database).2 }).1 := by
  unfold change
  cases action service.database with
  | mk outcome after => cases outcome <;> rfl

end Service

/-! ## No failure of the storage -/

/-- The outcome is no failure of the storage. -/
def Spared {Answer : Type} (outcome : Except RelationshipError Answer) : Prop :=
  ∀ error, outcome ≠ .error (.storage error)

/-- A success is no storage error. -/
theorem Spared.ok {Answer : Type} (answer : Answer) : Spared (.ok answer) :=
  fun _ same => nomatch same

/-- What is made of an outcome without a storage error has none. -/
theorem Spared.map {Answer Next : Type} {outcome : Except RelationshipError Answer}
    (spared : Spared outcome) (next : Answer → Next) : Spared (outcome.map next) := by
  intro error failed
  cases outcome with
  | ok answer => cases failed
  | error cause => exact spared error (congrArg Except.error (Except.error.inj failed))

namespace Relationship

variable {database : Database} {directory : Directory} {budget : Budget} {user target : UserId}
  {time : Int} {caller : Caller}

/-- Connecting two users meets no storage error. -/
theorem spared_connect (different : user ≠ target) (complete : database.Complete directory)
    (known : database.Known) : Spared (connect budget user target time database).1 := by
  have readable : (database.unknownCode? user target).or (database.unknownCode? target user) =
      none :=
    Option.or_eq_none_iff.mpr ⟨known.unknownCode? user target, known.unknownCode? target user⟩
  rw [fst_connect budget time different complete, readable]
  dsimp only
  split
  · split
    · exact fun _ same => nomatch same
    · exact .ok _
  · exact fun _ same => nomatch same

/-- Refusing the caller as a target brings in no storage error. -/
theorem spared_bind_requireOther {Answer : Type} {verb : Verb}
    {action : Action RelationshipError Answer}
    (spared : caller.id ≠ target → Spared (action database).1) :
    Spared ((requireOther caller target verb >>= fun _ => action.atomically) database).1 := by
  rw [fst_bind_requireOther]
  split
  · exact fun _ same => nomatch same
  · next other => exact spared (Ne.symm other)

/-- Adding a user meets no storage error. -/
theorem spared_add (complete : database.Complete directory) (known : database.Known) :
    Spared (add budget caller target time database).1 :=
  spared_bind_requireOther fun different => spared_connect different complete known

/-- Adding by handle meets no storage error. -/
theorem spared_addByHandle (complete : database.Complete directory) (sized : directory.Sized)
    (known : database.Known) (handle : String) :
    Spared (addByHandle budget caller handle time database).1 := by
  rw [fst_addByHandle complete.users sized]
  split
  · exact fun _ same => nomatch same
  · split
    · exact fun _ same => nomatch same
    · exact (spared_add complete known).map _

/-- Removing a user meets no storage error. -/
theorem spared_remove (complete : database.Complete directory) :
    Spared (remove budget caller target time database).1 := by
  refine spared_bind_requireOther fun different => ?_
  obtain ⟨after, run⟩ := disconnect_eq_ok budget time different complete
  rw [run]
  exact .ok _

/-- Blocking a user meets no storage error. -/
theorem spared_block (complete : database.Complete directory) :
    Spared (block budget caller target time database).1 := by
  refine spared_bind_requireOther fun different => ?_
  cases stored : database.edge? caller.id.bytes target.bytes with
  | none =>
    rw [bar_of_absent complete stored]
    exact fun _ same => nomatch same
  | some row =>
    obtain ⟨after, run⟩ := bar_eq_ok budget time different complete
      (by rw [stored]; rfl)
    rw [run]
    exact .ok _

/-- Listing meets no storage error. -/
theorem spared_list (complete : database.Complete directory) (sized : directory.Sized)
    (known : database.Known) : Spared (list user database).1 := by
  obtain ⟨edges, present⟩ := Option.isSome_iff_exists.mp complete.edges
  rw [list_eq_ok complete sized known present]
  exact .ok _

/-- An import meets no storage error. -/
theorem spared_importContacts (complete : database.Complete directory) (sized : directory.Sized)
    (fetched : Except ContactsError (List Contact)) :
    Spared (importContacts budget caller fetched time database).1 := by
  cases fetched with
  | error error => exact fun _ same => nomatch same
  | ok contacts =>
    obtain ⟨edges, present⟩ := Option.isSome_iff_exists.mp complete.edges
    obtain ⟨after, run⟩ := connectNew_eq_ok budget caller.id (contacts.map (·.id)) time
      complete.users sized present complete.counters
    have merged := importContacts_eq_ok_iff.mpr ⟨contacts, rfl, run⟩
    rw [merged]
    exact .ok _

end Relationship

namespace Service

variable {State : Type} [Sender State] {service : Service State} {directory : Directory}

/-- No call meets a storage error. -/
theorem spared_serve (complete : service.database.Complete directory) (sized : directory.Sized)
    (known : service.database.Known) (call : Call) : Spared (service.serve call).1 := by
  obtain ⟨terms, occasion, caller, operation⟩ := call
  unfold serve perform
  cases operation with
  | add target =>
    rw [fst_change]
    exact (Relationship.spared_add complete known).map _
  | addByHandle handle =>
    rw [fst_change]
    exact (Relationship.spared_addByHandle complete sized known handle).map _
  | remove target =>
    rw [fst_change]
    exact (Relationship.spared_remove complete).map _
  | block target =>
    rw [fst_change]
    exact (Relationship.spared_block complete).map _
  | list =>
    rw [fst_change]
    exact (Relationship.spared_list complete sized known).map _
  | importContacts externalId fetched =>
    rw [fst_change]
    exact (Relationship.spared_importContacts complete sized fetched).map _

/-- A run that starts without edges stays among databases whose tables are all there and whose
edges come in pairs. -/
theorem complete_serveAll (calls : List Call) (complete : service.database.Complete directory)
    (paired : service.database.Paired) :
    (service.serveAll calls).database.Complete directory ∧
      (service.serveAll calls).database.Paired :=
  serveAll_induction
    (fun service => service.database.Complete directory ∧ service.database.Paired)
    (fun call _ service both => ⟨complete_serve both.1 call, paired_serve call service both.2⟩)
    ⟨complete, paired⟩

/-- **No call of a run ever meets a failure of the storage**, provided that the run starts with all
tables there, none of them with edges or counters, and with every user stored under a proper
identifier. -/
theorem storage_never_fails (service : Service State) (calls : List Call) (call : Call)
    (error : StorageError) (users : service.database.users = some directory)
    (sized : directory.Sized)
    (edges : service.database.edges = some .empty)
    (counters : service.database.counters = some .empty) :
    ((service.serveAll calls).serve call).1 ≠ .error (.storage error) := by
  have complete : service.database.Complete directory :=
    ⟨users, by rw [edges]; rfl, by rw [counters]; rfl⟩
  have paired : service.database.Paired :=
    Database.paired_of_edgeRows (Database.edgeRows_of_edges edges)
  obtain ⟨stillComplete, stillPaired⟩ := complete_serveAll calls complete paired
  exact spared_serve stillComplete sized stillPaired.known call error

/-- After a friend was blocked, importing them again runs into no edge that is there already. -/
theorem storage_never_fails_pair :
    let reached := Pair.acquainted.serveAll
      [Pair.call 3 (.add Pair.bob), Pair.call 4 (.block Pair.bob)]
    reached.database.edgeRows = [⟨Pair.ada.bytes, Pair.bob.bytes, 3, 4, blocked.code⟩] ∧
      Pair.acquainted.database.edges = some .empty ∧
      Pair.acquainted.database.counters = some .empty ∧
      (reached.serve Pair.importing).1 ≠ .error (.storage (.database .takenKey)) :=
  ⟨rfl, rfl, rfl, storage_never_fails Pair.acquainted _ _ _ rfl (by decide) rfl rfl⟩

end Service

end FriendGraph
