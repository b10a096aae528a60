import FriendGraph.Proofs.Atomicity
import FriendGraph.Proofs.Refinement

/-! # Lists replay the history

The history of a run says in order who was connected with whom, who removed whom and who blocked
whom (`Service.history`). What a user gained in it and has not lost since, in the order of the
gains, are those in whom the user still stands (`Event.standing`). The edges that leave a user are
these and no others, in the same order (`Database.Replays`): a new edge goes to the end, and its
position is no smaller than any before as long as the clock does not go back, so that sorting by
position moves nothing.
-/

namespace FriendGraph

open EdgeState (connected blocked)
open Relationship (Between)

/-- What can happen to two users. -/
inductive Event where
  | connected (one other : UserId)
  | removed (one other : UserId)
  | blocked (blocker target : UserId)
deriving DecidableEq

namespace Event

/-- Whom a user gains by an event. -/
def gained? (user : UserId) : Event → Option UserId
  | connected one other =>
    if one = user then some other else if other = user then some one else none
  | removed _ _ => none
  | blocked _ _ => none

/-- The edge from a user to a peer is gone: one of them has removed the other one, or the peer has
blocked the user. -/
def ends (user peer : UserId) : Event → Bool
  | connected _ _ => false
  | removed one other => one = user ∧ other = peer ∨ other = user ∧ one = peer
  | blocked blocker target => target = user ∧ blocker = peer

/-- The user has blocked the peer. -/
def blocks (user peer : UserId) : Event → Bool
  | connected _ _ => false
  | removed _ _ => false
  | blocked blocker target => blocker = user ∧ target = peer

/-- What later events leave of the edge from a user to a peer. -/
def outlast (user : UserId) (later : List Event) (stood : UserId × EdgeState) :
    Option (UserId × EdgeState) :=
  if later.any (·.ends user stood.1) then none
  else some (stood.1, if later.any (·.blocks user stood.1) then .blocked else stood.2)

/-- Whom a user has gained and not lost since, in the order of the gains. -/
def standing (user : UserId) : List Event → List (UserId × EdgeState)
  | [] => []
  | event :: later =>
    ((event.gained? user).bind fun peer => outlast user later (peer, .connected)).toList ++
      standing user later

variable {user owner : UserId} {past later : List Event}

/-- What outlasts past and later events outlasts the past and then the later ones. -/
theorem outlast_append (stood : UserId × EdgeState) :
    outlast user (past ++ later) stood = (outlast user past stood).bind (outlast user later) := by
  unfold outlast
  rw [List.any_append, List.any_append]
  cases past.any (·.ends user stood.1) with
  | true => rfl
  | false =>
    rw [Bool.false_or, if_neg Bool.false_ne_true, Option.bind_some]
    dsimp only
    cases past.any (·.blocks user stood.1) with
    | true => simp
    | false => simp

/-- What stands after later events is what outlasts them, and what they bring. -/
theorem standing_append :
    standing user (past ++ later) =
      (standing user past).filterMap (outlast user later) ++ standing user later := by
  induction past with
  | nil => rfl
  | cons event rest inductionHypothesis =>
    rw [List.cons_append, standing, inductionHypothesis, standing, List.filterMap_append,
      List.append_assoc]
    congr 1
    cases event.gained? user with
    | none => rfl
    | some peer =>
      rw [Option.bind_some, Option.bind_some, outlast_append]
      cases outlast user rest (peer, .connected) with
      | none => rfl
      | some stood =>
        rw [Option.bind_some, Option.toList_some, List.filterMap_cons, List.filterMap_nil]
        cases outlast user later stood <;> rfl

/-- A user is connected with several peers. -/
def joining (user : UserId) (peers : List UserId) : List Event := peers.map (connected user)

/-- Nothing ends by somebody joining. -/
theorem outlast_joining (user : UserId) (peers : List UserId) :
    outlast owner (joining user peers) = some := by
  funext stood
  have endless : (joining user peers).any (·.ends owner stood.1) = false := by
    rw [joining, List.any_map, List.any_eq_false]
    exact fun _ _ => Bool.false_ne_true
  have blockless : (joining user peers).any (·.blocks owner stood.1) = false := by
    rw [joining, List.any_map, List.any_eq_false]
    exact fun _ _ => Bool.false_ne_true
  rw [outlast, endless, blockless]
  rfl

/-- Who joins peers stands connected with each of them, in their order. -/
theorem standing_joining_self (peers : List UserId) :
    standing user (joining user peers) = peers.map (·, .connected) := by
  induction peers with
  | nil => rfl
  | cons peer rest inductionHypothesis =>
    have gained : (connected user peer).gained? user = some peer := if_pos rfl
    rw [joining, List.map_cons, standing, gained, Option.bind_some, ← joining, outlast_joining,
      inductionHypothesis]
    rfl

/-- A peer who is joined stands connected with the user. -/
theorem standing_joining_of_ne (different : user ≠ owner) (peers : List UserId) :
    standing owner (joining user peers) =
      (peers.filter (·.bytes = owner.bytes)).map fun _ => (user, .connected) := by
  induction peers with
  | nil => rfl
  | cons peer rest inductionHypothesis =>
    have gained : (connected user peer).gained? owner =
        if peer = owner then some user else none := if_neg different
    rw [joining, List.map_cons, standing, gained, ← joining, inductionHypothesis]
    by_cases same : peer = owner
    · subst same
      simp only [↓reduceIte, Option.bind_some, outlast_joining, List.filter_cons, decide_true]
      rfl
    · have apart : peer.bytes ≠ owner.bytes := fun equal => same (UserId.ext equal)
      simp only [same, apart, ↓reduceIte, List.filter_cons, decide_false, Bool.false_eq_true]
      rfl

end Event

/-- Lists that show the same are left the same by what looks at nothing else. -/
theorem filterMap_of_map_eq {First Second Shown Left : Type} {view : First → Shown}
    {sight : Second → Shown} {keep : First → Option Left} {hold : Second → Option Left}
    {first : List First} {second : List Second} (same : first.map view = second.map sight)
    (agree : ∀ one ∈ first, ∀ other, view one = sight other → keep one = hold other) :
    first.filterMap keep = second.filterMap hold := by
  induction first generalizing second with
  | nil =>
    cases List.map_eq_nil_iff.mp same.symm
    rfl
  | cons one rest inductionHypothesis =>
    cases second with
    | nil => cases same
    | cons other others =>
      obtain ⟨head, tail⟩ := List.cons.inj same
      have later := inductionHypothesis tail fun next member =>
        agree next (List.mem_cons_of_mem one member)
      rw [List.filterMap_cons, List.filterMap_cons, agree one List.mem_cons_self other head, later]

namespace Database

variable {before after database : Database} {history : List Event} {owner : StoredId} {time : Int}

/-- The edges that leave a user in the order of insertion, each as its destination and its code. -/
def departures (owner : StoredId) (database : Database) : List (StoredId × Int) :=
  (database.edgeRows.filter (·.source = owner)).map fun row => (row.destination, row.code)

/-- A peer and a state as an edge holds them. -/
def departure (stood : UserId × EdgeState) : StoredId × Int := (stood.1.bytes, stood.2.code)

/-- The edges tell what is left of a history that has come to a time. -/
structure Replays (history : List Event) (time : Int) (database : Database) : Prop where
  departures : ∀ user : UserId,
    database.departures user.bytes = (Event.standing user history).map departure
  ordered : database.edgeRows.Pairwise fun first second => first.position ≤ second.position
  past : ∀ row ∈ database.edgeRows, row.position ≤ time

/-- A database without edges replays no events. -/
theorem replays_of_edgeRows (empty : database.edgeRows = []) (time : Int) :
    database.Replays [] time := by
  constructor
  · intro user
    rw [departures, empty]
    rfl
  · rw [empty]
    exact List.Pairwise.nil
  · rw [empty]
    exact fun _ member => nomatch member

namespace Replays

/-- Time passes. -/
theorem mono (replays : database.Replays history time) {later : Int} (passed : time ≤ later) :
    database.Replays history later :=
  ⟨replays.departures, replays.ordered, fun row member => (replays.past row member).trans passed⟩

/-- New edges between a user and peers are what is left of the peers' joining. -/
theorem joined (replays : before.Replays history time) {user : UserId} {peers : List UserId}
    (other : user ∉ peers)
    (rows : after.edgeRows = before.edgeRows ++ Store.pairs user peers time) :
    after.Replays (history ++ Event.joining user peers) time := by
  have position : ∀ row ∈ Store.pairs user peers time, row.position = time := by
    intro row member
    obtain ⟨peer, _, made⟩ := List.mem_flatMap.mp member
    simp only [List.mem_cons, List.not_mem_nil, or_false] at made
    rcases made with rfl | rfl <;> rfl
  constructor
  · intro owner
    rw [Database.departures, rows, List.filter_append, List.map_append, Event.standing_append,
      Event.outlast_joining, List.filterMap_some, List.map_append, ← replays.departures]
    congr 1
    by_cases same : user = owner
    · subst same
      rw [Relationship.filter_pairs_self other, Event.standing_joining_self, List.map_map,
        List.map_map]
      rfl
    · have apart : user.bytes ≠ owner.bytes := fun equal => same (UserId.ext equal)
      rw [Relationship.filter_pairs_of_ne apart, Event.standing_joining_of_ne same, List.map_map,
        List.map_map]
      rfl
  · rw [rows, List.pairwise_append]
    refine ⟨replays.ordered, ?_, ?_⟩
    · exact List.pairwise_of_forall_mem_list fun first isFirst second isSecond =>
        (position first isFirst).trans_le (position second isSecond).ge
    · intro first isFirst second isSecond
      exact (replays.past first isFirst).trans (position second isSecond).ge
  · intro row member
    rw [rows] at member
    rcases List.mem_append.mp member with old | new
    · exact replays.past row old
    · exact (position row new).le

/-- What is replayed depends on the edges only. -/
theorem of_edgeRows (replays : before.Replays history time)
    (same : after.edgeRows = before.edgeRows) : after.Replays history time := by
  constructor
  · intro user
    rw [Database.departures, same]
    exact replays.departures user
  · rw [same]
    exact replays.ordered
  · rw [same]
    exact replays.past

/-- The edges of a user lead to those who stand with them, in their order. -/
theorem destinations (replays : database.Replays history time) (user : UserId) :
    (database.edgeRows.filter (·.source = user.bytes)).map (·.destination) =
      ((Event.standing user history).map Prod.fst).map UserId.bytes := by
  have first := congrArg (List.map Prod.fst) (replays.departures user)
  rw [Database.departures, List.map_map, List.map_map] at first
  rw [List.map_map]
  exact first

/-- A user has as many edges as stand with them. -/
theorem outgoing (replays : database.Replays history time) (user : UserId) :
    database.outgoing user.bytes = ((Event.standing user history).map Prod.fst).length := by
  have lengths := congrArg List.length (replays.destinations user)
  rw [List.length_map, List.length_map] at lengths
  rw [Database.outgoing, List.countP_eq_length_filter, lengths]

/-- The edges that leave a user for those of a kind are counted by those in whom they stand. -/
theorem countP (replays : database.Replays history time) (user : UserId)
    (kind : StoredId → Bool) :
    (database.edgeRows.countP fun row => row.source = user.bytes ∧ kind row.destination) =
      ((Event.standing user history).map Prod.fst).countP fun peer => kind peer.bytes := by
  have counts := congrArg (List.countP kind) (replays.destinations user)
  rw [List.countP_map, List.countP_filter, List.countP_map] at counts
  refine Eq.trans ?_ counts
  refine List.countP_congr fun row _ => ?_
  simp [and_comm]

/-- Nobody stands twice in a user. -/
theorem nodup {edges : Table EdgeRow} (replays : database.Replays history time)
    (present : database.edges = some edges) (user : UserId) :
    ((Event.standing user history).map Prod.fst).Nodup := by
  have same : database.destinations user = (Event.standing user history).map Prod.fst := by
    have decoded := congrArg (List.filterMap UserId.ofStored?) (replays.destinations user)
    have proper : UserId.ofStored? ∘ UserId.bytes = some := funext UserId.ofStored?_bytes
    rw [List.filterMap_map, List.filterMap_map, proper, List.filterMap_some] at decoded
    exact decoded
  rw [← same]
  exact nodup_destinations present user

/-- Edges that were changed one by one are what later events leave of them. -/
theorem of_filterMap (replays : before.Replays history time) {later : List Event}
    {change : EdgeRow → Option EdgeRow}
    (rows : after.edgeRows = before.edgeRows.filterMap change)
    (keeps : ∀ row changed, change row = some changed →
      changed.source = row.source ∧ changed.position = row.position)
    (leaves : ∀ row (user : UserId) stood, row.source = user.bytes →
      (row.destination, row.code) = departure stood →
        (change row).map (fun changed => (changed.destination, changed.code)) =
          (Event.outlast user later stood).map departure)
    (endless : ∀ user : UserId, Event.standing user later = []) :
    after.Replays (history ++ later) time := by
  constructor
  · intro user
    have leaving : after.edgeRows.filter (·.source = user.bytes) =
        (before.edgeRows.filter (·.source = user.bytes)).filterMap change := by
      rw [rows, List.filter_filterMap, List.filterMap_filter]
      refine List.filterMap_congr fun row _ => ?_
      cases changed : change row with
      | none => simp
      | some later => simp [Option.filter, (keeps _ _ changed).1]
    rw [Database.departures, leaving, Event.standing_append, endless, List.append_nil,
      List.map_filterMap, List.map_filterMap]
    refine filterMap_of_map_eq (replays.departures user) fun row member stood same => ?_
    exact leaves row user stood (of_decide_eq_true (List.mem_filter.mp member).2) same
  · rw [rows]
    refine List.pairwise_filterMap.mpr (replays.ordered.imp ?_)
    intro first second before changed isFirst changedToo isSecond
    rw [(keeps _ _ isFirst).2, (keeps _ _ isSecond).2]
    exact before
  · intro row member
    rw [rows] at member
    obtain ⟨earlier, stored, changed⟩ := List.mem_filterMap.mp member
    rw [(keeps _ _ changed).2]
    exact replays.past earlier stored

end Replays

end Database

namespace Relationship

variable {database after : Database} {budget : Budget} {user target : UserId} {time : Int}
  {history : List Event} {peers : List UserId}

open Database (departure)

/-- A row joins two users exactly when they are its ends. -/
theorem joins_eq {row : EdgeRow} {owner peer : UserId} (source : row.source = owner.bytes)
    (destination : row.destination = peer.bytes) (one other : UserId) :
    row.joins one other = decide (one = owner ∧ other = peer) := by
  have same : ∀ first second : UserId, first.bytes = second.bytes ↔ second = first :=
    fun _ _ => ⟨fun equal => UserId.ext equal.symm, fun equal => congrArg UserId.bytes equal.symm⟩
  simp only [EdgeRow.joins, source, destination, same]

/-- Users who can be connected and are no strangers are friends already. -/
theorem edgeRows_of_connect (paired : database.Paired) (different : user ≠ target)
    (run : connect budget user target time database = (.ok false, after)) :
    after.edgeRows = database.edgeRows := by
  have apart : blocked.code ≠ connected.code := by decide
  have forth : Between user [target] user.bytes target.bytes :=
    between_singleton_iff.mpr (.inl ⟨rfl, rfl⟩)
  have isFriend : ∀ source destination, Between user [target] source destination →
      ∀ row, database.edge? source destination = some row → row.code = connected.code :=
    fun _ _ between _ stored => code_of_connect different run between stored
  obtain ⟨_, edges, _, present, _, _, _, _, notNew, rfl⟩ := (connect_eq_ok_iff different).mp run
  have both : edges.has (user.bytes, target.bytes) = edges.has (target.bytes, user.bytes) := by
    rw [Table.has, Table.has, ← Database.edge?_of_edges present, ← Database.edge?_of_edges present]
    obtain ⟨shape, stand⟩ := paired.shaped user.bytes target.bytes
      fun same => different (UserId.ext same)
    cases shape with
    | unrelated => rw [stand.1, stand.2]
    | friends =>
      obtain ⟨_, there, back⟩ := stand
      rw [there, back]
      rfl
    | blocking =>
      obtain ⟨⟨row, stored, isBlock⟩, _⟩ := stand
      exact absurd (isBlock.symm.trans (isFriend _ _ forth row stored)) apart
    | blockedBy =>
      obtain ⟨_, row, stored, isBlock⟩ := stand
      exact absurd (isBlock.symm.trans (isFriend _ _ forth.symm row stored)) apart
  have nobody : lacking edges user target = [] := by
    rw [lacking_eq_nil_iff]
    rw [← both] at notNew ⊢
    simpa using notNew
  rw [Database.edgeRows_of_edges rfl, Database.edgeRows_of_edges present,
    joined_of_lacking nobody]

/-- Disconnecting two users replays the removal of one by the other. -/
theorem replays_disconnect (replays : database.Replays history time) (different : user ≠ target)
    (run : disconnect budget user target time database = (.ok (), after)) :
    after.Replays (history ++ [.removed user target]) time := by
  obtain ⟨edges, present, _, rfl⟩ := (disconnect_eq_ok_iff different).mp run
  let keep (row : EdgeRow) : Bool := !(row.joins user target || row.joins target user)
  have rows : (severed user target edges).rows =
      database.edgeRows.filterMap (Option.guard (keep ·)) := by
    rw [Database.edgeRows_of_edges present, severed, Table.rows_filter, List.filterMap_eq_filter]
  refine replays.of_filterMap rows ?_ ?_ (fun _ => rfl)
  · intro row changed kept
    rw [(Option.guard_eq_some_iff.mp kept).1]
    exact ⟨rfl, rfl⟩
  · intro row owner stood source same
    obtain ⟨destination, code⟩ := Prod.mk.inj same
    have kept : keep row = !decide (user = owner ∧ target = stood.1 ∨
        target = owner ∧ user = stood.1) := by
      simp only [keep, joins_eq source destination, Bool.decide_or]
    have left : Event.outlast owner [.removed user target] stood =
        if user = owner ∧ target = stood.1 ∨ target = owner ∧ user = stood.1 then none
        else some stood := by
      simp [Event.outlast, Event.ends, Event.blocks]
    rw [left, Option.guard, kept]
    by_cases parted : user = owner ∧ target = stood.1 ∨ target = owner ∧ user = stood.1
    · simp [parted]
    · simp [parted, same]

/-- The edges after a bar, row by row: the edge back is gone, as it is no block. -/
theorem edgeRows_bar (paired : database.Paired) (different : user ≠ target)
    (run : bar budget user target time database = (.ok (), after)) :
    after.edgeRows = database.edgeRows.filterMap fun row =>
      if row.joins target user then none
      else some (if row.joins user target then row.withCode blocked.code time else row) := by
  have stand := blocking_of_bar paired different run
  have back := edge?_bar different run target.bytes user.bytes
  rw [stand.2, if_neg (back_ne_forth different), if_pos rfl, eq_comm,
    Option.filter_eq_none_iff] at back
  obtain ⟨edges, present, _, _, rfl⟩ := (bar_eq_ok_iff different).mp run
  rw [Database.edgeRows_of_edges rfl, Database.edgeRows_of_edges present, barred, Table.rows_filter,
    Statement.recode, Table.rows_adjust, ← List.filterMap_eq_filter, List.filterMap_map]
  refine List.filterMap_congr fun row member => ?_
  rw [Function.comp_apply]
  by_cases returns : row.joins target user = true
  · have keyed := Store.joins_iff.mp returns
    have stays : row.joins user target = false := by
      rw [← Bool.not_eq_true, Store.joins_iff, keyed]
      exact back_ne_forth different
    have free : row.code ≠ blocked.code := by
      have stored := Table.find?_key_of_mem member
      rw [keyed, ← Database.edge?_of_edges present] at stored
      simpa using back row stored
    simp [Option.guard, returns, stays, free]
  · have recoded : (row.withCode blocked.code time).joins target user = row.joins target user := rfl
    by_cases leaves : row.joins user target = true
    · simp [Option.guard, returns, leaves, recoded]
    · simp [Option.guard, returns, leaves]

/-- Blocking replays the block. -/
theorem replays_bar (paired : database.Paired) (replays : database.Replays history time)
    (different : user ≠ target)
    (run : bar budget user target time database = (.ok (), after)) :
    after.Replays (history ++ [.blocked user target]) time := by
  refine replays.of_filterMap (edgeRows_bar paired different run) ?_ ?_ (fun _ => rfl)
  · intro row changed kept
    split at kept
    · cases kept
    · cases kept
      split <;> exact ⟨rfl, rfl⟩
  · intro row owner stood source same
    obtain ⟨destination, code⟩ := Prod.mk.inj same
    have left : Event.outlast owner [.blocked user target] stood =
        if target = owner ∧ user = stood.1 then none
        else some (stood.1, if user = owner ∧ target = stood.1 then blocked else stood.2) := by
      simp [Event.outlast, Event.ends, Event.blocks]
    simp only [joins_eq source destination, left, decide_eq_true_eq]
    by_cases returns : target = owner ∧ user = stood.1
    · simp only [returns, and_self, ↓reduceIte, Option.map_none]
    · simp only [returns, ↓reduceIte, Option.map_some, departure]
      by_cases leaves : user = owner ∧ target = stood.1
      · simp only [leaves, and_self, ↓reduceIte, EdgeRow.withCode, destination]
      · simp only [leaves, ↓reduceIte, destination, code]

end Relationship

/-- What a call has made happen, by its outcome. -/
def Call.events (call : Call) : Except RelationshipError Outcome → List Event
  | .error _ => []
  | .ok (.added friendId isNew _ _) => if isNew then [.connected call.caller.id friendId] else []
  | .ok (.imported peers _ _) => Event.joining call.caller.id peers
  | .ok (.friends _) => []
  | .ok .done =>
    match call.operation with
    | .remove target => [.removed call.caller.id target]
    | .block target => [.blocked call.caller.id target]
    | .add _ | .addByHandle _ | .list | .importContacts _ _ => []

/-- A peer, if they are registered, as shown to a user who sees them in a state. -/
def Directory.friend? (directory : Directory) (stood : UserId × EdgeState) : Option Friend :=
  (directory.withId? stood.1.bytes).map fun row => ⟨row.profile stood.1, stood.2⟩

/-- Of those in whom a user stands, the registered ones are shown. -/
theorem Directory.map_id_friend? (directory : Directory) (standing : List (UserId × EdgeState)) :
    (standing.filterMap directory.friend?).map (·.profile.id) =
      (standing.map Prod.fst).filter fun peer => (directory.withId? peer.bytes).isSome := by
  induction standing with
  | nil => rfl
  | cons stood rest inductionHypothesis =>
    rw [List.filterMap_cons, List.map_cons, List.filter_cons, Directory.friend?]
    cases directory.withId? stood.1.bytes with
    | none => exact inductionHypothesis
    | some row => exact congrArg (stood.1 :: ·) inductionHypothesis

namespace Relationship

variable {database : Database} {directory : Directory} {user : UserId} {history : List Event}
  {time : Int}

/-- A user lists the registered ones of those in whom they stand. -/
theorem list_of_replays (complete : database.Complete directory) (sized : directory.Sized)
    (known : database.Known) (replays : database.Replays history time) :
    list user database =
      (.ok ((Event.standing user history).filterMap directory.friend?), database) := by
  obtain ⟨edges, present⟩ := Option.isSome_iff_exists.mp complete.edges
  have sorted : Statement.leaving user edges = edges.rows.filter (·.source = user.bytes) := by
    have ordered := replays.ordered
    rw [Database.edgeRows_of_edges present] at ordered
    exact List.mergeSort_of_pairwise ((ordered.filter _).imp decide_eq_true)
  rw [list_eq_ok complete sized known present, Statement.listed, sorted, List.filterMap_filterMap,
    ← Database.edgeRows_of_edges present]
  refine Prod.ext (congrArg Except.ok ?_) rfl
  refine filterMap_of_map_eq (replays.departures user) fun row member stood same => ?_
  obtain ⟨destination, code⟩ := Prod.mk.inj same
  rw [destination, code, Directory.friend?]
  cases found : directory.withId? stood.1.bytes with
  | none => rfl
  | some peer =>
    have isPeer := (Directory.withId?_eq_some_iff.mp found).2
    rw [Option.map_some, Option.bind_some, Option.map_some, Store.friend?, isPeer,
      UserId.ofStored?_bytes, Option.bind_some, EdgeState.ofCode?_code, Option.map_some]

end Relationship

namespace Service

variable {State : Type} [Sender State] {service : Service State} {directory : Directory}

/-- What happens in a run, in order. -/
def history : List Call → Service State → List Event
  | [], _ => []
  | call :: later, service =>
    call.events (service.serve call).1 ++ history later (service.serve call).2

/-- Asking for a list answers with that of the caller. -/
theorem fst_serve_list {call : Call} (lists : call.operation = .list) (service : Service State) :
    (service.serve call).1 =
      (Relationship.list call.caller.id service.database).1.map Outcome.friends := by
  obtain ⟨terms, occasion, caller, operation⟩ := call
  cases lists
  exact fst_change _ _ service

/-- A call that is not too early replays the events that its answer tells of. -/
theorem replays_serve {past : List Event} {time : Int} (call : Call)
    (paired : service.database.Paired) (replays : service.database.Replays past time)
    (later : time ≤ call.occasion.time) :
    (service.serve call).2.database.Replays (past ++ call.events (service.serve call).1)
      call.occasion.time := by
  have replays := replays.mono later
  have outcome := served call service
  generalize (service.serve call).1 = result, (service.serve call).2 = after at outcome ⊢
  cases outcome with
  | failed error =>
    rw [Call.events, List.append_nil]
    exact replays
  | added target isNew database asked different run =>
    cases isNew with
    | false =>
      have same := Relationship.edgeRows_of_connect paired different run
      have events : call.events
          (.ok (announceAdded call.terms call.occasion call.caller target false
            { service with database := database }).1) = [] := rfl
      rw [events, List.append_nil]
      exact replays.of_edgeRows same
    | true =>
      exact replays.joined (fun member => different (List.mem_singleton.mp member))
        (Relationship.edgeRows_connect different run)
  | removed target database asked different run =>
    rw [Call.events, asked]
    exact Relationship.replays_disconnect replays different run
  | barred target database asked different run =>
    rw [Call.events, asked]
    exact Relationship.replays_bar paired replays different run
  | listed friends asked =>
    rw [Call.events, List.append_nil]
    exact replays
  | imported externalId contacts connected database asked run =>
    exact replays.joined (Relationship.not_mem_of_connectNew run)
      (Relationship.edgeRows_connectNew run)

/-- A run whose clock does not go back leaves the edges that replay its history. -/
theorem replays_serveAll {past : List Event} {time : Int} (calls : List Call)
    (clock : calls.Pairwise fun earlier later => earlier.occasion.time ≤ later.occasion.time)
    (later : ∀ call ∈ calls, time ≤ call.occasion.time) (paired : service.database.Paired)
    (replays : service.database.Replays past time) :
    ∃ last, (service.serveAll calls).database.Replays (past ++ service.history calls) last := by
  induction calls generalizing service past time with
  | nil =>
    rw [history, List.append_nil]
    exact ⟨time, replays⟩
  | cons call rest inductionHypothesis =>
    obtain ⟨first, clock⟩ := List.pairwise_cons.mp clock
    have served := replays_serve call paired replays (later call List.mem_cons_self)
    rw [history, ← List.append_assoc]
    exact inductionHypothesis clock first (paired_serve call service paired) served

/-- **The list of friends replays the history.** After a run that starts with nobody related and
whose clock does not go back, a user lists the registered ones of those in whom they stand: each of
them once, in the order in which they were gained, and blocked where the user has blocked them
since. So the list is as long as the counter of the user says, less the edges to those who are not
registered. -/
theorem lists_replay_history (service : Service State) (calls : List Call) (asked : Call)
    (users : service.database.users = some directory) (sized : directory.Sized)
    (edges : service.database.edges = some .empty)
    (counters : service.database.counters = some .empty)
    (clock : calls.Pairwise fun earlier later => earlier.occasion.time ≤ later.occasion.time)
    (lists : asked.operation = .list) :
    let reached := service.serveAll calls
    let user := asked.caller.id
    ∃ friends, (reached.serve asked).1 = .ok (.friends friends) ∧
      friends = (Event.standing user (service.history calls)).filterMap directory.friend? ∧
      (friends.map (·.profile.id)).Nodup ∧
      (friends.length : Int) = reached.database.tally user.bytes -
        reached.database.edgeRows.countP fun row =>
          row.source = user.bytes ∧ (directory.withId? row.destination).isNone := by
  intro reached user
  obtain ⟨start, unrelated⟩ := Database.Complete.of_empty users edges counters
  obtain ⟨complete, paired⟩ :=
    complete_serveAll calls start (Database.paired_of_edgeRows unrelated.edges)
  -- The run begins at a time before all of its calls.
  obtain ⟨time, later⟩ : ∃ time, ∀ call ∈ calls, time ≤ call.occasion.time := by
    cases calls with
    | nil => exact ⟨0, fun _ member => nomatch member⟩
    | cons call rest =>
      refine ⟨call.occasion.time, fun other member => ?_⟩
      rcases List.mem_cons.mp member with rfl | member
      · exact le_rfl
      · exact (List.pairwise_cons.mp clock).1 other member
  obtain ⟨last, replays⟩ := replays_serveAll calls clock later
    (Database.paired_of_edgeRows unrelated.edges)
    (Database.replays_of_edgeRows unrelated.edges time)
  rw [List.nil_append] at replays
  obtain ⟨table, present⟩ := Option.isSome_iff_exists.mp complete.edges
  have shown := directory.map_id_friend? (Event.standing user (service.history calls))
  refine ⟨_, ?_, rfl, ?_, ?_⟩
  · rw [fst_serve_list lists, Relationship.list_of_replays complete sized paired.known replays]
    rfl
  · rw [shown]
    exact (replays.nodup present user).filter _
  · have still : reached.database.drift user.bytes = 0 := drift_serveAll calls unrelated user.bytes
    have lengths := congrArg List.length shown
    have split := List.length_eq_countP_add_countP
      (fun peer : UserId => (directory.withId? peer.bytes).isNone)
      (l := (Event.standing user (service.history calls)).map Prod.fst)
    have registered : ∀ peer : UserId, decide ¬(directory.withId? peer.bytes).isNone = true =
        (directory.withId? peer.bytes).isSome := by
      intro peer
      cases directory.withId? peer.bytes <;> rfl
    simp only [registered] at split
    rw [List.length_map, ← List.countP_eq_length_filter] at lengths
    rw [Database.drift, replays.outgoing, split] at still
    rw [replays.countP user fun id => (directory.withId? id).isNone, lengths]
    omega

end Service

namespace Pair

/-- The first user adds the second one once more after removing them, and then blocks them. In
between somebody who is not registered adds the first user. -/
def reunion : List Call :=
  [call 5 (.add bob), call 5 (.remove bob),
    { call 5 (.add ada) with caller := ⟨user 3, "carol"⟩ },
    call 5 (.add bob), call 6 (.block bob)]

end Pair

namespace Service

/-- The edge to somebody who is not registered shows in the counter and not in the list. -/
theorem lists_replay_history_pair :
    let reached := Pair.strangers.serveAll Pair.reunion
    Event.standing Pair.ada (Pair.strangers.history Pair.reunion) =
        [(Pair.user 3, .connected), (Pair.bob, .blocked)] ∧
      reached.database.tally Pair.ada.bytes = 2 ∧
      (reached.serve (Pair.call 7 .list)).1 =
        .ok (.friends [⟨(Pair.row Pair.bob "bob").profile Pair.bob, .blocked⟩]) := by
  intro reached
  obtain ⟨friends, answered, rfl, _⟩ := lists_replay_history Pair.strangers Pair.reunion
    (Pair.call 7 .list) rfl (by decide) rfl rfl (by decide) rfl
  exact ⟨rfl, rfl, answered⟩

end Service

end FriendGraph
