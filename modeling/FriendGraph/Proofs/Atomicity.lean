import FriendGraph.Proofs.Lookup

/-! # Calls that fail, and databases without counters

A call that fails leaves the whole service as it was, however far it came: the tables, row by
row, and the sender, of whatever kind it is, so that one that keeps all it gets has got nothing.
A missing table is noticed only by the statement that needs it, which for the counters is after
edges were written. What was written until then is undone, and while the counters are missing no
edge is ever added or deleted; blocks can still be set on edges that are there.
-/

namespace FriendGraph

open EdgeState (blocked)

namespace Database

/-- The keys of the edges in order, which tell what edges there are. -/
def edgeKeys (database : Database) : List (StoredId × StoredId) :=
  database.edgeRows.map Keyed.key

end Database

namespace Relationship

variable {database after : Database} {budget : Budget} {user target : UserId} {time : Int}
  {peers : List UserId} {edges : Table EdgeRow}

/-- Nothing is joined where nobody lacks an edge. -/
theorem joined_of_lacking (nobody : lacking edges user target = []) :
    joined user target time edges = edges := by
  obtain ⟨outgoing, incoming⟩ := lacking_eq_nil_iff.mp nobody
  have inserted : edges.insert (EdgeRow.connected user target time) = edges :=
    Table.insert_of_has outgoing
  rw [joined, inserted]
  exact Table.insert_of_has incoming

/-- Nothing is severed where nobody is linked. -/
theorem severed_of_linked (nobody : linked edges user target = []) :
    severed user target edges = edges := by
  obtain ⟨forth, back⟩ := linked_eq_nil_iff.mp nobody
  apply Table.ext
  rw [severed, Table.rows_filter, List.filter_eq_self]
  intro row member
  have found := Table.find?_key_of_mem member
  have apart : ∀ source destination : UserId, edges.has (source.bytes, destination.bytes) = false →
      row.joins source destination = false := by
    intro source destination absent
    rw [← Bool.not_eq_true, Store.joins_iff]
    intro keyed
    rw [keyed] at found
    rw [Table.has, found] at absent
    cases absent
  rw [apart user target forth, apart target user back]
  rfl

/-- A block keeps the keys of edges where nobody returns. -/
theorem keys_barred_of_returning (different : user ≠ target)
    (nobody : returning edges user target = []) :
    (barred user target time edges).rows.map Keyed.key = edges.rows.map Keyed.key := by
  have recoded : (Statement.recode user target blocked.code time edges).rows.map Keyed.key =
      edges.rows.map Keyed.key := by
    rw [Statement.recode, Table.rows_adjust, List.map_map]
    apply List.map_congr_left
    intro row _
    rw [Function.comp_apply]
    split <;> rfl
  rw [← recoded, barred, Table.rows_filter]
  congr 1
  rw [List.filter_eq_self]
  intro row member
  rw [Bool.not_eq_true', ← Bool.not_eq_true]
  intro dropped
  obtain ⟨meets, other⟩ := Bool.and_eq_true_iff.mp dropped
  have found := Table.find?_key_of_mem member
  rw [Store.joins_iff.mp meets, find?_recode_back different] at found
  rw [returning, found, Option.any_some, if_pos other] at nobody
  cases nobody

/-! ## Changes without counters -/

/-- Without counters connecting two users keeps the keys of edges. -/
theorem edgeKeys_connect (uncounted : database.counters = none) (different : user ≠ target)
    {isNew : Bool} (run : connect budget user target time database = (.ok isNew, after)) :
    after.counters = none ∧ after.edgeKeys = database.edgeKeys := by
  obtain ⟨_, edges, _, present, _, _, _, counted, _, rfl⟩ := (connect_eq_ok_iff different).mp run
  have nobody : lacking edges user target = [] := counted.resolve_right (by simp [uncounted])
  refine ⟨by rw [uncounted]; rfl, ?_⟩
  rw [Database.edgeKeys, Database.edgeKeys, Database.edgeRows_of_edges rfl,
    Database.edgeRows_of_edges present, joined_of_lacking nobody]

/-- Without counters disconnecting two users keeps the keys of edges. -/
theorem edgeKeys_disconnect (uncounted : database.counters = none) (different : user ≠ target)
    (run : disconnect budget user target time database = (.ok (), after)) :
    after.counters = none ∧ after.edgeKeys = database.edgeKeys := by
  obtain ⟨edges, present, counted, rfl⟩ := (disconnect_eq_ok_iff different).mp run
  have nobody : linked edges user target = [] := counted.resolve_right (by simp [uncounted])
  refine ⟨by rw [uncounted]; rfl, ?_⟩
  rw [Database.edgeKeys, Database.edgeKeys, Database.edgeRows_of_edges rfl,
    Database.edgeRows_of_edges present, severed_of_linked nobody]

/-- Without counters blocking keeps the keys of edges. -/
theorem edgeKeys_bar (uncounted : database.counters = none) (different : user ≠ target)
    (run : bar budget user target time database = (.ok (), after)) :
    after.counters = none ∧ after.edgeKeys = database.edgeKeys := by
  obtain ⟨edges, present, _, counted, rfl⟩ := (bar_eq_ok_iff different).mp run
  have nobody : returning edges user target = [] := counted.resolve_right (by simp [uncounted])
  refine ⟨by rw [uncounted]; rfl, ?_⟩
  rw [Database.edgeKeys, Database.edgeKeys, Database.edgeRows_of_edges rfl,
    Database.edgeRows_of_edges present, keys_barred_of_returning different nobody]

/-- Without counters connecting newcomers keeps the keys of edges. -/
theorem edgeKeys_connectNew (uncounted : database.counters = none) {externalIds : List String}
    (run : connectNew budget user externalIds time database = (.ok peers, after)) :
    after.counters = none ∧ after.edgeKeys = database.edgeKeys := by
  obtain ⟨_, _, _, _, _, written⟩ := connectNew_eq_ok_iff.mp run
  rcases written with ⟨_, rfl⟩ | ⟨_, edges, grown, _, _, counted, _⟩
  · exact ⟨uncounted, rfl⟩
  · rw [uncounted] at counted
    cases counted

end Relationship

namespace Service

variable {State : Type} [Sender State]

/-- A call that fails leaves everything as it was. -/
theorem serve_of_error {call : Call} {service : Service State} {error : RelationshipError}
    (failed : (service.serve call).1 = .error error) : (service.serve call).2 = service := by
  have outcome := served call service
  generalize (service.serve call).2 = later at outcome ⊢
  rw [failed] at outcome
  cases outcome
  rfl

/-- Without counters every call keeps the keys of edges. -/
theorem edgeKeys_serve (call : Call) (service : Service State)
    (uncounted : service.database.counters = none) :
    (service.serve call).2.database.counters = none ∧
      (service.serve call).2.database.edgeKeys = service.database.edgeKeys := by
  apply database_serve fun after =>
    after.counters = none ∧ after.edgeKeys = service.database.edgeKeys
  · exact ⟨uncounted, rfl⟩
  · exact fun _ _ _ different run => Relationship.edgeKeys_connect uncounted different run
  · exact fun _ _ _ different run => Relationship.edgeKeys_disconnect uncounted different run
  · exact fun _ _ different run => Relationship.edgeKeys_bar uncounted different run
  · exact fun _ _ _ run => Relationship.edgeKeys_connectNew uncounted run

/-- **Failed calls change nothing**, neither a table nor the sender; and a run that starts without
counters neither adds nor deletes an edge. -/
theorem failures_are_atomic :
    (∀ (call : Call) (service : Service State) (error : RelationshipError),
      (service.serve call).1 = .error error → (service.serve call).2 = service) ∧
      ∀ (calls : List Call) (service : Service State), service.database.counters = none →
        (service.serveAll calls).database.counters = none ∧
          (service.serveAll calls).database.edgeKeys = service.database.edgeKeys := by
  refine ⟨fun _ _ _ => serve_of_error, fun calls service uncounted => ?_⟩
  refine serveAll_induction (fun later =>
    later.database.counters = none ∧ later.database.edgeKeys = service.database.edgeKeys) ?_
    ⟨uncounted, rfl⟩
  rintro call _ later ⟨still, same⟩
  obtain ⟨still, kept⟩ := edgeKeys_serve call later still
  exact ⟨still, kept.trans same⟩

/-- Without counters two strangers cannot become friends: both edges are written before the
counters are missed, and nothing of that remains. -/
theorem failures_are_atomic_pair :
    let service : Service Recorder :=
      { Pair.strangers with database := { Pair.strangers.database with counters := none } }
    let call := Pair.call 5 (.add Pair.bob)
    let inside := Relationship.connect call.terms.budget Pair.ada Pair.bob 5 service.database
    inside.2.edgeKeys =
        [(Pair.ada.bytes, Pair.bob.bytes), (Pair.bob.bytes, Pair.ada.bytes)] ∧
      (service.serve call).1 = .error (.storage (.database (.missingTable .counters))) ∧
      (service.serve call).2 = service ∧
      service.database.counters = none ∧
      (service.serveAll [call, call]).database.edgeKeys = [] :=
  ⟨rfl, rfl, failures_are_atomic.1 _ _ _ rfl, rfl, (failures_are_atomic.2 _ _ rfl).2⟩

end Service

end FriendGraph
