import FriendGraph.Proofs.Lookup

/-! # A block holds until it is removed

A block is a single edge, and it stays where it is through every run in which neither of its two
users removes the other (`Database.Blocks`). As long as it stands, no call brings the two any
closer: whoever asks to add the other one fails, an import passes them over, the edge back is not
made, and neither of them is told anything about the other. A removal by either of them takes the
block away.
-/

namespace FriendGraph

open EdgeState (connected blocked)
open Relationship (Between)

/-- One user blocks another one, with an edge that was made at a position. -/
def Database.Blocks (database : Database) (one other : StoredId) (position : Int) : Prop :=
  ∃ row, database.edge? one other = some row ∧ row.code = blocked.code ∧ row.position = position

/-- One of two users asks to add the other one. -/
def Call.Joins (call : Call) (users : Option Directory) (one other : StoredId) : Prop :=
  ∃ target, call.Adds users target ∧ Between call.caller.id [target] one other

/-- One of two users asks to remove the other one. -/
def Call.Parts (call : Call) (one other : StoredId) : Prop :=
  ∃ target, call.operation = .remove target ∧ Between call.caller.id [target] one other

/-- The notifications that come with an outcome. -/
def Outcome.notifications : Outcome → List Notification
  | .added _ _ notifications _ => notifications
  | .imported _ notifications _ => notifications
  | .done => []
  | .friends _ => []

/-- The notifications that come of a call; a failure has none. -/
def told : Except RelationshipError Outcome → List Notification
  | .ok outcome => outcome.notifications
  | .error _ => []

/-- A call names at most one user to add. -/
theorem Call.Adds.unique {call : Call} {users : Option Directory} {first second : UserId}
    (adds : call.Adds users first) (again : call.Adds users second) : first = second := by
  obtain ⟨_, _, _, operation⟩ := call
  cases operation with
  | add named => exact adds.symm.trans again
  | addByHandle handle =>
    obtain ⟨directory, present, named⟩ := adds
    obtain ⟨_, again, alsoNamed⟩ := again
    cases present.symm.trans again
    exact UserId.ext (Option.some.inj (named.symm.trans alsoNamed))
  | _ => exact adds.elim

namespace Relationship

variable {database after : Database} {budget : Budget} {user target : UserId} {time : Int}
  {peers : List UserId} {one other : StoredId} {position : Int}

/-- What only makes edges that are missing keeps every block. -/
theorem blocks_or {added : Option EdgeRow} (blocks : database.Blocks one other position)
    (joins : after.edge? one other = (database.edge? one other).or added) :
    after.Blocks one other position := by
  obtain ⟨row, stored, isBlock⟩ := blocks
  rw [stored, Option.some_or] at joins
  exact ⟨row, joins, isBlock⟩

/-- Users one of whom blocks the other one are not connected. -/
theorem not_between_of_connect (blocks : database.Blocks one other position)
    (different : user ≠ target) {isNew : Bool}
    (run : connect budget user target time database = (.ok isNew, after)) :
    ¬Between user [target] one other := by
  intro between
  obtain ⟨row, stored, isBlock, _⟩ := blocks
  have isFriend := code_of_connect different run between stored
  have apart : blocked.code ≠ connected.code := by decide
  exact apart (isBlock.symm.trans isFriend)

/-- An import does not connect a blocked pair. -/
theorem not_between_of_connectNew (blocks : database.Blocks one other position)
    {externalIds : List String}
    (run : connectNew budget user externalIds time database = (.ok peers, after)) :
    ¬Between user peers one other := by
  intro between
  obtain ⟨row, stored, _⟩ := blocks
  rw [edge?_of_connectNew run between] at stored
  cases stored

/-- Disconnecting other users keeps a block. -/
theorem blocks_disconnect (blocks : database.Blocks one other position)
    (different : user ≠ target) (apart : ¬Between user [target] one other)
    (run : disconnect budget user target time database = (.ok (), after)) :
    after.Blocks one other position := by
  unfold Database.Blocks
  rw [edge?_disconnect different run, if_neg apart]
  exact blocks

/-- Barring keeps every block, also between the same two users. -/
theorem blocks_bar (blocks : database.Blocks one other position) (different : user ≠ target)
    (run : bar budget user target time database = (.ok (), after)) :
    after.Blocks one other position := by
  obtain ⟨row, stored, isBlock, since⟩ := blocks
  have changed := edge?_bar different run one other
  rw [stored] at changed
  -- Either the block itself is set once more, or it leads back and is spared as a block.
  split at changed
  · exact ⟨row.withCode blocked.code time, changed, rfl, since⟩
  · refine ⟨row, ?_, isBlock, since⟩
    rw [changed]
    split <;> simp [isBlock]

/-- Barring makes no edge. -/
theorem edge?_of_edge?_bar (different : user ≠ target)
    (run : bar budget user target time database = (.ok (), after))
    (made : (after.edge? one other).isSome) : (database.edge? one other).isSome := by
  rw [edge?_bar different run] at made
  split at made
  · simpa using made
  · split at made
    · exact Option.isSome_of_isSome_filter _ _ made
    · exact made

end Relationship

namespace Service

variable {State : Type} [Sender State] {service : Service State} {call : Call}
  {one other : StoredId} {position : Int}

/-- The sender gets what a call tells, and nothing else. -/
theorem sender_serve (call : Call) (service : Service State) :
    (service.serve call).2.sender =
      (dispatch (told (service.serve call).1) service.sender).2 := by
  have outcome := served call service
  generalize (service.serve call).1 = result, (service.serve call).2 = later at outcome ⊢
  cases outcome <;> rfl

/-- A call brings two users no closer: it does not add one to the other, an import passes them
over, neither is told anything about the other, and the edge back is not made. -/
structure KeepsApart (service : Service State) (call : Call) (one other : StoredId) : Prop where
  adding : call.Joins service.database.users one other →
    ∃ error, (service.serve call).1 = .error error
  importing : ∀ connected notifications isDispatched,
    (service.serve call).1 = .ok (.imported connected notifications isDispatched) →
      ¬Between call.caller.id connected one other
  telling : ∀ notification ∈ told (service.serve call).1,
    ¬Between notification.sender [notification.recipient] one other
  returning : ((service.serve call).2.database.edge? other one).isSome →
    (service.database.edge? other one).isSome

/-- A call that does not part the two keeps a block. -/
theorem blocks_serve (blocks : service.database.Blocks one other position)
    (apart : ¬call.Parts one other) :
    (service.serve call).2.database.Blocks one other position := by
  apply database_serve fun after => after.Blocks one other position
  · exact blocks
  · exact fun _ _ _ different run =>
      Relationship.blocks_or blocks (Relationship.edge?_connect different run ..)
  · exact fun target _ asked different run =>
      Relationship.blocks_disconnect blocks different
        (fun between => apart ⟨target, asked, between⟩) run
  · exact fun _ _ different run => Relationship.blocks_bar blocks different run
  · exact fun _ _ _ run => Relationship.blocks_or blocks (Relationship.edge?_connectNew run ..)

/-- Only connecting the two adds a user. -/
theorem connect_of_adds {target : UserId} (adds : call.Adds service.database.users target)
    {outcome : Outcome} (succeeded : (service.serve call).1 = .ok outcome) :
    call.caller.id ≠ target ∧
      ∃ isNew, Relationship.connect call.terms.budget call.caller.id target call.occasion.time
        service.database = (.ok isNew, (service.serve call).2.database) := by
  have result := served call service
  generalize (service.serve call).1 = answer, (service.serve call).2 = later at result succeeded ⊢
  cases result with
  | failed error => cases succeeded
  | added named isNew database asked different run =>
    cases adds.unique asked
    exact ⟨different, isNew, run⟩
  | removed named database asked different run =>
    rw [Call.Adds, asked] at adds
    exact adds.elim
  | barred named database asked different run =>
    rw [Call.Adds, asked] at adds
    exact adds.elim
  | listed friends asked =>
    rw [Call.Adds, asked] at adds
    exact adds.elim
  | imported externalId contacts connected database asked run =>
    rw [Call.Adds, asked] at adds
    exact adds.elim

/-- A call that would join the two fails. -/
theorem error_of_joins (blocks : service.database.Blocks one other position)
    (joins : call.Joins service.database.users one other) :
    ∃ error, (service.serve call).1 = .error error := by
  obtain ⟨target, adds, between⟩ := joins
  cases answered : (service.serve call).1 with
  | error error => exact ⟨error, rfl⟩
  | ok outcome =>
    obtain ⟨different, isNew, run⟩ := connect_of_adds adds answered
    exact absurd between (Relationship.not_between_of_connect blocks different run)

/-- Nobody whom an import connects is in a block with the caller. -/
theorem not_between_of_imported (blocks : service.database.Blocks one other position)
    {connected : List UserId} {notifications : List Notification} {isDispatched : Bool}
    (answered : (service.serve call).1 = .ok (.imported connected notifications isDispatched)) :
    ¬Between call.caller.id connected one other := by
  have outcome := served call service
  generalize (service.serve call).1 = result, (service.serve call).2 = later at outcome answered
  cases outcome with
  | failed error => cases answered
  | added target isNew database asked different run => cases Except.ok.inj answered
  | removed target database asked different run => cases answered
  | barred target database asked different run => cases answered
  | listed friends asked => cases answered
  | imported externalId contacts listed database asked run =>
    cases (Outcome.imported.inj (Except.ok.inj answered)).1
    exact Relationship.not_between_of_connectNew blocks run

/-- Nobody is told anything by somebody with whom they are in a block. -/
theorem not_between_of_told (blocks : service.database.Blocks one other position) :
    ∀ notification ∈ told (service.serve call).1,
      ¬Between notification.sender [notification.recipient] one other := by
  have outcome := served call service
  generalize (service.serve call).1 = result, (service.serve call).2 = later at outcome ⊢
  intro notification member
  cases outcome with
  | failed error => cases member
  | added target isNew database asked different run =>
    change notification ∈
      if isNew then [Notification.added _ _ call.caller target] else [] at member
    split at member
    · cases List.mem_singleton.mp member
      exact Relationship.not_between_of_connect blocks different run
    · cases member
  | removed target database asked different run => cases member
  | barred target database asked different run => cases member
  | listed friends asked => cases member
  | imported externalId contacts connected database asked run =>
    obtain ⟨index, inside, rfl⟩ := List.mem_mapIdx.mp member
    intro between
    exact Relationship.not_between_of_connectNew blocks run
      (between.of_mem (List.getElem_mem inside))

/-- No call brings back the edge against a block. -/
theorem back_serve (blocks : service.database.Blocks one other position) :
    ((service.serve call).2.database.edge? other one).isSome →
      (service.database.edge? other one).isSome := by
  apply database_serve fun after =>
    (after.edge? other one).isSome → (service.database.edge? other one).isSome
  · exact id
  · intro _ _ _ different run made
    have apart := Relationship.not_between_of_connect blocks different run
    rw [Relationship.edge?_connect different run, if_neg fun between => apart between.symm,
      Option.or_none] at made
    exact made
  · intro _ _ _ different run made
    rw [Relationship.edge?_disconnect different run] at made
    split at made
    · cases made
    · exact made
  · exact fun _ _ different run => Relationship.edge?_of_edge?_bar different run
  · intro _ _ _ run made
    have apart := Relationship.not_between_of_connectNew blocks run
    rw [Relationship.edge?_connectNew run, if_neg fun between => apart between.symm,
      Option.or_none] at made
    exact made

/-- A block keeps the two apart in every call. -/
theorem keepsApart (blocks : service.database.Blocks one other position) (call : Call) :
    service.KeepsApart call one other where
  adding := error_of_joins blocks
  importing _ _ _ := not_between_of_imported blocks
  telling := not_between_of_told blocks
  returning := back_serve blocks

/-- Either of two users can remove the other one as long as there are tables of edges and
counters, whatever these hold. -/
theorem serve_of_parts {edges : Table EdgeRow} (present : service.database.edges = some edges)
    (counted : service.database.counters.isSome) (apart : one ≠ other)
    (parts : call.Parts one other) :
    (service.serve call).1 = .ok .done ∧
      (service.serve call).2.database.edge? one other = none := by
  obtain ⟨terms, occasion, caller, operation⟩ := call
  obtain ⟨target, asked, between⟩ := parts
  cases asked
  have different : caller.id ≠ target := by
    rintro rfl
    rcases Relationship.between_singleton_iff.mp between with ⟨rfl, rfl⟩ | ⟨rfl, rfl⟩ <;>
      exact apart rfl
  have run : Relationship.disconnect terms.budget caller.id target occasion.time
      service.database = (.ok (), _) :=
    (Relationship.disconnect_eq_ok_iff different).mpr ⟨edges, present, .inr counted, rfl⟩
  have removed := Relationship.remove_eq_ok_iff.mpr ⟨different, run⟩
  have done : service.serve ⟨terms, occasion, caller, .remove target⟩ = _ := change_of_ok removed
  rw [done]
  refine ⟨rfl, ?_⟩
  exact (Relationship.edge?_disconnect different run ..).trans (if_pos between)

/-- **A block holds until it is removed.** It stays at its position through every run without a
removal between its two users, the edge back is never made, and each further call keeps the two
apart; the sender gets nothing but what the call tells. A removal by either of them then deletes
the block, provided that there are counters. -/
theorem block_holds_until_removed (calls : List Call) (service : Service State)
    (blocks : service.database.Blocks one other position)
    (apart : ∀ call ∈ calls, ¬call.Parts one other) :
    let reached := service.serveAll calls
    reached.database.Blocks one other position ∧
      ((reached.database.edge? other one).isSome → (service.database.edge? other one).isSome) ∧
      ∀ call, reached.KeepsApart call one other ∧
        (reached.serve call).2.sender =
          (dispatch (told (reached.serve call).1) reached.sender).2 ∧
        (one ≠ other → call.Parts one other → reached.database.counters.isSome →
          (reached.serve call).1 = .ok .done ∧
            (reached.serve call).2.database.edge? one other = none) := by
  intro reached
  have held : reached.database.Blocks one other position ∧
      ((reached.database.edge? other one).isSome →
        (service.database.edge? other one).isSome) := by
    refine serveAll_induction (fun later =>
      later.database.Blocks one other position ∧
        ((later.database.edge? other one).isSome → (service.database.edge? other one).isSome)) ?_
      ⟨blocks, id⟩
    rintro call member later ⟨holds, earlier⟩
    exact ⟨blocks_serve holds (apart call member), fun made => earlier (back_serve holds made)⟩
  refine ⟨held.1, held.2, fun call => ⟨keepsApart held.1 call, sender_serve call reached, ?_⟩⟩
  intro different parts counted
  obtain ⟨row, stored, _⟩ := held.1
  obtain ⟨edges, present, _⟩ := Option.bind_eq_some_iff.mp stored
  exact serve_of_parts present counted different parts

/-- Blocked by a friend, a user tries to add the friend again and to block them; both fail, and
then the user removes the block. -/
theorem block_holds_until_removed_pair :
    let service := Pair.strangers.serveAll
      [Pair.call 5 (.add Pair.bob), Pair.call 6 (.block Pair.bob)]
    let byBob (operation : Operation) : Call :=
      { Pair.call 7 operation with caller := ⟨Pair.bob, "bob"⟩ }
    let reached := service.serveAll [byBob (.add Pair.ada), byBob (.block Pair.ada)]
    service.database.Blocks Pair.ada.bytes Pair.bob.bytes 5 ∧
      reached.database.Blocks Pair.ada.bytes Pair.bob.bytes 5 ∧
      (reached.serve (byBob (.add Pair.ada))).1 = .error .blocked ∧
      (reached.serve (byBob (.remove Pair.ada))).1 = .ok .done ∧
      (reached.serve (byBob (.remove Pair.ada))).2.database.edge? Pair.ada.bytes
        Pair.bob.bytes = none := by
  intro service byBob reached
  have blocks : service.database.Blocks Pair.ada.bytes Pair.bob.bytes 5 := ⟨_, rfl, rfl, rfl⟩
  have apart : ∀ call ∈ [byBob (.add Pair.ada), byBob (.block Pair.ada)],
      ¬call.Parts Pair.ada.bytes Pair.bob.bytes := by
    rintro call member ⟨target, asked, _⟩
    rcases List.mem_cons.mp member with rfl | member
    · cases asked
    · cases List.mem_singleton.mp member
      cases asked
  have held := block_holds_until_removed _ service blocks apart
  have parts : (byBob (.remove Pair.ada)).Parts Pair.ada.bytes Pair.bob.bytes :=
    ⟨Pair.ada, rfl, by decide⟩
  exact ⟨blocks, held.1, rfl, (held.2.2 _).2.2 (by decide) parts rfl⟩

end Service

end FriendGraph
