import FriendGraph.Proofs.Run

/-! # What batched statements bind

A list is cut into chunks so that one statement for each chunk binds no more parameters than the
budget has. A chunk is full when it has as many items as its plan allows
(`Budget.perStatement_mul_add_le`), and a statement binds so many parameters for each of them and
so many for itself. Searching accounts and peers, inserting pairs and raising counters keep the
budget, however long the list is. Lowering counters allows for one parameter of its own but binds
two, the subtracted one and the time: a full chunk exceeds the budget by one
(`Store.batches_keep_the_budget`).
-/

namespace FriendGraph

namespace Budget

variable (budget : Budget) {perItem fixed : Nat}

/-- As long as one item fits, as many fit as go into one statement. -/
theorem perStatement_mul_add_le (positive : 0 < perItem)
    (fits : perItem + fixed ≤ budget.parameters) :
    perItem * budget.perStatement perItem fixed + fixed ≤ budget.parameters := by
  have room : perItem ≤ budget.parameters - fixed := by omega
  have divisor : max perItem 1 = perItem := Nat.max_eq_left positive
  have some : 1 ≤ (budget.parameters - fixed) / perItem := (Nat.one_le_div_iff positive).mpr room
  have whole : perItem * ((budget.parameters - fixed) / perItem) ≤ budget.parameters - fixed :=
    Nat.mul_div_le _ _
  rw [perStatement, chunkSize, divisor, Nat.max_eq_left some]
  omega

/-- A statement that binds one parameter besides the items has room for one item less than the
limit. -/
theorem perStatement_one_one : budget.perStatement 1 1 = budget.parameters - 1 := by
  have large := budget.ten_le_parameters
  rw [perStatement, chunkSize, Nat.max_self, Nat.div_one]
  omega

/-- What a chunk binds stays within the budget. -/
theorem mul_length_add_le {Item : Type} {items chunk : List Item} (positive : 0 < perItem)
    (fits : perItem + fixed ≤ budget.parameters)
    (member : chunk ∈ chunks (budget.perStatement perItem fixed) items) :
    perItem * chunk.length + fixed ≤ budget.parameters :=
  calc perItem * chunk.length + fixed
      ≤ perItem * budget.perStatement perItem fixed + fixed := by
        have short := length_le_of_mem_chunks (chunkSize_pos _ _ _) member
        exact Nat.add_le_add_right (Nat.mul_le_mul_left perItem short) fixed
    _ ≤ budget.parameters := budget.perStatement_mul_add_le positive fits

end Budget

/-! ## Full chunks -/

section Chunks

variable {Item Value : Type}

/-- Items with so many values each have so many times their number. -/
theorem length_flatMap_of_const (values : Item → List Value) (size : Nat)
    (const : ∀ item, (values item).length = size) (items : List Item) :
    (items.flatMap values).length = size * items.length := by
  rw [List.length_flatMap, List.map_congr_left fun item _ => const item, List.map_const',
    List.sum_replicate_nat, Nat.mul_comm]

/-- What is cut off first has as many items as there is room for. -/
theorem length_cut (size room : Nat) (items : List Item) :
    (cut size room items).1.length = min room items.length := by
  induction items generalizing room with
  | nil => cases room <;> rfl
  | cons item rest inductionHypothesis =>
    cases room with
    | zero => rw [cut, List.length_nil, Nat.zero_min]
    | succ room =>
      rw [cut, List.length_cons, inductionHypothesis, List.length_cons, Nat.succ_min_succ]

/-- The first chunk is full as soon as there are enough items. -/
theorem exists_full_chunk {size : Nat} (positive : 0 < size) {items : List Item}
    (many : size ≤ items.length) : ∃ chunk ∈ chunks size items, chunk.length = size := by
  have full : (cut size size items).1.length = size := by
    rw [length_cut, Nat.min_eq_left many]
  unfold chunks
  split
  · next cutItems =>
    rw [cutItems] at full
    exact absurd full.symm (Nat.ne_of_gt positive)
  · next first later nonempty cutItems =>
    rw [cutItems] at full
    exact ⟨first, List.mem_cons_self, full⟩

/-- No chunk is longer than the list. -/
theorem length_le_length_of_mem_chunks {size : Nat} {items chunk : List Item}
    (member : chunk ∈ chunks size items) : chunk.length ≤ items.length := by
  have sub : chunk.Sublist (chunks size items).flatten := List.sublist_flatten_of_mem member
  rw [flatten_chunks] at sub
  exact sub.length_le

end Chunks

/-! ## What a statement binds -/

namespace Statement

/-- Looking accounts up binds each of them. -/
theorem length_parameters_usersOfAccounts (externalIds : List String) :
    (usersOfAccounts externalIds).parameters.length = externalIds.length :=
  List.length_map _

/-- Asking for destinations binds the candidates and the user. -/
theorem length_parameters_destinations (user : UserId) (candidates : List UserId) :
    (destinations user candidates).parameters.length = candidates.length + 1 := by
  rw [parameters, List.length_cons, List.length_map]

/-- Asking for sources binds the candidates and the user. -/
theorem length_parameters_sources (user : UserId) (candidates : List UserId) :
    (sources user candidates).parameters.length = candidates.length + 1 := by
  rw [parameters, List.length_cons, List.length_map]

/-- Inserting edges binds the five columns of each. -/
theorem length_parameters_insertEdges (rows : List EdgeRow) :
    (insertEdges rows).parameters.length = 5 * rows.length := by
  rw [parameters]
  exact length_flatMap_of_const _ 5 (fun _ => rfl) rows

/-- Raising counters binds three values for each. -/
theorem length_parameters_raiseCounters (users : List UserId) (amount time : Int) :
    (raiseCounters users amount time).parameters.length = 3 * users.length := by
  rw [parameters]
  exact length_flatMap_of_const _ 3 (fun _ => rfl) users

/-- Besides the users, the subtracted one and the time are bound. -/
theorem length_parameters_lowerCounters (users : List UserId) (time : Int) :
    (lowerCounters users time).parameters.length = users.length + 2 := by
  rw [parameters, List.length_cons, List.length_cons, List.length_map]

/-- Every statement of a plan binds at most so many parameters. -/
def Fits {Answer : Type} (limit : Nat) (plan : List (Statement Answer)) : Prop :=
  ∀ statement ∈ plan, statement.parameters.length ≤ limit

/-- A plan of one statement for each piece fits exactly when each of them does. -/
theorem fits_map_iff {Answer Item : Type} {limit : Nat} {make : List Item → Statement Answer}
    {pieces : List (List Item)} :
    Fits limit (pieces.map make) ↔ ∀ piece ∈ pieces, (make piece).parameters.length ≤ limit :=
  List.forall_mem_map

end Statement

namespace Store

open Statement

variable (budget : Budget)

/-- Looking accounts up keeps the limit. -/
theorem fits_lookupPlan (externalIds : List String) :
    Fits budget.parameters (lookupPlan budget externalIds) := by
  have large := budget.ten_le_parameters
  refine fits_map_iff.mpr fun chunk member => ?_
  have bound := budget.mul_length_add_le Nat.one_pos (by omega) member
  rw [length_parameters_usersOfAccounts]
  omega

/-- Asking for related peers keeps the limit. -/
theorem fits_relatedPlan (user : UserId) (candidates : List UserId) :
    Fits budget.parameters (relatedPlan budget user candidates) := by
  have large := budget.ten_le_parameters
  intro statement member
  obtain ⟨chunk, piece, either⟩ := List.mem_flatMap.mp member
  have bound := budget.mul_length_add_le Nat.one_pos (by omega) piece
  rw [Nat.one_mul] at bound
  simp only [List.mem_cons, List.not_mem_nil, or_false] at either
  rcases either with rfl | rfl
  · rwa [length_parameters_destinations]
  · rwa [length_parameters_sources]

/-- Connecting peers keeps the limit. -/
theorem fits_pairPlan (source : UserId) (peers : List UserId) (time : Int) :
    Fits budget.parameters (pairPlan budget source peers time) := by
  have large := budget.ten_le_parameters
  refine fits_map_iff.mpr fun chunk member => ?_
  have bound := budget.mul_length_add_le (by decide) large member
  rw [length_parameters_insertEdges, length_flatMap_of_const _ 2 fun _ => rfl]
  omega

/-- Raising counters keeps the limit. -/
theorem fits_incrementPlan (users : List UserId) (amount time : Int) :
    Fits budget.parameters (incrementPlan budget users amount time) := by
  have large := budget.ten_le_parameters
  refine fits_map_iff.mpr fun chunk member => ?_
  rw [length_parameters_raiseCounters]
  exact budget.mul_length_add_le (by decide) (by omega) member

/-- Lowering counters exceeds the budget by one at most. -/
theorem fits_decrementPlan (users : List UserId) (time : Int) :
    Fits (budget.parameters + 1) (decrementPlan budget users time) := by
  have large := budget.ten_le_parameters
  refine fits_map_iff.mpr fun chunk member => ?_
  have bound := budget.mul_length_add_le Nat.one_pos (by omega) member
  rw [length_parameters_lowerCounters]
  omega

/-- Lowering counters keeps the budget exactly as long as no chunk is full. -/
theorem fits_decrementPlan_iff (users : List UserId) (time : Int) :
    Fits budget.parameters (decrementPlan budget users time) ↔
      users.length + 1 < budget.parameters := by
  have large := budget.ten_le_parameters
  rw [decrementPlan, fits_map_iff, budget.perStatement_one_one]
  simp only [length_parameters_lowerCounters]
  constructor
  · intro bound
    refine Nat.lt_of_not_le fun many => ?_
    have positive : 0 < budget.parameters - 1 := by omega
    obtain ⟨chunk, member, full⟩ := exists_full_chunk positive (Nat.sub_le_of_le_add many)
    have exceeded := bound chunk member
    omega
  · intro few chunk member
    have short := length_le_length_of_mem_chunks member
    omega

/-- **Batches keep the budget, except that lowering counters may exceed it by one.** Under every
setting of the limit and for lists of any length, no statement that searches accounts or peers,
inserts pairs or raises counters binds more than the limit. Those that lower counters keep it
exactly when there are at least two users fewer than the limit, and otherwise bind one more. -/
theorem batches_keep_the_budget (setting : Nat) :
    (∀ externalIds,
      Fits (max setting 10) (lookupPlan (.ofSetting setting) externalIds)) ∧
    (∀ user candidates,
      Fits (max setting 10) (relatedPlan (.ofSetting setting) user candidates)) ∧
    (∀ source peers time,
      Fits (max setting 10) (pairPlan (.ofSetting setting) source peers time)) ∧
    (∀ users amount time,
      Fits (max setting 10) (incrementPlan (.ofSetting setting) users amount time)) ∧
    ∀ users time,
      Fits (max setting 10 + 1) (decrementPlan (.ofSetting setting) users time) ∧
      (Fits (max setting 10) (decrementPlan (.ofSetting setting) users time) ↔
        users.length + 1 < max setting 10) :=
  ⟨fits_lookupPlan _, fits_relatedPlan _, fits_pairPlan _, fits_incrementPlan _,
    fun users time => ⟨fits_decrementPlan _ users time, fits_decrementPlan_iff _ users time⟩⟩

/-- Nine users are lowered by one statement under a limit of ten, and it binds eleven parameters. -/
theorem lowering_exceeds_the_budget :
    ∃ statement ∈ decrementPlan (.ofSetting 10) (List.replicate 9 Pair.ada) 7,
      statement.parameters.length = 11 :=
  ⟨.lowerCounters (List.replicate 9 Pair.ada) 7, List.mem_singleton.mpr rfl, rfl⟩

end Store

end FriendGraph
