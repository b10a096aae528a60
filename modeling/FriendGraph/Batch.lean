/-! # Batches under a parameter limit

A statement may bind only so many parameters, so a long list of items is cut into consecutive
chunks, one statement each. `chunks` cuts a list into nonempty pieces (`ne_nil_of_mem_chunks`)
of at most the given size (`length_le_of_mem_chunks`) that together are the list again
(`flatten_chunks`).
-/

namespace FriendGraph

/-- The number of items that fit into one statement when every item binds `perItem` parameters
and the statement itself `fixed`. At least one item always goes, so that a batch makes
progress. -/
def chunkSize (limit perItem fixed : Nat) : Nat :=
  max ((limit - fixed) / max perItem 1) 1

/-- Whatever the limit, a chunk has room for an item. -/
theorem chunkSize_pos (limit perItem fixed : Nat) : 0 < chunkSize limit perItem fixed := by
  unfold chunkSize
  omega

/-- The parameter limit that a store works under. A pair of edge rows always fits. -/
structure Budget where
  parameters : Nat
  ten_le_parameters : 10 ≤ parameters

namespace Budget

/-- The limit that a setting asks for, raised to what a pair of edge rows binds. -/
def ofSetting (setting : Nat) : Budget := ⟨max setting 10, Nat.le_max_right setting 10⟩

/-- The number of items per statement under this limit. -/
def perStatement (budget : Budget) (perItem fixed : Nat) : Nat :=
  chunkSize budget.parameters perItem fixed

end Budget

variable {Item : Type}

/-- The items that fill up the room left in the present chunk, and the chunks after it. -/
def cut (size : Nat) : Nat → List Item → List Item × List (List Item)
  | _, [] => ([], [])
  | 0, item :: rest =>
    let further := cut size (size - 1) rest
    ([], (item :: further.1) :: further.2)
  | room + 1, item :: rest =>
    let further := cut size room rest
    (item :: further.1, further.2)

/-- A list in consecutive pieces, all of the given size but the last, which may be shorter. -/
def chunks (size : Nat) (items : List Item) : List (List Item) :=
  match cut size size items with
  | ([], later) => later
  | (first, later) => first :: later

/-- Cutting leaves the items as they are, one after another. -/
theorem flatten_cut (size room : Nat) (items : List Item) :
    (cut size room items).1 ++ (cut size room items).2.flatten = items := by
  induction items generalizing room with
  | nil => cases room <;> rfl
  | cons item rest inductionHypothesis =>
    cases room with
    | zero => simpa [cut] using inductionHypothesis (size - 1)
    | succ room => simpa [cut] using inductionHypothesis room

/-- The pieces of a list are the list. -/
theorem flatten_chunks (size : Nat) (items : List Item) : (chunks size items).flatten = items := by
  have whole := flatten_cut size size items
  unfold chunks
  split
  · next cutItems => simpa [cutItems] using whole
  · next cutItems => simpa [cutItems] using whole

/-- What stays behind has no more items than there is room for. -/
theorem length_cut_le (size room : Nat) (items : List Item) :
    (cut size room items).1.length ≤ room := by
  induction items generalizing room with
  | nil => cases room <;> simp [cut]
  | cons item rest inductionHypothesis =>
    cases room with
    | zero => simp [cut]
    | succ room => simpa [cut] using inductionHypothesis room

/-- Every piece that is cut off holds an item, and no more than its size. -/
theorem mem_cut {size room : Nat} (positive : 0 < size) {items chunk : List Item}
    (member : chunk ∈ (cut size room items).2) : chunk ≠ [] ∧ chunk.length ≤ size := by
  induction items generalizing room with
  | nil => cases room <;> simp [cut] at member
  | cons item rest inductionHypothesis =>
    cases room with
    | zero =>
      simp only [cut, List.mem_cons] at member
      rcases member with rfl | later
      · have short := length_cut_le size (size - 1) rest
        simp only [ne_eq, List.cons_ne_nil, not_false_eq_true, List.length_cons, true_and]
        omega
      · exact inductionHypothesis later
    | succ room => exact inductionHypothesis member

/-- Every chunk holds an item, and no more than its size. -/
theorem mem_chunks {size : Nat} (positive : 0 < size) {items chunk : List Item}
    (member : chunk ∈ chunks size items) : chunk ≠ [] ∧ chunk.length ≤ size := by
  have short := length_cut_le size size items
  have later := @mem_cut Item size size positive items chunk
  unfold chunks at member
  split at member
  · next cutItems => exact later (by simpa [cutItems] using member)
  · next first more nonempty cutItems =>
    rcases List.mem_cons.mp member with rfl | further
    · simp only [cutItems] at short
      exact ⟨nonempty, short⟩
    · exact later (by simpa [cutItems] using further)

/-- No piece is empty. -/
theorem ne_nil_of_mem_chunks {size : Nat} (positive : 0 < size) {items chunk : List Item}
    (member : chunk ∈ chunks size items) : chunk ≠ [] := (mem_chunks positive member).1

/-- No piece is longer than the size asked for. -/
theorem length_le_of_mem_chunks {size : Nat} (positive : 0 < size) {items chunk : List Item}
    (member : chunk ∈ chunks size items) : chunk.length ≤ size := (mem_chunks positive member).2

end FriendGraph
