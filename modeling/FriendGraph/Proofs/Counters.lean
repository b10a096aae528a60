import FriendGraph.Proofs.Table
import FriendGraph.Statement

/-! # Counters that are raised and lowered

Raising the counters of a list of users adds the amount once per occurrence and stamps exactly
the counters of those users (`Statement.find?_raiseAll`); a user without a counter gets one, as
if it had been zero (`Table.tally`). Lowering changes only counters that are there
(`Statement.find?_lower`). Users may be raised in batches (`Statement.foldl_raiseAll`), and lowered
in batches as long as nobody is listed twice (`Statement.foldl_lower`).
-/

namespace FriendGraph

/-- The count of a user, zero when there is no row for it. -/
def Table.tally (owner : StoredId) (table : Table CounterRow) : Int :=
  ((table.find? owner).map (·.count)).getD 0

namespace Statement

variable {table : Table CounterRow} {owner : StoredId}

theorem owner_of_find? {row : CounterRow} (found : table.find? owner = some row) :
    row.owner = owner := (Table.find?_eq_some_iff.mp found).2

/-- Raising adds to the counter of the user, which starts with zero, and stamps it. -/
theorem find?_raise (amount time : Int) (table : Table CounterRow) (user : UserId)
    (owner : StoredId) :
    (raise amount time table user).find? owner =
      if owner = user.bytes then some ⟨owner, table.tally owner + amount, time⟩
      else table.find? owner := by
  unfold raise
  split
  · next grown appended =>
    obtain ⟨free, rows⟩ := Table.append?_eq_some_iff.mp appended
    rw [Table.find?_of_rows_eq_append rows]
    by_cases same : owner = user.bytes
    · subst same
      have absent : table.find? user.bytes = none := Table.find?_eq_none_iff.mpr free
      simp [Table.tally, absent, Keyed.key]
    · simp [same, Keyed.key, Ne.symm same]
  · next appended =>
    have taken := Table.append?_eq_none_iff.mp appended
    rw [Table.find?_adjust]
    by_cases same : owner = user.bytes
    · subst same
      cases found : table.find? user.bytes with
      | none => exact absurd taken (Table.find?_eq_none_iff.mp found)
      | some row =>
        have owned := owner_of_find? found
        simp [Table.tally, found, owned, CounterRow.raised]
    · cases found : table.find? owner with
      | none => simp [same]
      | some row =>
        have owned := owner_of_find? found
        simp [same, owned]

/-- Raising adds to the tally of the user only. -/
theorem tally_raise (amount time : Int) (table : Table CounterRow) (user : UserId)
    (owner : StoredId) :
    (raise amount time table user).tally owner =
      table.tally owner + if owner = user.bytes then amount else 0 := by
  rw [Table.tally, find?_raise]
  by_cases same : owner = user.bytes
  · simp [same]
  · simp [same, Table.tally]

/-- The counters raised for every user of a list in turn. -/
def raiseAll (users : List UserId) (amount time : Int) (table : Table CounterRow) :
    Table CounterRow := users.foldl (raise amount time) table

@[simp] theorem raiseAll_nil (amount time : Int) (table : Table CounterRow) :
    raiseAll [] amount time table = table := rfl

/-- A user gets the amount once per occurrence; who does not occur keeps the counter as it is. -/
theorem find?_raiseAll (users : List UserId) (amount time : Int) (table : Table CounterRow)
    (owner : StoredId) :
    (raiseAll users amount time table).find? owner =
      if owner ∈ users.map UserId.bytes then
        some ⟨owner, table.tally owner + amount * (users.map UserId.bytes).count owner, time⟩
      else table.find? owner := by
  induction users generalizing table with
  | nil => simp
  | cons user rest inductionHypothesis =>
    have first : raiseAll (user :: rest) amount time table =
        raiseAll rest amount time (raise amount time table user) := rfl
    rw [first, inductionHypothesis, tally_raise, find?_raise]
    by_cases same : owner = user.bytes
    · subst same
      by_cases later : user.bytes ∈ rest.map UserId.bytes
      · have sum : table.tally user.bytes + amount +
            amount * (rest.map UserId.bytes).count user.bytes =
              table.tally user.bytes + amount * ((rest.map UserId.bytes).count user.bytes + 1) := by
          rw [Int.mul_add, Int.mul_one]
          omega
        simp only [later, ↓reduceIte, sum, List.map_cons, List.mem_cons, true_or,
          List.count_cons_self, Int.natCast_add, Int.cast_ofNat_Int]
      · have none : (rest.map UserId.bytes).count user.bytes = 0 := List.count_eq_zero.mpr later
        simp [later, none]
    · have other : user.bytes ≠ owner := Ne.symm same
      simp [same, List.count_cons_of_ne other]

/-- The tally grows by the amount for each occurrence. -/
theorem tally_raiseAll (users : List UserId) (amount time : Int) (table : Table CounterRow)
    (owner : StoredId) :
    (raiseAll users amount time table).tally owner =
      table.tally owner + amount * (users.map UserId.bytes).count owner := by
  rw [Table.tally, find?_raiseAll]
  by_cases member : owner ∈ users.map UserId.bytes
  · simp [member]
  · simp [member, List.count_eq_zero.mpr member, Table.tally]

/-- Lowering takes one from each listed user who has a counter. -/
theorem find?_lower (users : List UserId) (time : Int) (table : Table CounterRow)
    (owner : StoredId) :
    (lower users time table).find? owner =
      if owner ∈ users.map UserId.bytes then
        (table.find? owner).map fun row => row.raised (-1) time
      else table.find? owner := by
  unfold lower
  rw [Table.find?_adjust]
  cases found : table.find? owner with
  | none => simp
  | some row =>
    have owned := owner_of_find? found
    by_cases member : owner ∈ users.map UserId.bytes <;>
      simp only [Option.map_some, owned, member, ↓reduceIte]

@[simp] theorem lower_nil (time : Int) (table : Table CounterRow) :
    lower [] time table = table := by
  apply Table.ext
  simp [lower]

/-- Users who are lowered in two batches are lowered as in one, if nobody is in both. -/
theorem lower_lower {first second : List UserId} (apart : ∀ user ∈ first, user ∉ second)
    (time : Int) (table : Table CounterRow) :
    lower second time (lower first time table) = lower (first ++ second) time table := by
  apply Table.ext
  simp only [lower, Table.rows_adjust, List.map_map]
  refine List.map_congr_left fun row _ => ?_
  rw [Function.comp_apply, List.map_append]
  by_cases isFirst : row.owner ∈ first.map UserId.bytes
  · have notSecond : row.owner ∉ second.map UserId.bytes := by
      obtain ⟨user, member, same⟩ := List.mem_map.mp isFirst
      intro isSecond
      obtain ⟨other, alsoMember, alsoSame⟩ := List.mem_map.mp isSecond
      have equal : other = user := UserId.ext (alsoSame.trans same.symm)
      exact apart user member (equal ▸ alsoMember)
    simp [isFirst, notSecond, CounterRow.raised]
  · simp [isFirst]

/-! ## Batches of users -/

/-- Raising batch after batch is raising all. -/
theorem foldl_raiseAll (batches : List (List UserId)) (amount time : Int)
    (table : Table CounterRow) :
    batches.foldl (fun raised batch => raiseAll batch amount time raised) table =
      raiseAll batches.flatten amount time table := List.foldl_flatten.symm

/-- Raising counts every occurrence of a user, but lowering counts one for each batch, so that here
nobody may occur twice. -/
theorem foldl_lower {batches : List (List UserId)} (distinct : batches.flatten.Nodup) (time : Int)
    (table : Table CounterRow) :
    batches.foldl (fun lowered batch => lower batch time lowered) table =
      lower batches.flatten time table := by
  induction batches generalizing table with
  | nil => exact (lower_nil time table).symm
  | cons batch rest inductionHypothesis =>
    rw [List.flatten_cons] at distinct ⊢
    obtain ⟨_, later, apart⟩ := List.nodup_append.mp distinct
    have disjoint : ∀ user ∈ batch, user ∉ rest.flatten :=
      fun user member again => apart user member user again rfl
    rw [List.foldl_cons, inductionHypothesis later, lower_lower disjoint]

end Statement

end FriendGraph
