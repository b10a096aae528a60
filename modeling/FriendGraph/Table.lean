/-! # Tables

A table is a list of rows, in the order in which they were inserted, no two of which share a
key. A row is appended only under a fresh key (`Table.append?_eq_some_iff`), a removal or an
adjustment leaves the other rows and their order alone, and looking a key up finds the one row
that has it (`Table.find?_eq_some_iff`).
-/

namespace FriendGraph

/-- Rows that are told apart by a key. -/
class Keyed (Row : Type) (Key : outParam Type) where
  key : Row → Key

/-- Rows in insertion order, with pairwise different keys. -/
structure Table (Row : Type) {Key : Type} [Keyed Row Key] where
  rows : List Row
  nodup_keys : (rows.map Keyed.key).Nodup

namespace Table

variable {Row Key : Type} [Keyed Row Key]

/-- Tables with the same rows are the same. -/
@[ext] theorem ext {left right : Table Row} (same : left.rows = right.rows) : left = right := by
  cases left
  cases right
  cases same
  rfl

/-- The table without rows. -/
def empty : Table Row := ⟨[], List.nodup_nil⟩

@[simp] theorem rows_empty : (empty : Table Row).rows = [] := rfl

/-- The rows that pass a test. -/
def filter (keep : Row → Bool) (table : Table Row) : Table Row where
  rows := table.rows.filter keep
  nodup_keys := table.nodup_keys.sublist (List.filter_sublist.map _)

@[simp] theorem rows_filter (keep : Row → Bool) (table : Table Row) :
    (table.filter keep).rows = table.rows.filter keep := rfl

/-- Every row changed by a function that leaves keys alone. -/
def adjust (change : Row → Row) (keeps : ∀ row, Keyed.key (change row) = Keyed.key row)
    (table : Table Row) : Table Row where
  rows := table.rows.map change
  nodup_keys := by
    have same : (table.rows.map change).map Keyed.key = table.rows.map Keyed.key := by
      simp only [List.map_map]
      exact List.map_congr_left fun row _ => keeps row
    exact same ▸ table.nodup_keys

@[simp] theorem rows_adjust (change : Row → Row)
    (keeps : ∀ row, Keyed.key (change row) = Keyed.key row) (table : Table Row) :
    (table.adjust change keeps).rows = table.rows.map change := rfl

variable [DecidableEq Key]

/-- The row under a key. -/
def find? (key : Key) (table : Table Row) : Option Row :=
  table.rows.find? fun row => Keyed.key row = key

/-- Whether a row has the key. -/
def has (key : Key) (table : Table Row) : Bool := (table.find? key).isSome

/-- The table with one more row at its end, unless its key is taken. -/
def append? (row : Row) (table : Table Row) : Option (Table Row) :=
  if taken : Keyed.key row ∈ table.rows.map Keyed.key then none
  else some
    { rows := table.rows ++ [row]
      nodup_keys := by
        simp only [List.map_append, List.map_cons, List.map_nil]
        refine List.nodup_append.mpr ⟨table.nodup_keys, by simp, ?_⟩
        intro key present other single same
        cases List.mem_singleton.mp single
        exact taken (same ▸ present) }

/-- The table with several more rows at its end, unless one of their keys is taken or repeated. -/
def appendAll? (rows : List Row) (table : Table Row) : Option (Table Row) :=
  rows.foldlM (fun grown row => grown.append? row) table

/-- A row is appended exactly when its key is free. -/
theorem append?_eq_some_iff {row : Row} {table grown : Table Row} :
    table.append? row = some grown ↔
      Keyed.key row ∉ table.rows.map Keyed.key ∧ grown.rows = table.rows ++ [row] := by
  unfold append?
  split
  · next taken => simp [taken]
  · next free =>
    simp only [Option.some.injEq, free, not_false_eq_true, true_and]
    exact ⟨fun same => same ▸ rfl, fun same => Table.ext same.symm⟩

/-- Looking a key up finds exactly the row that has it. -/
theorem find?_eq_some_iff {key : Key} {row : Row} {table : Table Row} :
    table.find? key = some row ↔ row ∈ table.rows ∧ Keyed.key row = key := by
  obtain ⟨rows, distinct⟩ := table
  unfold find?
  simp only
  induction rows with
  | nil => simp
  | cons first rest inductionHypothesis =>
    simp only [List.map_cons, List.nodup_cons] at distinct
    by_cases same : Keyed.key first = key
    · simp only [List.find?_cons, same, decide_true, Option.some.injEq, List.mem_cons]
      constructor
      · rintro rfl
        exact ⟨.inl rfl, same⟩
      · rintro ⟨rfl | later, keyed⟩
        · rfl
        · exact absurd (List.mem_map.mpr ⟨row, later, keyed.trans same.symm⟩) distinct.1
    · simp only [List.find?_cons, same, decide_false, List.mem_cons,
        inductionHypothesis distinct.2]
      constructor
      · rintro ⟨later, keyed⟩
        exact ⟨.inr later, keyed⟩
      · rintro ⟨rfl | later, keyed⟩
        · exact absurd keyed same
        · exact ⟨later, keyed⟩

end Table

end FriendGraph
