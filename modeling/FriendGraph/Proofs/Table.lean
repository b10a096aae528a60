import FriendGraph.Table

/-! # Looking up rows in a changed table

Every change of a table is described by what looking a key up finds afterwards: inserting a row
adds it unless its key is taken (`Table.find?_insert`), appending rows adds all of them
(`Table.find?_of_rows_eq_append`), a filter withholds the rows it drops (`Table.find?_filter`),
and an adjustment changes the row that is found (`Table.find?_adjust`). Rows are counted by
`List.countP`, and at most one of them has a given key (`Table.countP_key`).
-/

namespace FriendGraph.Table

variable {Row Key : Type} [Keyed Row Key] [DecidableEq Key] {table grown : Table Row} {row : Row}
  {key : Key}

omit [DecidableEq Key] in
/-- Rows make a table exactly when no key comes twice. -/
theorem exists_rows_eq_iff {rows : List Row} :
    (∃ table : Table Row, table.rows = rows) ↔ (rows.map Keyed.key).Nodup := by
  constructor
  · rintro ⟨table, rfl⟩
    exact table.nodup_keys
  · exact fun distinct => ⟨⟨rows, distinct⟩, rfl⟩

/-- Nothing is found exactly when no row has the key. -/
theorem find?_eq_none_iff : table.find? key = none ↔ key ∉ table.rows.map Keyed.key := by
  constructor
  · rintro absent present
    obtain ⟨row, member, keyed⟩ := List.mem_map.mp present
    rw [find?_eq_some_iff.mpr ⟨member, keyed⟩] at absent
    cases absent
  · intro absent
    cases found : table.find? key with
    | none => rfl
    | some row =>
      obtain ⟨member, keyed⟩ := find?_eq_some_iff.mp found
      exact absurd (List.mem_map.mpr ⟨row, member, keyed⟩) absent

/-- A row is found under its key. -/
theorem find?_key_of_mem (member : row ∈ table.rows) : table.find? (Keyed.key row) = some row :=
  find?_eq_some_iff.mpr ⟨member, rfl⟩

/-- A key is taken exactly when a row has it. -/
theorem has_eq_true_iff : table.has key = true ↔ key ∈ table.rows.map Keyed.key := by
  rw [has, Option.isSome_iff_ne_none, ne_eq, find?_eq_none_iff, Classical.not_not]

/-- A key is free exactly when no row has it. -/
theorem has_eq_false_iff : table.has key = false ↔ key ∉ table.rows.map Keyed.key := by
  rw [← has_eq_true_iff, Bool.not_eq_true]

/-- Tables in which every key leads to the same row have the same rows, in some order. A missing
table is as good as an empty one. -/
theorem perm_of_find? {one other : Option (Table Row)}
    (same : ∀ key, one.bind (find? key) = other.bind (find? key)) :
    (one.elim [] rows).Perm (other.elim [] rows) := by
  have distinct : ∀ table : Option (Table Row), (table.elim [] rows).Nodup := by
    rintro (_ | table)
    · exact List.nodup_nil
    · have keys := List.pairwise_map.mp table.nodup_keys
      exact keys.imp fun different same => different (congrArg Keyed.key same)
  have stored : ∀ (table : Option (Table Row)) (row : Row),
      row ∈ table.elim [] rows ↔ table.bind (find? (Keyed.key row)) = some row := by
    rintro (_ | table) row
    · simp
    · rw [Option.bind_some, find?_eq_some_iff]
      exact ⟨fun member => ⟨member, rfl⟩, fun found => found.1⟩
  rw [List.perm_ext_iff_of_nodup (distinct one) (distinct other)]
  intro row
  rw [stored, stored, same]

/-- The number of rows with a key is one or zero. -/
theorem countP_key (table : Table Row) (key : Key) :
    table.rows.countP (fun row => Keyed.key row = key) = if table.has key then 1 else 0 := by
  have counted := table.nodup_keys.count (a := key)
  rw [List.count, List.countP_map] at counted
  simp only [← has_eq_true_iff] at counted
  rw [← counted]
  congr 1

/-- Of the rows that pass a test which fixes their key there is one or none. -/
theorem countP_of_keyed {test : Row → Bool} (keyed : ∀ row, test row = true → Keyed.key row = key)
    (table : Table Row) :
    table.rows.countP test = if (table.find? key).any test then 1 else 0 := by
  have found : ∀ row ∈ table.rows, Keyed.key row = key → table.find? key = some row :=
    fun row member same => find?_eq_some_iff.mpr ⟨member, same⟩
  split
  · next passed =>
    obtain ⟨row, stored, passes⟩ := (Option.any_eq_true _ _).mp passed
    have same : table.rows.countP test = table.rows.countP fun row => Keyed.key row = key := by
      apply List.countP_congr
      intro other member
      rw [decide_eq_true_eq]
      refine ⟨keyed other, fun sameKey => ?_⟩
      cases stored.symm.trans (found other member sameKey)
      exact passes
    rw [same, countP_key, has, stored]
    rfl
  · next failed =>
    rw [List.countP_eq_zero]
    intro row member passes
    rw [found row member (keyed row passes)] at failed
    exact failed passes

/-- A filter that drops rows of one key only takes at most one row from a count. -/
theorem countP_filter_not {drop : Row → Bool}
    (keyed : ∀ row, drop row = true → Keyed.key row = key) (test : Row → Bool)
    (table : Table Row) :
    table.rows.countP test =
      (table.filter fun row => !drop row).rows.countP test +
        if (table.find? key).any (fun row => test row && drop row) then 1 else 0 := by
  have dropped : ∀ row, (test row && drop row) = true → Keyed.key row = key :=
    fun row both => keyed row (Bool.and_eq_true_iff.mp both).2
  rw [List.countP_eq_countP_filter_add _ test drop, ← countP_of_keyed dropped, List.countP_filter,
    Nat.add_comm]
  rfl

/-! ## Insertion -/

/-- The table with one more row at its end, or as it is when the key of the row is taken. -/
def insert (row : Row) (table : Table Row) : Table Row := (table.append? row).getD table

/-- A row cannot be appended exactly when its key is taken. -/
theorem append?_eq_none_iff :
    table.append? row = none ↔ Keyed.key row ∈ table.rows.map Keyed.key := by
  unfold append?
  split <;> simp_all

/-- A row is inserted at the end, if its key is free. -/
theorem rows_insert (row : Row) (table : Table Row) :
    (table.insert row).rows =
      table.rows ++ if table.has (Keyed.key row) then [] else [row] := by
  unfold insert
  cases appended : table.append? row with
  | none =>
    have taken := has_eq_true_iff.mpr (append?_eq_none_iff.mp appended)
    simp [taken]
  | some grown =>
    obtain ⟨free, rows⟩ := append?_eq_some_iff.mp appended
    simp [has_eq_false_iff.mpr free, rows]

/-- Where a row can be appended it is inserted. -/
theorem append?_eq_ite (row : Row) (table : Table Row) :
    table.append? row = if table.has (Keyed.key row) then none else some (table.insert row) := by
  cases taken : table.has (Keyed.key row) with
  | true => exact append?_eq_none_iff.mpr (has_eq_true_iff.mp taken)
  | false =>
    refine append?_eq_some_iff.mpr ⟨has_eq_false_iff.mp taken, ?_⟩
    rw [rows_insert, taken]
    rfl

/-- Rows that are appended are found behind those that were there. -/
theorem find?_of_rows_eq_append {rows : List Row} (same : grown.rows = table.rows ++ rows) :
    grown.find? key = (table.find? key).or (rows.find? fun row => Keyed.key row = key) := by
  unfold find?
  rw [same, List.find?_append]

/-- What was there is found after an insertion, and the new row under its key. -/
theorem find?_insert (row : Row) (table : Table Row) (key : Key) :
    (table.insert row).find? key =
      (table.find? key).or (if Keyed.key row = key then some row else none) := by
  rw [find?_of_rows_eq_append (rows_insert row table)]
  by_cases keyed : Keyed.key row = key
  · subst keyed
    cases found : table.find? (Keyed.key row) with
    | none => simp [has, found]
    | some present => simp
  · by_cases taken : table.has (Keyed.key row) <;> simp [taken, keyed]

/-- After an insertion the keys before and that of the row are taken. -/
theorem has_insert (row : Row) (table : Table Row) (key : Key) :
    (table.insert row).has key = (table.has key || decide (Keyed.key row = key)) := by
  unfold has
  rw [find?_insert, Option.isSome_or]
  by_cases keyed : Keyed.key row = key <;> simp [keyed]

/-- Nothing is inserted where the key is taken. -/
theorem insert_of_has (taken : table.has (Keyed.key row) = true) : table.insert row = table := by
  apply Table.ext
  rw [rows_insert, taken]
  simp

/-- Appending succeeds exactly when what comes out is a table, that is, when no key is taken or
repeated. -/
theorem appendAll?_eq_some_iff {rows : List Row} :
    table.appendAll? rows = some grown ↔ grown.rows = table.rows ++ rows := by
  unfold appendAll?
  induction rows generalizing table with
  | nil =>
    simp only [List.foldlM_nil, List.append_nil]
    exact ⟨fun same => by cases same; rfl, fun same => congrArg some (Table.ext same.symm)⟩
  | cons row rest inductionHypothesis =>
    rw [List.foldlM_cons]
    constructor
    · intro appended
      obtain ⟨between, first, later⟩ := Option.bind_eq_some_iff.mp appended
      rw [inductionHypothesis.mp later, (append?_eq_some_iff.mp first).2]
      simp
    · intro same
      -- The keys of the grown table differ, so the first new row meets no row with its key.
      have distinct := grown.nodup_keys
      rw [same, List.map_append, List.nodup_append] at distinct
      have free : Keyed.key row ∉ table.rows.map Keyed.key := fun taken =>
        distinct.2.2 _ taken _ (List.mem_map.mpr ⟨row, List.mem_cons_self, rfl⟩) rfl
      refine Option.bind_eq_some_iff.mpr ⟨table.insert row, ?_, ?_⟩
      · rw [append?_eq_some_iff, rows_insert, has_eq_false_iff.mpr free]
        exact ⟨free, by simp⟩
      · rw [inductionHypothesis, same, rows_insert, has_eq_false_iff.mpr free]
        simp

/-! ## Removal and adjustment -/

/-- After filtering a row is found if it was found before and is kept. -/
theorem find?_filter (keep : Row → Bool) (table : Table Row) (key : Key) :
    (table.filter keep).find? key = (table.find? key).filter keep := by
  apply Option.ext
  intro row
  rw [find?_eq_some_iff, rows_filter, List.mem_filter, Option.filter_eq_some_iff,
    find?_eq_some_iff]
  exact and_right_comm

/-- After a change the changed row is found under its key. -/
theorem find?_adjust (change : Row → Row) (keeps : ∀ row, Keyed.key (change row) = Keyed.key row)
    (table : Table Row) (key : Key) :
    (table.adjust change keeps).find? key = (table.find? key).map change := by
  unfold find?
  rw [rows_adjust, List.find?_map]
  congr 2
  funext row
  rw [Function.comp_apply, keeps]

end FriendGraph.Table
