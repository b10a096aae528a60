import FriendGraph.Proofs.Store

/-! # Questions that are asked chunk by chunk

What is asked about a long list is asked chunk by chunk. As long as the tables are there and
everybody who is found is stored under a proper identifier, such a question has an answer, and the
chunks show in its order only. The users of external accounts are all found, each of them once,
in the first chunk that has an account of theirs (`Store.lookupAccounts_eq_ok`,
`Store.precedes_lookup`), and the related peers are those candidates who share an edge with the
user (`Store.relatedPeers_eq_ok`).
-/

namespace FriendGraph

/-! ## Lists freed from repetitions -/

section Repetitions

variable {Item : Type} [DecidableEq Item]

/-- What is left without repetitions is a part of the list. -/
theorem eraseDups_sublist : ∀ items : List Item, items.eraseDups.Sublist items
  | [] => List.Sublist.refl []
  | item :: rest => by
    have shorter : (rest.filter fun other => !other == item).length < rest.length + 1 :=
      Nat.lt_succ_of_le (List.length_filter_le _ _)
    rw [List.eraseDups_cons]
    exact ((eraseDups_sublist _).trans List.filter_sublist).cons_cons item
termination_by items => items.length

/-- Filtering and leaving out repetitions can be done in either order. -/
theorem eraseDups_filter (keep : Item → Bool) : ∀ items : List Item,
    (items.filter keep).eraseDups = items.eraseDups.filter keep
  | [] => rfl
  | item :: rest => by
    have shorter : (rest.filter fun other => !other == item).length < rest.length + 1 :=
      Nat.lt_succ_of_le (List.length_filter_le _ _)
    have later := eraseDups_filter keep (rest.filter fun other => !other == item)
    rw [List.filter_filter] at later
    rw [List.eraseDups_cons]
    by_cases kept : keep item = true
    · rw [List.filter_cons_of_pos kept, List.filter_cons_of_pos kept, List.eraseDups_cons,
        List.filter_filter, ← later]
      simp only [Bool.and_comm]
    · -- Whatever is kept is no repetition of an item that is dropped.
      have same : (rest.filter fun other => keep other && !other == item) = rest.filter keep := by
        refine List.filter_congr fun other _ => ?_
        by_cases repeated : other = item
        · simp [repeated, kept]
        · simp [repeated]
      rw [List.filter_cons_of_neg kept, List.filter_cons_of_neg kept, ← later, same]
termination_by items => items.length

/-- Without repetitions nothing is left twice. -/
theorem nodup_eraseDups : ∀ items : List Item, items.eraseDups.Nodup
  | [] => List.nodup_nil
  | item :: rest => by
    have shorter : (rest.filter fun other => !other == item).length < rest.length + 1 :=
      Nat.lt_succ_of_le (List.length_filter_le _ _)
    have removed : item ∉ (rest.filter fun other => !other == item).eraseDups := by
      simp [List.mem_eraseDups]
    rw [List.eraseDups_cons, List.nodup_cons]
    exact ⟨removed, nodup_eraseDups _⟩
termination_by items => items.length

/-- Blocks that are in order one by one stay so when they are joined without repetitions: an item
goes by the first block that has it. -/
theorem pairwise_eraseDups_flatten {before : Item → Item → Prop} {blocks : List (List Item)}
    (sorted : ∀ block ∈ blocks, block.Pairwise before) :
    blocks.flatten.eraseDups.Pairwise fun first second =>
      blocks.findIdx (first ∈ ·) < blocks.findIdx (second ∈ ·) ∨
        blocks.findIdx (first ∈ ·) = blocks.findIdx (second ∈ ·) ∧ before first second := by
  induction blocks with
  | nil => exact List.Pairwise.nil
  | cons block rest inductionHypothesis =>
    have later := inductionHypothesis fun other member =>
      sorted other (List.mem_cons_of_mem block member)
    have removed : (rest.flatten.removeAll block).eraseDups =
        rest.flatten.eraseDups.filter fun item => !block.elem item := eraseDups_filter _ _
    have here : ∀ item ∈ block, (block :: rest).findIdx (item ∈ ·) = 0 := by
      intro item member
      simp [List.findIdx_cons, member]
    have beyond : ∀ item, item ∉ block →
        (block :: rest).findIdx (item ∈ ·) = rest.findIdx (item ∈ ·) + 1 := by
      intro item absent
      simp [List.findIdx_cons, absent]
    rw [List.flatten_cons, List.eraseDups_append, removed, List.pairwise_append]
    refine ⟨?_, ?_, ?_⟩
    · have inside := (sorted block List.mem_cons_self).sublist (eraseDups_sublist block)
      refine inside.imp_of_mem fun {first second} memberFirst memberSecond precedes => .inr ?_
      rw [here first (List.mem_eraseDups.mp memberFirst),
        here second (List.mem_eraseDups.mp memberSecond)]
      exact ⟨rfl, precedes⟩
    · refine (later.filter _).imp_of_mem fun {first second} memberFirst memberSecond precedes => ?_
      have absentFirst : first ∉ block := by simpa using (List.mem_filter.mp memberFirst).2
      have absentSecond : second ∉ block := by simpa using (List.mem_filter.mp memberSecond).2
      rw [beyond first absentFirst, beyond second absentSecond]
      simpa using precedes
    · intro first memberFirst second memberSecond
      have absentSecond : second ∉ block := by simpa using (List.mem_filter.mp memberSecond).2
      rw [here first (List.mem_eraseDups.mp memberFirst), beyond second absentSecond]
      exact .inl (Nat.succ_pos _)

end Repetitions

/-- Something is in a list exactly when it is in one of its chunks. -/
theorem exists_mem_chunks {Item : Type} (size : Nat) (items : List Item) (item : Item) :
    (∃ chunk ∈ chunks size items, item ∈ chunk) ↔ item ∈ items := by
  have whole := flatten_chunks size items
  rw [← List.mem_flatten, whole]

/-! ## The users of accounts -/

namespace Directory

variable {directory : Directory} {id : UserId} {accounts : List String}

/-- Every user is stored under a proper identifier. -/
def Sized (directory : Directory) : Prop := ∀ row ∈ directory.rows, row.id.length = 16

instance : Decidable directory.Sized :=
  inferInstanceAs (Decidable (∀ row ∈ directory.rows, _))

/-- In a sized directory every stored identifier can be read. -/
theorem Sized.ofStored? (sized : directory.Sized) {row : UserRow} (member : row ∈ directory.rows) :
    UserId.ofStored? row.id = some ⟨row.id, sized row member⟩ :=
  UserId.ofStored?_eq_some_iff.mpr rfl

/-- Whoever has one of the accounts is stored under a proper identifier. -/
def Legible (directory : Directory) (accounts : List String) : Prop :=
  ∀ row ∈ directory.rows, row.externalId.any (· ∈ accounts) = true → row.id.length = 16

/-- A sized directory can be read for all accounts. -/
theorem Sized.legible (sized : directory.Sized) : directory.Legible accounts :=
  fun row member _ => sized row member

/-- What those are stored under who have one of the accounts, in ascending order. -/
def storedFor (directory : Directory) (accounts : List String) : List StoredId :=
  ((directory.rows.filter fun row => row.externalId.any (· ∈ accounts)).map (·.id)).mergeSort
    fun first second => first ≤ second

/-- What is stored for accounts are the identifiers of the users who have one of them. -/
theorem mem_storedFor {bytes : StoredId} :
    bytes ∈ directory.storedFor accounts ↔
      ∃ row ∈ directory.rows, row.externalId.any (· ∈ accounts) = true ∧ row.id = bytes := by
  simp only [storedFor, List.mem_mergeSort, List.mem_map, List.mem_filter, and_assoc]

/-- The same identifiers are stored for accounts and for their chunks. -/
theorem mem_flatten_storedFor {size : Nat} {bytes : StoredId} :
    bytes ∈ ((chunks size accounts).map directory.storedFor).flatten ↔
      bytes ∈ directory.storedFor accounts := by
  have chunked := exists_mem_chunks size accounts
  simp only [← List.flatMap_def, List.mem_flatMap, mem_storedFor, Option.any_eq_true,
    decide_eq_true_eq]
  constructor
  · rintro ⟨chunk, member, row, stored, ⟨account, isAccount, listed⟩, same⟩
    exact ⟨row, stored, ⟨account, isAccount, (chunked account).mp ⟨chunk, member, listed⟩⟩, same⟩
  · rintro ⟨row, stored, ⟨account, isAccount, listed⟩, same⟩
    obtain ⟨chunk, member, listed⟩ := (chunked account).mpr listed
    exact ⟨chunk, member, row, stored, ⟨account, isAccount, listed⟩, same⟩

/-- A directory can be read for accounts exactly when what is stored for them has the right size. -/
theorem legible_iff_storedFor :
    directory.Legible accounts ↔ ∀ bytes ∈ directory.storedFor accounts, bytes.length = 16 := by
  simp only [mem_storedFor, Legible]
  constructor
  · rintro legible _ ⟨row, stored, owned, rfl⟩
    exact legible row stored owned
  · exact fun sized row stored owned => sized row.id ⟨row, stored, owned, rfl⟩

/-- A registered user has one of the accounts. -/
def Owns (directory : Directory) (id : UserId) (accounts : List String) : Prop :=
  ∃ row ∈ directory.rows, row.id = id.bytes ∧ row.externalId.any (· ∈ accounts) = true

instance : Decidable (directory.Owns id accounts) :=
  inferInstanceAs (Decidable (∃ row ∈ directory.rows, _))

/-- The users of accounts, in ascending order. -/
def owners (directory : Directory) (accounts : List String) : List UserId :=
  (((directory.rows.filter fun row => row.externalId.any (· ∈ accounts)).map (·.id)).mergeSort
    fun first second => first ≤ second).filterMap UserId.ofStored?

/-- One user comes before another one when their first chunk does, and within a chunk when their
identifier does. -/
def Precedes (directory : Directory) (chunks : List (List String)) (first second : UserId) :
    Prop :=
  let place (id : UserId) : Nat := chunks.findIdx fun chunk => directory.Owns id chunk
  place first < place second ∨ place first = place second ∧ first.bytes < second.bytes

/-- Nobody precedes themselves. -/
theorem Precedes.ne {chunks : List (List String)} {first second : UserId}
    (precedes : directory.Precedes chunks first second) : first ≠ second := by
  rintro rfl
  rcases precedes with earlier | ⟨_, smaller⟩
  · exact Nat.lt_irrefl _ earlier
  · exact List.lt_irrefl _ smaller

/-- The identifier of a user is stored for accounts exactly when the user owns one. -/
theorem bytes_mem_storedFor_iff :
    id.bytes ∈ directory.storedFor accounts ↔ directory.Owns id accounts := by
  rw [mem_storedFor, Owns]
  exact exists_congr fun row => and_congr_right fun _ => and_comm

/-- Owners are read from what is stored for the accounts. -/
theorem owners_eq (directory : Directory) (accounts : List String) :
    directory.owners accounts = (directory.storedFor accounts).filterMap UserId.ofStored? := rfl

/-- The owners of accounts are those who own one of them. -/
theorem mem_owners : id ∈ directory.owners accounts ↔ directory.Owns id accounts := by
  rw [owners_eq, List.mem_filterMap, ← bytes_mem_storedFor_iff]
  simp only [UserId.ofStored?_eq_some_iff, exists_eq_right']

/-- Owners come in the order of their identifiers. -/
theorem pairwise_owners (directory : Directory) (accounts : List String) :
    (directory.owners accounts).Pairwise fun first second => first.bytes < second.bytes := by
  have distinct : ((directory.rows.filter fun row =>
      row.externalId.any (· ∈ accounts)).map (·.id)).Nodup :=
    directory.nodup_ids.sublist (List.filter_sublist.map _)
  have ascending := @List.pairwise_mergeSort _ (fun first second : StoredId => first ≤ second)
    (fun _ _ _ => by simpa using fun first second => List.le_trans first second)
    (fun first second => by simpa using List.le_total first second)
    ((directory.rows.filter fun row => row.externalId.any (· ∈ accounts)).map (·.id))
  have different := distinct.perm (List.mergeSort_perm _ fun first second => first ≤ second).symm
  refine List.pairwise_filterMap.mpr ((ascending.and different).imp ?_)
  rintro _ _ ⟨below, apart⟩ first found second alsoFound
  cases UserId.ofStored?_eq_some_iff.mp found
  cases UserId.ofStored?_eq_some_iff.mp alsoFound
  exact Std.lt_of_le_of_ne (of_decide_eq_true below) apart

end Directory

namespace Store

variable {database : Database} {directory : Directory} {edges : Table EdgeRow} {budget : Budget}
  {user : UserId} {accounts : List String} {candidates : List UserId}

/-- Stored identifiers of the right size are all read. -/
theorem decodeAll_eq_ok {stored : List StoredId} (sized : ∀ bytes ∈ stored, bytes.length = 16) :
    stored.mapM decodeId database = (.ok (stored.filterMap UserId.ofStored?), database) := by
  have reads : ∀ bytes database id after, decodeId bytes database = (.ok id, after) ↔
      UserId.ofStored? bytes = some id ∧ after = database := by
    intro bytes database id after
    rw [decodeId_eq_ok_iff, UserId.ofStored?_eq_some_iff]
  refine (Action.mapM_eq_ok_iff reads).mpr ⟨fun bytes member => ?_, rfl, rfl⟩
  rw [UserId.ofStored?, dif_pos (sized bytes member)]
  rfl

/-- One identifier of another size spoils the reading. -/
theorem decodeAll_eq_error {stored : List StoredId} (odd : ∃ bytes ∈ stored, bytes.length ≠ 16) :
    stored.mapM decodeId database = (.error .invalidUserId, database) := by
  have refused : ∀ bytes : StoredId, bytes.length ≠ 16 →
      decodeId bytes database = (.error .invalidUserId, database) := by
    intro bytes odd
    rw [decodeId, UserId.ofStored?, dif_neg odd]
    rfl
  apply Action.mapM_eq_error
  · intro bytes _
    by_cases sized : bytes.length = 16
    · exact .inl ⟨⟨bytes, sized⟩, decodeId_eq_ok_iff.mpr ⟨rfl, rfl⟩⟩
    · exact .inr (refused bytes sized)
  · obtain ⟨bytes, member, odd⟩ := odd
    exact ⟨bytes, member, refused bytes odd⟩

/-- Chunk by chunk all that is stored for the accounts is collected. -/
theorem collect_lookupPlan (users : database.users = some directory) :
    collect (lookupPlan budget accounts) database =
      (.ok ((chunks (budget.perStatement 1 0) accounts).map directory.storedFor).flatten,
        database) := by
  have answers : (lookupPlan budget accounts).mapM Statement.run database =
      (.ok ((chunks (budget.perStatement 1 0) accounts).map directory.storedFor), database) := by
    rw [lookupPlan, List.mapM_map]
    refine Action.mapM_eq_ok fun chunk _ => ?_
    exact Statement.askUsers_eq_ok_iff.mpr ⟨directory, users, rfl, rfl⟩
  rw [collect, Action.bind_run_of_ok answers]
  rfl

/-- Everybody who has one of the accounts is found, each user once. -/
def lookup (budget : Budget) (accounts : List String) (directory : Directory) : List UserId :=
  ((chunks (budget.perStatement 1 0) accounts).map directory.owners).flatten.eraseDups

/-- A lookup reads what is stored for each chunk, and leaves repetitions out. -/
theorem lookup_eq (budget : Budget) (accounts : List String) (directory : Directory) :
    lookup budget accounts directory =
      (((chunks (budget.perStatement 1 0) accounts).map directory.storedFor).flatten.filterMap
        UserId.ofStored?).eraseDups := by
  rw [List.filterMap_flatten, List.map_map]
  rfl

/-- Accounts are looked up where the directory can be read for them. -/
theorem lookupAccounts_eq_ok (users : database.users = some directory)
    (legible : directory.Legible accounts) :
    lookupAccounts budget accounts database =
      (.ok (lookup budget accounts directory), database) := by
  have sized : ∀ bytes ∈
      ((chunks (budget.perStatement 1 0) accounts).map directory.storedFor).flatten,
      bytes.length = 16 := fun bytes member =>
    Directory.legible_iff_storedFor.mp legible bytes (Directory.mem_flatten_storedFor.mp member)
  rw [lookupAccounts, Action.bind_run_of_ok (collect_lookupPlan users),
    Action.bind_run_of_ok (decodeAll_eq_ok sized), lookup_eq]
  rfl

/-- One improper identifier spoils the whole look-up, in whatever chunk it is found. -/
theorem lookupAccounts_eq_error (users : database.users = some directory)
    (illegible : ¬directory.Legible accounts) :
    lookupAccounts budget accounts database = (.error .invalidUserId, database) := by
  have odd : ∃ bytes ∈
      ((chunks (budget.perStatement 1 0) accounts).map directory.storedFor).flatten,
      bytes.length ≠ 16 := by
    simp only [Directory.legible_iff_storedFor, Classical.not_forall] at illegible
    obtain ⟨bytes, member, odd⟩ := illegible
    exact ⟨bytes, Directory.mem_flatten_storedFor.mpr member, odd⟩
  rw [lookupAccounts, Action.bind_run_of_ok (collect_lookupPlan users),
    Action.bind_run_of_error (decodeAll_eq_error odd)]

/-- Without a table of users accounts cannot be looked up. -/
theorem lookupAccounts_of_missing (absent : database.users = none) (some : accounts ≠ []) :
    lookupAccounts budget accounts database =
      (.error (.database (.missingTable .users)), database) := by
  have failed : collect (lookupPlan budget accounts) database =
      (.error (.database (.missingTable .users)), database) := by
    apply collect_eq_error
    · exact fun nothing => some (chunks_eq_nil_iff.mp (List.map_eq_nil_iff.mp nothing))
    · intro statement member
      obtain ⟨chunk, _, rfl⟩ := List.mem_map.mp member
      simp only [Statement.run, Statement.askUsers, absent]
  rw [lookupAccounts, Action.bind_run_of_error failed]

/-- A lookup finds those who own one of the accounts. -/
theorem mem_lookup {id : UserId} :
    id ∈ lookup budget accounts directory ↔ directory.Owns id accounts := by
  rw [lookup_eq, List.mem_eraseDups, List.mem_filterMap]
  simp only [UserId.ofStored?_eq_some_iff, exists_eq_right', Directory.mem_flatten_storedFor]
  exact Directory.bytes_mem_storedFor_iff

/-- Users are found in the order of the chunks, and ascending within a chunk. -/
theorem precedes_lookup (budget : Budget) (accounts : List String) (directory : Directory) :
    (lookup budget accounts directory).Pairwise
      (directory.Precedes (chunks (budget.perStatement 1 0) accounts)) := by
  have sorted : ∀ block ∈ (chunks (budget.perStatement 1 0) accounts).map directory.owners,
      block.Pairwise fun first second => first.bytes < second.bytes := by
    intro block chunked
    obtain ⟨chunk, _, rfl⟩ := List.mem_map.mp chunked
    exact directory.pairwise_owners chunk
  refine (pairwise_eraseDups_flatten sorted).imp fun {first second} precedes => ?_
  simp only [List.findIdx_map, Function.comp_def, Directory.mem_owners] at precedes
  exact precedes

/-! ## Related peers -/

/-- What a question finds; nothing when it fails. -/
def found {Answer : Type} (question : Statement (List Answer)) (database : Database) :
    List Answer := (question.run database).1.toOption.getD []

/-- Found as destinations are the candidates to whom an edge of the user leads. -/
theorem mem_found_destinations (present : database.edges = some edges) {bytes : StoredId} :
    bytes ∈ found (.destinations user candidates) database ↔
      edges.has (user.bytes, bytes) = true ∧ bytes ∈ candidates.map UserId.bytes := by
  have asked : found (.destinations user candidates) database =
      (edges.rows.filter fun row => row.source = user.bytes ∧
        row.destination ∈ candidates.map UserId.bytes).map (·.destination) := by
    simp only [found, Statement.run, Statement.askEdges, present]
    rfl
  rw [asked, Table.has_eq_true_iff]
  simp only [List.mem_map, List.mem_filter, decide_eq_true_eq, Keyed.key]
  grind

/-- Found as sources are the candidates from whom an edge leads to the user. -/
theorem mem_found_sources (present : database.edges = some edges) {bytes : StoredId} :
    bytes ∈ found (.sources user candidates) database ↔
      edges.has (bytes, user.bytes) = true ∧ bytes ∈ candidates.map UserId.bytes := by
  have asked : found (.sources user candidates) database =
      (edges.rows.filter fun row => row.destination = user.bytes ∧
        row.source ∈ candidates.map UserId.bytes).map (·.source) := by
    simp only [found, Statement.run, Statement.askEdges, present]
    rfl
  rw [asked, Table.has_eq_true_iff]
  simp only [List.mem_map, List.mem_filter, decide_eq_true_eq, Keyed.key]
  grind

/-- The related peers are the candidates who share an edge with the user, whatever its state. -/
theorem relatedPeers_eq_ok (budget : Budget) (user : UserId) (candidates : List UserId)
    (present : database.edges = some edges) :
    ∃ related, relatedPeers budget user candidates database = (.ok related, database) ∧
      ∀ id, id ∈ related ↔ id ∈ candidates ∧
        (edges.has (user.bytes, id.bytes) = true ∨ edges.has (id.bytes, user.bytes) = true) := by
  have answers : (relatedPlan budget user candidates).mapM Statement.run database =
      (.ok ((relatedPlan budget user candidates).map (found · database)), database) := by
    refine Action.mapM_eq_ok fun question member => ?_
    obtain ⟨chunk, _, asked⟩ := List.mem_flatMap.mp member
    simp only [List.mem_cons, List.not_mem_nil, or_false] at asked
    rcases asked with rfl | rfl <;>
      simp only [found, Statement.run, Statement.askEdges, present] <;> rfl
  have isFound : ∀ bytes, bytes ∈ ((relatedPlan budget user candidates).map
      (found · database)).flatten ↔ bytes ∈ candidates.map UserId.bytes ∧
        (edges.has (user.bytes, bytes) = true ∨ edges.has (bytes, user.bytes) = true) := by
    intro bytes
    have chunked := exists_mem_chunks (budget.perStatement 1 1) candidates
    rw [← List.flatMap_def, relatedPlan, List.flatMap_assoc]
    simp only [List.mem_flatMap, List.flatMap_cons, List.flatMap_nil, List.append_nil,
      List.mem_append, mem_found_destinations present, mem_found_sources present, List.mem_map]
    constructor
    · rintro ⟨chunk, member, ⟨isThere, id, listed, same⟩ | ⟨isThere, id, listed, same⟩⟩
      · exact ⟨⟨id, (chunked id).mp ⟨chunk, member, listed⟩, same⟩, .inl isThere⟩
      · exact ⟨⟨id, (chunked id).mp ⟨chunk, member, listed⟩, same⟩, .inr isThere⟩
    · rintro ⟨⟨id, listed, same⟩, isThere⟩
      obtain ⟨chunk, member, listed⟩ := (chunked id).mpr listed
      exact ⟨chunk, member,
        isThere.imp (fun forth => ⟨forth, id, listed, same⟩) fun back => ⟨back, id, listed, same⟩⟩
  have proper : ∀ bytes ∈ ((relatedPlan budget user candidates).map (found · database)).flatten,
      bytes.length = 16 := by
    intro bytes member
    obtain ⟨id, _, rfl⟩ := List.mem_map.mp ((isFound bytes).mp member).1
    exact id.length_bytes
  have asked : collect (relatedPlan budget user candidates) database =
      (.ok ((relatedPlan budget user candidates).map (found · database)).flatten, database) := by
    rw [collect, Action.bind_run_of_ok answers]
    rfl
  have decoded : List.mapM decodeId _ database = (.ok _, database) := decodeAll_eq_ok proper
  refine ⟨_, by rw [relatedPeers, Action.bind_run_of_ok asked, Action.bind_run_of_ok decoded]; rfl,
    fun id => ?_⟩
  have same : ∀ other : UserId, other.bytes = id.bytes ↔ other = id :=
    fun other => ⟨UserId.ext, fun equal => congrArg UserId.bytes equal⟩
  simp only [List.mem_eraseDups, List.mem_filterMap, UserId.ofStored?_eq_some_iff,
    exists_eq_right', isFound, List.mem_map, same, exists_eq_right]

/-- No related peer comes twice. -/
theorem nodup_of_relatedPeers {after : Database} {related : List UserId}
    (run : relatedPeers budget user candidates database = (.ok related, after)) :
    related.Nodup := by
  unfold relatedPeers at run
  simp only [Action.bind_eq_ok_iff, Action.pure_eq_ok_iff] at run
  obtain ⟨_, _, _, found, _, _, rfl, _⟩ := run
  exact nodup_eraseDups found

/-- Without a table of edges related peers cannot be asked for. -/
theorem relatedPeers_of_missing (absent : database.edges = none) (some : candidates ≠ []) :
    relatedPeers budget user candidates database =
      (.error (.database (.missingTable .edges)), database) := by
  have failed : collect (relatedPlan budget user candidates) database =
      (.error (.database (.missingTable .edges)), database) := by
    apply collect_eq_error
    · intro nothing
      obtain ⟨chunk, later, cutItems⟩ :=
        List.exists_cons_of_ne_nil (mt chunks_eq_nil_iff.mp some)
      rw [relatedPlan, cutItems] at nothing
      cases nothing
    · intro statement member
      obtain ⟨chunk, _, asked⟩ := List.mem_flatMap.mp member
      simp only [List.mem_cons, List.not_mem_nil, or_false] at asked
      rcases asked with rfl | rfl <;> simp only [Statement.run, Statement.askEdges, absent]
  rw [relatedPeers, Action.bind_run_of_error failed]

end Store

end FriendGraph
