import FriendGraph.Proofs.Forms
import FriendGraph.Storage.Opening

/-! # Which file is opened

The configured path of a database is written into a connection URL as it is and read back with the
scheme taken off, as often as it is there, with everything from the first question mark on read as
options, and with all escapes decoded. So it comes back unchanged exactly when it has no question
mark, no escape, and does not start with what could be more of the scheme (`Location.IsVerbatim`).
The file that is opened is then the one that the path names, and it lies in the directory that was
made for it (`Storage.verbatim_paths_are_opened`). Any other path is read as something else: the
directories are made for one name and another file is opened.
-/

namespace FriendGraph

/-! ## Escapes -/

namespace Percent

/-- A text holds an escape: a percent sign and two hexadecimal digits after it. -/
def HasEscape (chars : List Char) : Prop :=
  ∃ before high low after, chars = before ++ '%' :: high :: low :: after ∧
    (Hex.value? high).isSome ∧ (Hex.value? low).isSome

/-- An escape stays one behind another character. -/
theorem HasEscape.cons {c : Char} {rest : List Char} (escape : HasEscape rest) :
    HasEscape (c :: rest) := by
  obtain ⟨before, high, low, after, rfl, digits⟩ := escape
  exact ⟨c :: before, high, low, after, rfl, digits⟩

/-- A text starts with an escape. -/
def StartsEscape (chars : List Char) : Prop :=
  ∃ high low after, chars = '%' :: high :: low :: after ∧
    (Hex.value? high).isSome ∧ (Hex.value? low).isSome

/-- An escape that does not start here is further on. -/
theorem HasEscape.of_cons {c : Char} {rest : List Char} (plain : ¬StartsEscape (c :: rest))
    (escape : HasEscape (c :: rest)) : HasEscape rest := by
  obtain ⟨before, high, low, after, same, digits⟩ := escape
  cases before with
  | nil => exact absurd ⟨high, low, after, same, digits⟩ plain
  | cons first before => exact ⟨before, high, low, after, (List.cons.inj same).2, digits⟩

/-- Without a percent sign there is no escape. -/
theorem not_hasEscape_of_not_mem {chars : List Char} (absent : '%' ∉ chars) :
    ¬HasEscape chars := by
  rintro ⟨before, high, low, after, rfl, _⟩
  exact absent (List.mem_append_right before List.mem_cons_self)

/-- The bytes of a text are those of its characters, one after another. -/
theorem utf8_cons (c : Char) (rest : List Char) :
    utf8 (c :: rest) = String.utf8EncodeChar c ++ utf8 rest := List.flatMap_cons

/-- Every character adds its bytes. -/
theorem length_utf8_cons (c : Char) (rest : List Char) :
    (utf8 (c :: rest)).length = c.utf8Size + (utf8 rest).length := by
  rw [utf8_cons, List.length_append, String.length_utf8EncodeChar]

/-- Where no escape starts, a character stands for itself. -/
theorem decodeBytes_cons_of_plain {c : Char} {rest : List Char}
    (plain : ¬StartsEscape (c :: rest)) :
    decodeBytes (c :: rest) = String.utf8EncodeChar c ++ decodeBytes rest := by
  by_cases percent : c = '%'
  · subst percent
    match rest with
    | [] => rfl
    | [_] => rfl
    | high :: low :: after =>
      rw [decodeBytes]
      split
      · next first second highValue lowValue =>
        exact absurd ⟨high, low, after, rfl, highValue ▸ rfl, lowValue ▸ rfl⟩ plain
      · rfl
  · exact decodeBytes_cons percent rest

/-- A character that stands for itself leaves it to the rest whether decoding shortens a text. -/
theorem decodeBytes_cases_cons {c : Char} {rest : List Char} (plain : ¬StartsEscape (c :: rest))
    (later : HasEscape rest ∧ (decodeBytes rest).length < (utf8 rest).length ∨
      ¬HasEscape rest ∧ decodeBytes rest = utf8 rest) :
    HasEscape (c :: rest) ∧ (decodeBytes (c :: rest)).length < (utf8 (c :: rest)).length ∨
      ¬HasEscape (c :: rest) ∧ decodeBytes (c :: rest) = utf8 (c :: rest) := by
  rw [decodeBytes_cons_of_plain plain, utf8_cons]
  rcases later with ⟨escape, shorter⟩ | ⟨none, same⟩
  · rw [List.length_append, List.length_append]
    exact .inl ⟨escape.cons, Nat.add_lt_add_left shorter _⟩
  · exact .inr ⟨fun escape => none (escape.of_cons plain), by rw [same]⟩

/-- A text is shorter when it is decoded if it holds an escape; otherwise it stands for itself. -/
theorem decodeBytes_cases (chars : List Char) :
    HasEscape chars ∧ (decodeBytes chars).length < (utf8 chars).length ∨
      ¬HasEscape chars ∧ decodeBytes chars = utf8 chars := by
  induction chars using decodeBytes.induct with
  | case1 => exact .inr ⟨not_hasEscape_of_not_mem List.not_mem_nil, rfl⟩
  | case2 high low rest first second lowValue highValue inductionHypothesis =>
    have atMost : (decodeBytes rest).length ≤ (utf8 rest).length := by
      rcases inductionHypothesis with ⟨_, shorter⟩ | ⟨_, same⟩
      · exact shorter.le
      · rw [same]
    have highSize := high.utf8Size_pos
    have lowSize := low.utf8Size_pos
    refine .inl ⟨⟨[], high, low, rest, rfl, highValue ▸ rfl, lowValue ▸ rfl⟩, ?_⟩
    rw [decodeBytes, highValue, lowValue]
    simp only [List.length_cons, length_utf8_cons]
    omega
  | case3 high low rest noDigits inductionHypothesis =>
    refine decodeBytes_cases_cons ?_ inductionHypothesis
    rintro ⟨_, _, _, same, highDigit, lowDigit⟩
    cases same
    obtain ⟨first, highValue⟩ := Option.isSome_iff_exists.mp highDigit
    obtain ⟨second, lowValue⟩ := Option.isSome_iff_exists.mp lowDigit
    exact noDigits first second highValue lowValue
  | case4 c rest noEscape inductionHypothesis =>
    refine decodeBytes_cases_cons ?_ inductionHypothesis
    rintro ⟨high, low, after, same, _⟩
    exact noEscape high low after (List.cons.inj same).1 (List.cons.inj same).2

/-- A part of a text has no more bytes than the whole. -/
theorem length_utf8_le_of_sublist {part whole : List Char} (sub : part.Sublist whole) :
    (utf8 part).length ≤ (utf8 whole).length := by
  induction sub with
  | slnil => exact Nat.le_refl _
  | cons c _ inductionHypothesis =>
    rw [length_utf8_cons]
    exact inductionHypothesis.trans (Nat.le_add_left _ _)
  | cons_cons c _ inductionHypothesis =>
    rw [length_utf8_cons, length_utf8_cons]
    exact Nat.add_le_add_left inductionHypothesis _

/-- A part of a text with as many bytes is all of it. -/
theorem eq_of_sublist_of_length_utf8_le {part whole : List Char} (sub : part.Sublist whole)
    (long : (utf8 whole).length ≤ (utf8 part).length) : part = whole := by
  induction sub with
  | slnil => rfl
  | cons c sub _ =>
    have size := c.utf8Size_pos
    have bound := length_utf8_le_of_sublist sub
    rw [length_utf8_cons] at long
    omega
  | cons_cons c _ inductionHypothesis =>
    rw [length_utf8_cons, length_utf8_cons] at long
    rw [inductionHypothesis (Nat.le_of_add_le_add_left long)]

end Percent

/-! ## Reading a connection URL -/

namespace Location

section Strip

variable {mark chars rest : List Char} {times : Nat}

/-- What starts a text is not looked for beyond a question mark that it does not have. -/
theorem isPrefixOf_append_mark (free : '?' ∉ mark) (chars rest : List Char) :
    mark.isPrefixOf (chars ++ '?' :: rest) = mark.isPrefixOf chars := by
  induction mark generalizing chars with
  | nil => rfl
  | cons c mark inductionHypothesis =>
    have other : (c == '?') = false :=
      beq_eq_false_iff_ne.mpr fun same => free (same ▸ List.mem_cons_self)
    have later : '?' ∉ mark := fun member => free (List.mem_cons_of_mem c member)
    cases chars with
    | nil =>
      have unequal : (c :: mark).isPrefixOf [] = false := rfl
      rw [List.nil_append, unequal, List.isPrefixOf, other, Bool.false_and]
    | cons first chars =>
      rw [List.cons_append, List.isPrefixOf, List.isPrefixOf, inductionHypothesis later]

/-- What is stripped from the front does not depend on what stands behind a question mark. -/
theorem stripTimes_append_mark (free : '?' ∉ mark) (times : Nat) (chars rest : List Char) :
    stripTimes mark times (chars ++ '?' :: rest) = stripTimes mark times chars ++ '?' :: rest := by
  induction times generalizing chars with
  | zero => rfl
  | succ times inductionHypothesis =>
    rw [stripTimes, stripTimes, isPrefixOf_append_mark free]
    split
    · next starts =>
      have short : mark.length ≤ chars.length :=
        (List.isPrefixOf_iff_prefix.mp starts).length_le
      rw [List.drop_append_of_le_length short, inductionHypothesis]
    · rfl

/-- What is left after stripping is an end of the text. -/
theorem stripTimes_suffix (mark : List Char) (times : Nat) (chars : List Char) :
    stripTimes mark times chars <:+ chars := by
  induction times generalizing chars with
  | zero => exact List.suffix_refl chars
  | succ times inductionHypothesis =>
    rw [stripTimes]
    split
    · exact (inductionHypothesis _).trans (List.drop_suffix _ _)
    · exact List.suffix_refl chars

/-- Nothing is stripped where the mark does not stand in front. -/
theorem stripTimes_of_unprefixed (other : ¬mark <+: chars) (times : Nat) :
    stripTimes mark times chars = chars := by
  cases times with
  | zero => rfl
  | succ times => rw [stripTimes, if_neg fun starts => other (List.isPrefixOf_iff_prefix.mp starts)]

/-- The mark is stripped once for each time it stands in front. -/
theorem stripTimes_succ_append (mark : List Char) (times : Nat) (rest : List Char) :
    stripTimes mark (times + 1) (mark ++ rest) = stripTimes mark times rest := by
  have starts : mark.isPrefixOf (mark ++ rest) = true :=
    List.isPrefixOf_iff_prefix.mpr (List.prefix_append mark rest)
  rw [stripTimes, if_pos starts, List.drop_left]

end Strip

/-- A path that is written into a URL as it reads: it has no question mark and no escape, and does
not start with what could be more of the scheme. -/
structure IsVerbatim (path : String) : Prop where
  no_mark : '?' ∉ path.toList
  no_escape : ¬Percent.HasEscape path.toList
  no_slashes : ¬"//".toList <+: path.toList
  no_scheme : ¬"sqlite:".toList <+: path.toList

/-- A path after the scheme, however often the scheme is repeated before it. -/
theorem stripTimes_scheme (path : List Char) (some more : Nat) :
    let core := stripTimes "sqlite:".toList (more + 2)
      (stripTimes "sqlite://".toList (some + 1) ("sqlite:".toList ++ path))
    core <:+ path ∧
      (core = path ↔ ¬"//".toList <+: path ∧ ¬"sqlite:".toList <+: path) := by
  intro core
  have slashed : "sqlite://".toList = "sqlite:".toList ++ "//".toList := by decide
  by_cases slashes : "//".toList <+: path
  · obtain ⟨rest, rfl⟩ := slashes
    have shorter : core <:+ rest := by
      refine (stripTimes_suffix _ _ _).trans ?_
      rw [← List.append_assoc, ← slashed, stripTimes_succ_append]
      exact stripTimes_suffix _ _ _
    refine ⟨shorter.trans (List.suffix_append _ _), iff_of_false (fun same => ?_) ?_⟩
    · have length := shorter.length_le
      rw [same, List.length_append] at length
      exact absurd length (by simp)
    · exact fun none => none.1 (List.prefix_append _ _)
  · have first : stripTimes "sqlite://".toList (some + 1) ("sqlite:".toList ++ path) =
        "sqlite:".toList ++ path := by
      refine stripTimes_of_unprefixed (fun starts => slashes ?_) _
      rwa [slashed, List.prefix_append_right_inj] at starts
    have core_eq : core = stripTimes "sqlite:".toList (more + 1) path := by
      rw [← stripTimes_succ_append, ← first]
    rw [core_eq]
    refine ⟨stripTimes_suffix _ _ _, ?_⟩
    by_cases repeated : "sqlite:".toList <+: path
    · obtain ⟨rest, rfl⟩ := repeated
      refine iff_of_false (fun same => ?_) fun none => none.2 (List.prefix_append _ _)
      have length := (stripTimes_suffix "sqlite:".toList more rest).length_le
      rw [← stripTimes_succ_append, same, List.length_append] at length
      exact absurd length (by simp)
    · exact iff_of_true (stripTimes_of_unprefixed repeated _) ⟨slashes, repeated⟩

/-- The connection URL of a file is read as a part of the path, with the options after it. -/
theorem exists_stripScheme_url {path : String} (other : path ≠ memoryPath) :
    ∃ core, stripScheme (url path).toList = core ++ '?' :: "mode=rwc".toList ∧
      core <:+ path.toList ∧ (core = path.toList ↔
        ¬"//".toList <+: path.toList ∧ ¬"sqlite:".toList <+: path.toList) := by
  have written : (url path).toList =
      ("sqlite:".toList ++ path.toList) ++ '?' :: "mode=rwc".toList := by
    rw [url, if_neg other, String.toList_append, String.toList_append]
    rfl
  have oneFree : '?' ∉ "sqlite:".toList := by decide
  have otherFree : '?' ∉ "sqlite://".toList := by decide
  obtain ⟨some, enough⟩ : ∃ some, (url path).toList.length = some + 1 := by
    rw [written, List.length_append]
    exact ⟨_, rfl⟩
  have first : stripTimes "sqlite://".toList (url path).toList.length (url path).toList =
      stripTimes "sqlite://".toList (some + 1) ("sqlite:".toList ++ path.toList) ++
        '?' :: "mode=rwc".toList := by
    rw [enough, written, stripTimes_append_mark otherFree]
  obtain ⟨more, plenty⟩ : ∃ more,
      (stripTimes "sqlite://".toList (url path).toList.length (url path).toList).length =
        more + 2 := by
    rw [first, List.length_append]
    exact ⟨_, rfl⟩
  refine ⟨_, ?_, stripTimes_scheme path.toList some more⟩
  rw [stripScheme]
  dsimp only
  rw [plenty, first, stripTimes_append_mark oneFree]

/-- A path comes back out of its connection URL exactly when it stands there verbatim. -/
theorem read?_url_iff {path : String} (other : path ≠ memoryPath) :
    read? (url path) = some (path, createOptions) ↔ IsVerbatim path := by
  obtain ⟨core, stripped, suffix, whole⟩ := exists_stripScheme_url other
  have cutAt := Form.splitFirst_append '?' core "mode=rwc".toList
  rw [read?, stripped]
  constructor
  · intro reads
    obtain ⟨name, named, rest⟩ := Option.bind_eq_some_iff.mp reads
    obtain ⟨options, _, same⟩ := Option.bind_eq_some_iff.mp rest
    cases same
    rw [cutAt.1, Percent.decode?, Percent.ofUtf8?_eq_some_iff] at named
    have part : (core.takeWhile (· ≠ '?')).Sublist path.toList :=
      (List.takeWhile_sublist _).trans suffix.sublist
    rcases Percent.decodeBytes_cases (core.takeWhile (· ≠ '?')) with ⟨_, shorter⟩ | ⟨plain, kept⟩
    · -- A part of the path cannot stand for the whole path and be shortened too.
      rw [named] at shorter
      exact absurd (Percent.length_utf8_le_of_sublist part) (Nat.not_le_of_lt shorter)
    · have all : core.takeWhile (· ≠ '?') = path.toList :=
        Percent.eq_of_sublist_of_length_utf8_le part (by rw [← kept, named])
      have nothingLost : core = path.toList := by
        refine suffix.eq_of_length_le ?_
        rw [← all]
        exact (List.takeWhile_sublist _).length_le
      obtain ⟨slashes, scheme⟩ := whole.mp nothingLost
      refine ⟨fun mark => ?_, all ▸ plain, slashes, scheme⟩
      rw [← all] at mark
      exact absurd (List.mem_takeWhile_imp mark) (by decide)
  · intro verbatim
    obtain rfl : core = path.toList := whole.mpr ⟨verbatim.no_slashes, verbatim.no_scheme⟩
    have name : Percent.decode? path.toList = some path := by
      rw [Percent.decode?, Percent.ofUtf8?_eq_some_iff]
      exact ((Percent.decodeBytes_cases path.toList).resolve_left
        fun escape => verbatim.no_escape escape.1).2
    rw [cutAt.2 verbatim.no_mark]
    have options : Form.decode? "mode=rwc".toList = some createOptions := by decide +kernel
    simp only [name, Option.getD_some, options]
    rfl

/-- A path that names a file: it does not stand for memory and is no URI of its own, and its last
name is one. -/
structure NamesFile (path : String) : Prop where
  no_memory : path ≠ memoryPath
  no_nul : '\x00' ∉ path.toList
  no_uri : FileUri.isUri path = false
  ends : ∃ above name, Path.names path = above ++ [name] ∧ name ≠ ".."

/-- A path that stands in its URL verbatim is where the database lies. -/
theorem ofUrl?_url {path : String} (verbatim : IsVerbatim path) (named : NamesFile path) :
    ofUrl? (url path) = some (.file path .create) := by
  have reads := (read?_url_iff named.no_memory).mpr verbatim
  have some : path.isEmpty = false := by
    obtain ⟨above, name, ends, _⟩ := named.ends
    refine Bool.eq_false_iff.mpr fun empty => ?_
    rw [String.isEmpty_iff.mp empty] at ends
    exact List.append_ne_nil_of_right_ne_nil above (List.cons_ne_nil name []) ends.symm
  have free : path.toList.contains '\x00' = false := by
    rw [← Bool.not_eq_true, List.contains_iff_mem]
    exact named.no_nul
  rw [ofUrl?, reads, Option.bind_eq_bind, Option.bind_some]
  dsimp only
  rw [if_pos (.inl rfl), ofName?, free, if_neg Bool.false_ne_true, named.no_uri,
    if_neg Bool.false_ne_true, some,
    if_neg fun either => either.elim Bool.false_ne_true named.no_memory]
  rfl

end Location

/-! ## Files on a disk -/

namespace Disk

variable {disk grown : Disk} {path other : Path} {node : Node}

/-- Below the root a node is looked up under its path. -/
theorem node?_of_ne_nil (disk : Disk) (some : path ≠ []) :
    disk.node? path = disk.nodes.lookup path := by
  rw [node?, if_neg fun empty => some (List.isEmpty_iff.mp empty)]

/-- What is put under a path is found there. -/
theorem node?_put (disk : Disk) (node : Node) (some : path ≠ []) :
    (disk.put path node).node? path = Option.some node := by
  rw [node?_of_ne_nil _ some, put, List.lookup_cons_self]

/-- Taking other nodes away does not matter for a path. -/
theorem lookup_filter_of_ne (differs : other ≠ path) (nodes : List (Path × Node)) :
    (nodes.filter (·.1 ≠ path)).lookup other = nodes.lookup other := by
  induction nodes with
  | nil => rfl
  | cons entry entries inductionHypothesis =>
    by_cases dropped : entry.1 = path
    · have unequal : (other == entry.1) = false :=
        beq_eq_false_iff_ne.mpr fun same => differs (same.trans dropped)
      rw [List.filter_cons_of_neg (by simpa using dropped), List.lookup_cons, unequal,
        inductionHypothesis]
    · rw [List.filter_cons_of_pos (by simpa using dropped), List.lookup_cons, List.lookup_cons,
        inductionHypothesis]

/-- What lies elsewhere stays where it is. -/
theorem node?_put_of_ne (disk : Disk) (node : Node) (differs : other ≠ path) :
    (disk.put path node).node? other = disk.node? other := by
  by_cases root : other = []
  · rw [root]
    rfl
  · rw [node?_of_ne_nil _ root, node?_of_ne_nil _ root, put, List.lookup_cons,
      beq_eq_false_iff_ne.mpr differs]
    exact lookup_filter_of_ne differs disk.nodes

/-- A path is a directory exactly when its node is one. -/
theorem isDirectory_iff : disk.isDirectory path = true ↔ disk.node? path = some .directory := by
  rw [isDirectory]
  split
  · next directory => exact iff_of_true rfl directory
  · next others => exact iff_of_false Bool.false_ne_true fun directory => others directory

/-- A directory that was made is there. -/
theorem isDirectory_makeDirectory? (made : disk.makeDirectory? path = some grown) :
    grown.isDirectory path = true := by
  rw [isDirectory_iff]
  rw [makeDirectory?] at made
  split at made
  · next absent =>
    cases made
    refine node?_put disk _ ?_
    rintro rfl
    cases absent
  · next directory =>
    cases made
    exact directory
  · cases made

/-- Directories that are made are there. -/
theorem isDirectory_makeDirectories? {names : List String} (some : names ≠ [])
    (made : makeDirectories? path names disk = Option.some grown) :
    grown.isDirectory (path.follow names) = true := by
  induction names generalizing path disk with
  | nil => exact absurd rfl some
  | cons name rest inductionHypothesis =>
    rw [makeDirectories?] at made
    split at made
    · cases made
    · obtain ⟨between, first, later⟩ := Option.bind_eq_some_iff.mp made
      cases rest with
      | nil =>
        cases later
        exact isDirectory_makeDirectory? first
      | cons next rest => exact inductionHypothesis (List.cons_ne_nil next rest) later

/-- A file that is missing is made in a directory. -/
theorem touch_of_missing (missing : disk.node? path = none)
    (above : disk.isDirectory path.dropLast = true) :
    disk.touch path = disk.put path (.file "") := by
  rw [touch, missing]
  exact if_pos above

/-- Looking for a file touches nothing else. -/
theorem node?_touch_of_ne (disk : Disk) (differs : other ≠ path) :
    (disk.touch path).node? other = disk.node? other := by
  rw [touch]
  split
  · split
    · exact node?_put_of_ne disk _ differs
    · rfl
  · rfl

/-- A database is never at the root. -/
theorem ne_nil_of_database? {database : Database} (holds : disk.database? path = some database) :
    path ≠ [] := by
  rintro rfl
  cases holds

end Disk

/-! ## Opening -/

/-- A written path leads from the path above it to its last name. -/
theorem Path.ofText_of_names {working : Path} {path name : String} {above : List String}
    (ends : Path.names path = above ++ [name]) (proper : name ≠ "..") :
    Path.ofText working path = (Path.origin working path).follow above ++ [name] := by
  rw [Path.ofText, ends, Path.follow, List.foldl_append, List.foldl_cons, List.foldl_nil,
    Path.step, if_neg proper]
  rfl

namespace Storage

variable {working : Path} {path : String} {limit : Nat} {disk prepared after : Disk}
  {storage : Storage}

/-- The directories that are made are those of the path above its last name. -/
theorem makeDirectories?_of_makeParent (other : path ≠ Location.memoryPath)
    (made : makeParent working path disk = .ok prepared) :
    disk.makeDirectories? (Path.origin working path) (Path.names path).dropLast =
      some prepared := by
  rw [makeParent] at made
  rw [if_neg other] at made
  split at made
  · cases made
  · split at made
    · next grown directories =>
      cases made
      exact directories
    · cases made

/-- The directory that is made for a file is the one that it lies in. -/
theorem isDirectory_of_makeParent (named : Location.NamesFile path)
    (made : makeParent working path disk = .ok prepared)
    (above : (Path.names path).dropLast ≠ []) :
    prepared.isDirectory (Path.ofText working path).dropLast = true := by
  obtain ⟨names, name, ends, proper⟩ := named.ends
  have directories := makeDirectories?_of_makeParent named.no_memory made
  rw [ends, List.dropLast_concat] at directories above
  rw [Path.ofText_of_names ends proper, List.dropLast_concat]
  exact Disk.isDirectory_makeDirectories? above directories

/-- The disk on which a file is opened: it is made unless it is there or cannot be. -/
def looked (file : Path) (disk : Disk) : Disk := if canHold file then disk.touch file else disk

/-- Looking at a file leaves all others as they are. -/
theorem node?_looked_of_ne {file other : Path} (disk : Disk) (differs : other ≠ file) :
    (looked file disk).node? other = disk.node? other := by
  rw [looked]
  split
  · exact disk.node?_touch_of_ne differs
  · rfl

/-- What opening a path comes to that stands in its URL verbatim. -/
theorem openOn_of_verbatim (verbatim : Location.IsVerbatim path)
    (named : Location.NamesFile path) (made : makeParent working path disk = .ok prepared)
    (positive : limit ≠ 0) :
    openOn working ⟨.sqlite, path, limit⟩ disk =
      match (looked (Path.ofText working path) prepared).database? (Path.ofText working path) with
      | some database =>
        (.ok ⟨.ofSetting limit, database.create, some (Path.ofText working path)⟩,
          (looked (Path.ofText working path) prepared).put (Path.ofText working path)
            (.database database.create))
      | none =>
        (.error (.database .cannotOpen), looked (Path.ofText working path) prepared) := by
  have looks : look working (.file path .create) prepared =
      looked (Path.ofText working path) prepared := by
    rw [look, looked]
    by_cases held : canHold (Path.ofText working path)
    · rw [if_pos ⟨rfl, held⟩, if_pos held]
    · rw [if_neg fun both => held both.2, if_neg held]
  rw [openOn, made]
  dsimp only
  rw [if_neg positive, Location.ofUrl?_url verbatim named]
  dsimp only
  rw [looks, openAt]
  cases (looked (Path.ofText working path) prepared).database? (Path.ofText working path) with
  | none => rfl
  | some database => rfl

/-- **A path that stands in its URL verbatim is opened, and no other is.** A path comes back out of
its connection URL exactly when it has no question mark and no escape and starts with nothing that
could be more of the scheme. When such a path names a file, the database that is opened is that
file, which is made when it is missing; it lies in the directory that was made for it, and nothing
else changes on the disk. -/
theorem verbatim_paths_are_opened {path : String} (other : path ≠ Location.memoryPath) :
    (Location.read? (Location.url path) = some (path, Location.createOptions) ↔
      Location.IsVerbatim path) ∧
    (Location.IsVerbatim path → Location.NamesFile path →
      ∀ (working : Path) (limit : Nat) (disk prepared : Disk), limit ≠ 0 →
        makeParent working path disk = .ok prepared →
          let file := Path.ofText working path
          ((Path.names path).dropLast ≠ [] → prepared.isDirectory file.dropLast = true) ∧
          (∀ storage after, openOn working ⟨.sqlite, path, limit⟩ disk = (.ok storage, after) →
            storage.kept = some file ∧ after.node? file = some (.database storage.database) ∧
              ∀ elsewhere ≠ file, after.node? elsewhere = prepared.node? elsewhere) ∧
          (prepared.node? file = none → prepared.isDirectory file.dropLast = true →
            canHold file = true →
              openOn working ⟨.sqlite, path, limit⟩ disk =
                (.ok ⟨.ofSetting limit, Database.blank.create, some file⟩,
                  (prepared.put file (.file "")).put file (.database Database.blank.create)))) := by
  refine ⟨Location.read?_url_iff other, ?_⟩
  intro verbatim named working limit disk prepared positive made file
  refine ⟨isDirectory_of_makeParent named made, ?_, ?_⟩
  · intro storage after opened
    rw [openOn_of_verbatim verbatim named made positive] at opened
    cases holds : (looked file prepared).database? file with
    | none =>
      rw [holds] at opened
      cases opened
    | some database =>
      rw [holds] at opened
      cases opened
      refine ⟨rfl, Disk.node?_put _ _ (Disk.ne_nil_of_database? holds), ?_⟩
      intro elsewhere differs
      rw [Disk.node?_put_of_ne _ _ differs, node?_looked_of_ne _ differs]
  · intro missing above held
    have some : file ≠ [] := by
      intro root
      rw [root] at missing
      cases missing
    have looks : looked file prepared = prepared.put file (.file "") := by
      rw [looked, if_pos held, Disk.touch_of_missing missing above]
    have blank : (prepared.put file (.file "")).database? file = .some .blank := by
      rw [Disk.database?, Disk.node?_put _ _ some]
      rfl
    rw [openOn_of_verbatim verbatim named made positive, looks, blank]

/-- A disk with a working directory and nothing in it. -/
def workshop : Disk := ⟨[(["w"], .directory)]⟩

/-- A file in a directory of its own is opened where its path says. -/
theorem verbatim_paths_are_opened_inDirectory :
    Location.read? (Location.url "data/x.db") = some ("data/x.db", Location.createOptions) ∧
      ∃ prepared, makeParent ["w"] "data/x.db" workshop = .ok prepared ∧
        prepared.isDirectory ["w", "data"] = true ∧
        (openOn ["w"] ⟨.sqlite, "data/x.db", 999⟩ workshop).1 =
          .ok ⟨.ofSetting 999, Database.blank.create, some ["w", "data", "x.db"]⟩ := by
  obtain ⟨reads, opens⟩ := @verbatim_paths_are_opened "data/x.db" (by decide)
  have comesBack : Location.read? (Location.url "data/x.db") =
      some ("data/x.db", Location.createOptions) := by decide +kernel
  have named : Location.NamesFile "data/x.db" :=
    ⟨by decide, by decide, by decide, ["data"], "x.db", by decide +kernel, by decide⟩
  have place : Path.ofText ["w"] "data/x.db" = ["w", "data", "x.db"] := by decide +kernel
  have made : makeParent ["w"] "data/x.db" workshop =
      .ok (workshop.put ["w", "data"] .directory) := rfl
  obtain ⟨above, _, created⟩ :=
    opens (reads.mp comesBack) named ["w"] 999 workshop _ (by decide) made
  rw [place] at above created
  refine ⟨comesBack, _, made, above (by decide +kernel), ?_⟩
  rw [created rfl (above (by decide +kernel)) (by decide +kernel)]

/-- An escape in a path is decoded, and the file is opened under another name. -/
theorem escaped_paths_are_renamed :
    Location.read? (Location.url "a%20b.db") = some ("a b.db", Location.createOptions) ∧
      (openOn ["w"] ⟨.sqlite, "a%20b.db", 999⟩ workshop).1.toOption.bind Storage.kept =
        some ["w", "a b.db"] ∧
      Path.ofText ["w"] "a%20b.db" = ["w", "a%20b.db"] := by
  decide +kernel

end Storage

end FriendGraph
