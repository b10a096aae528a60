import Mathlib.Data.Fintype.Basic
import Mathlib.Data.List.Infix
import FriendGraph.Proofs.Distinct
import FriendGraph.Settings

/-! # What several sources give

The sources of settings are regular (`Sources.Regular`) when what is a section in the end is one in
all of them and no field is a section. Each source then speaks for the fields it names and for no
others: what is merged from the sources has for each field what the last source says that names it
(`Sources.at?_merged`), and it has a section when any source has it (`Sources.isSome_at?_merged`).
-/

namespace FriendGraph

/-- A single setting, the fields of all records taken together. -/
inductive Leaf where
  | storageKind
  | storagePath
  | maxBindParams
  | expiry
  | queueCapacity
  | endpoint
  | webhookTimeout
  | graphUrl
  | graphTimeout
  | pageLimit
deriving DecidableEq

instance : Fintype Leaf where
  elems := {.storageKind, .storagePath, .maxBindParams, .expiry, .queueCapacity, .endpoint,
    .webhookTimeout, .graphUrl, .graphTimeout, .pageLimit}
  complete leaf := by cases leaf <;> decide

/-- The names that lead to a single setting. -/
def Leaf.path : Leaf → List String
  | storageKind => ["storage", "type"]
  | storagePath => ["storage", "path"]
  | maxBindParams => ["storage", "max_bind_params"]
  | expiry => ["notifications", "expiry_ms"]
  | queueCapacity => ["notifications", "queue_capacity"]
  | endpoint => ["notifications", "webhook", "endpoint"]
  | webhookTimeout => ["notifications", "webhook", "timeout_secs"]
  | graphUrl => ["social", "facebook", "graph_url"]
  | graphTimeout => ["social", "facebook", "timeout_secs"]
  | pageLimit => ["social", "facebook", "page_limit"]

namespace Setting

/-- The names that lead to the section on delivery to a web address. -/
def webhookPath : List String := ["notifications", "webhook"]

/-- The names that lead to the sections. -/
def sections : List (List String) :=
  [["storage"], ["notifications"], webhookPath, ["social"], ["social", "facebook"]]

variable {value : Setting} {members : Members} {path : List String}

/-- What the names on the way along a path lead to are sections. -/
def IsWithin (path : List String) : Prop :=
  ∀ front, front ≠ [] → front <+: path → front ≠ path → front ∈ sections

/-- Every leaf is within the settings. -/
theorem isWithin_leaf (leaf : Leaf) : IsWithin leaf.path := by
  have inits : ∀ front ∈ leaf.path.inits, front = [] ∨ front = leaf.path ∨ front ∈ sections := by
    cases leaf <;> decide
  intro front nonempty leads differs
  have member := (List.mem_inits front leaf.path).mpr leads
  exact ((inits front member).resolve_left nonempty).resolve_left differs

/-- Every section is within the settings. -/
theorem isWithin_section (isSection : path ∈ sections) : IsWithin path := by
  have inits : ∀ path ∈ sections, ∀ front ∈ path.inits, front = [] ∨ front ∈ sections := by
    decide
  intro front nonempty leads _
  have member := (List.mem_inits front path).mpr leads
  exact (inits path isSection front member).resolve_left nonempty

/-! ## Regular sources -/

/-- The value is a group with plain names. -/
def IsPlainGroup (value : Setting) : Prop :=
  ∃ inner, value = group inner ∧ ∀ member ∈ inner, IsPlain member.1

/-- Sections are groups with plain names in a source, and fields are none. -/
structure Regular (members : Members) : Prop where
  plain : ∀ member ∈ members, IsPlain member.1
  groups : ∀ path ∈ sections, ∀ value ∈ at? path members, IsPlainGroup value
  flat : ∀ leaf : Leaf, ∀ value ∈ at? leaf.path members, IsFlat value

/-- The path leads along plain names to no section and to nothing within a field. -/
structure RegularPath (path : List String) : Prop where
  plain : ∀ name ∈ path, IsPlain name
  aside : path ∉ sections
  ends : ∀ leaf : Leaf, leaf.path <+: path → path = leaf.path

instance : Decidable (IsFlat value) :=
  match value with
  | group inner => isFalse fun flat => flat inner rfl
  | nothing | bool _ | integer _ | number _ | text _ | list _ =>
    isTrue fun _ => Setting.noConfusion

instance : Decidable (IsPlainGroup value) :=
  match value with
  | group inner =>
    decidable_of_iff (∀ member ∈ inner, IsPlain member.1)
      ⟨fun plain => ⟨inner, rfl, plain⟩, fun ⟨_, same, plain⟩ => by cases same; exact plain⟩
  | nothing | bool _ | integer _ | number _ | text _ | list _ =>
    isFalse fun ⟨_, same, _⟩ => Setting.noConfusion same

instance : Decidable (Regular members) :=
  decidable_of_iff
    ((∀ member ∈ members, IsPlain member.1) ∧
      (∀ path ∈ sections, ∀ value ∈ at? path members, IsPlainGroup value) ∧
      ∀ leaf : Leaf, ∀ value ∈ at? leaf.path members, IsFlat value)
    ⟨fun ⟨plain, groups, flat⟩ => ⟨plain, groups, flat⟩,
      fun ⟨plain, groups, flat⟩ => ⟨plain, groups, flat⟩⟩

instance : Decidable (RegularPath path) :=
  decidable_of_iff
    ((∀ name ∈ path, IsPlain name) ∧ path ∉ sections ∧
      ∀ leaf : Leaf, leaf.path <+: path → path = leaf.path)
    ⟨fun ⟨plain, aside, ends⟩ => ⟨plain, aside, ends⟩,
      fun ⟨plain, aside, ends⟩ => ⟨plain, aside, ends⟩⟩

/-- The paths to sections and fields pass through a regular source. -/
theorem Regular.passable (regular : Regular members) (distinct : Distinct (group members))
    (within : IsWithin path) : Passable path members :=
  distinct.passable regular.plain fun front nonempty leads differs value found =>
    regular.groups front (within front nonempty leads differs) value found

/-- The layer of a regular path lets the paths to sections and fields pass. -/
theorem RegularPath.passable {names : List String} (regular : RegularPath names)
    (nonempty : names ≠ []) (within : IsWithin path) : Passable path (layer names value) := by
  apply passable_layer fun name member => (regular.plain name member).lowerName
  intro leads
  by_contra differs
  exact regular.aside (within names nonempty leads differs)

/-- A regular path to a field ends there. -/
theorem RegularPath.at?_leaf {names : List String} (regular : RegularPath names)
    (flat : IsFlat value) (leaf : Leaf) :
    at? leaf.path (layer names value) = if names = leaf.path then some value else none := by
  have nonempty : leaf.path ≠ [] := by cases leaf <;> exact List.cons_ne_nil _ _
  rw [at?_layer flat nonempty]
  by_cases leads : leaf.path <+: names
  · have same := regular.ends leaf leads
    rw [if_pos leads, if_pos same, same, List.drop_length, nest]
  · rw [if_neg leads, if_neg]
    rintro rfl
    exact leads List.prefix_rfl

/-- A regular path to a section goes on from there. -/
theorem RegularPath.at?_section {names : List String} (regular : RegularPath names)
    (flat : IsFlat value) (isSection : path ∈ sections) :
    (∀ found, at? path (layer names value) = some found → IsGroup found) ∧
      ((at? path (layer names value)).isSome ↔ path <+: names) := by
  have nonempty : path ≠ [] := by
    rintro rfl
    revert isSection
    decide
  rw [at?_layer flat nonempty]
  by_cases leads : path <+: names
  · obtain ⟨further, rfl⟩ := leads
    rw [if_pos (List.prefix_append _ _), List.drop_left]
    refine ⟨fun found same => ?_, by simp⟩
    cases further with
    | nil => exact absurd (by rwa [List.append_nil]) regular.aside
    | cons next further => exact ⟨_, (Option.some.inj same).symm⟩
  · rw [if_neg leads]
    exact ⟨nofun, by simp [leads]⟩

end Setting

open Setting (Members IsGroup at? layer pathOf ofYaml? assignment? ofVariable ofEnvironment
  keyOfVariable? stack layOver sections)

namespace Sources

variable {sources : Sources} {name : String} {members : Members} {path : List String}

/-! ## What sources say -/

/-- The files that are named. -/
def namedFiles (sources : Sources) : List String :=
  sources.argument.toList ++ (sources.environment.lookup fileVariable).toList

/-- The files that settings are in, the one that counts most at the end. -/
def files (sources : Sources) : List String := standardFile :: sources.namedFiles

/-- The settings in a file, none if it is not there or holds no settings. -/
def fileMembers (sources : Sources) (name : String) : Members :=
  ((sources.text? name).bind ofYaml?).getD []

/-- The names that lead to the setting of a variable, if it is one. -/
def variablePath? (name : String) : Option (List String) := (keyOfVariable? name).map pathOf

/-- Every named file is there, and the files that are there hold settings. -/
structure Readable (sources : Sources) : Prop where
  standard : ∀ text ∈ sources.text? standardFile, (ofYaml? text).isSome
  named : ∀ name ∈ sources.namedFiles, ((sources.text? name).bind ofYaml?).isSome

/-- Every source is regular, and no two variables are for one key. -/
structure Regular (sources : Sources) : Prop where
  files : ∀ name ∈ sources.files, Setting.Regular (sources.fileMembers name)
  paths : ∀ entry ∈ sources.environment, ∀ path ∈ variablePath? entry.1,
    Setting.RegularPath path
  once : (sources.environment.filterMap fun entry => keyOfVariable? entry.1).Nodup

/-- What the last source says that has something at the end of a path. -/
def given? (sources : Sources) (path : List String) : Option Setting :=
  (sources.environment.reverse.findSome? fun entry =>
    if variablePath? entry.1 = some path then some (ofVariable entry.2) else none).or
  (sources.files.reverse.findSome? fun name => at? path (sources.fileMembers name))

/-- A source has something at the end of a path or beneath it. -/
def Mentions (sources : Sources) (path : List String) : Prop :=
  (∃ name ∈ sources.files, (at? path (sources.fileMembers name)).isSome) ∨
    ∃ entry ∈ sources.environment, ∃ names ∈ variablePath? entry.1, path <+: names

/-- A variable as a layer, if it is a setting. -/
def variableLayer? (entry : String × String) : Option Members :=
  (variablePath? entry.1).map fun names => layer names (ofVariable entry.2)

/-- The files and variables as layers. -/
def layers (sources : Sources) : List Members :=
  sources.files.map sources.fileMembers ++ sources.environment.filterMap variableLayer?

instance : Decidable sources.Readable :=
  decidable_of_iff
    ((∀ text ∈ sources.text? standardFile, (ofYaml? text).isSome) ∧
      ∀ name ∈ sources.namedFiles, ((sources.text? name).bind ofYaml?).isSome)
    ⟨fun ⟨standard, named⟩ => ⟨standard, named⟩, fun ⟨standard, named⟩ => ⟨standard, named⟩⟩

/-- Sources are regular exactly when files and variables are, and no variable is set twice. -/
theorem regular_iff :
    sources.Regular ↔
      (∀ name ∈ sources.files, Setting.Regular (sources.fileMembers name)) ∧
      (∀ entry ∈ sources.environment, ∀ path ∈ variablePath? entry.1, Setting.RegularPath path) ∧
      (sources.environment.filterMap fun entry => keyOfVariable? entry.1).Nodup :=
  ⟨fun ⟨files, paths, once⟩ => ⟨files, paths, once⟩,
    fun ⟨files, paths, once⟩ => ⟨files, paths, once⟩⟩

instance : Decidable sources.Regular := decidable_of_iff _ regular_iff.symm

instance : Decidable (sources.Mentions path) := inferInstanceAs (Decidable (_ ∨ _))

/-! ## What is merged -/

/-- A run of two steps succeeds exactly when both do. -/
theorem bind_eq_ok_iff {Error Value Next : Type} {first : Except Error Value}
    {next : Value → Except Error Next} {last : Next} :
    (first >>= next) = .ok last ↔ ∃ value, first = .ok value ∧ next value = .ok last := by
  cases first with
  | error error => exact ⟨nofun, fun ⟨_, stands, _⟩ => nomatch stands⟩
  | ok value =>
    exact ⟨fun finished => ⟨value, rfl, finished⟩, fun ⟨_, stands, finished⟩ => by
      cases stands
      exact finished⟩

/-- A text has members exactly when it parses as YAML. -/
theorem members_eq_ok_iff {text : String} :
    Sources.members name text = .ok members ↔ ofYaml? text = some members := by
  unfold Sources.members
  cases ofYaml? text <;> simp

/-- The standard file may be missing, but where it is there it has to parse. -/
theorem standardMembers_eq_ok_iff :
    sources.standardMembers = .ok members ↔
      (∀ text ∈ sources.text? standardFile, (ofYaml? text).isSome) ∧
        members = sources.fileMembers standardFile := by
  unfold standardMembers fileMembers
  rw [@eq_comm _ members]
  cases sources.text? standardFile with
  | none => simp
  | some text =>
    simp only [members_eq_ok_iff]
    cases stands : ofYaml? text <;> simp [stands]

/-- A named file has to be there and to parse. -/
theorem namedMembers_eq_ok_iff {file : Option String} :
    sources.namedMembers file = .ok members ↔
      (∀ name ∈ file.toList, ((sources.text? name).bind ofYaml?).isSome) ∧
        members = file.toList.flatMap sources.fileMembers := by
  rw [@eq_comm _ members]
  cases file with
  | none => simp [namedMembers]
  | some name =>
    unfold namedMembers fileMembers
    cases there : sources.text? name with
    | none => simp [there]
    | some text =>
      simp only [there, members_eq_ok_iff]
      cases stands : ofYaml? text <;> simp [there, stands]

/-- The members of a file have different names. -/
theorem distinct_fileMembers (sources : Sources) (name : String) :
    Setting.Distinct (.group (sources.fileMembers name)) := by
  rw [fileMembers]
  cases holds : (sources.text? name).bind ofYaml? with
  | none => exact Setting.distinct_nil
  | some members =>
    obtain ⟨text, -, stands⟩ := Option.bind_eq_some_iff.mp holds
    exact Setting.distinct_ofYaml? stands

/-- A file of settings is a layer on what is there. -/
theorem layOver_file (regular : sources.Regular) {file : Option String}
    (isNamed : ∀ name ∈ file.toList, name ∈ sources.files) (there : Members) :
    layOver (file.toList.flatMap sources.fileMembers) there =
      stack (file.toList.map sources.fileMembers) there := by
  cases file with
  | none => rfl
  | some name =>
    have plain := (regular.files name (isNamed name (by simp))).plain
    simp only [Option.toList_some, List.flatMap_cons, List.flatMap_nil, List.append_nil]
    exact Setting.layOver_of_plain plain there

/-- The environment is a layer for each variable on what is there. -/
theorem layOver_environment (regular : sources.Regular) (there : Members) :
    layOver (ofEnvironment sources.environment) there =
      stack (sources.environment.filterMap variableLayer?) there := by
  rw [Setting.ofEnvironment_of_nodup regular.once, Setting.layOver_of_paths, List.map_filterMap]
  · congr 1
    apply List.filterMap_congr
    intro entry _
    simp only [assignment?, variableLayer?, variablePath?, Option.map_map]
    rfl
  · intro member present name inPath
    obtain ⟨entry, isThere, sets⟩ := List.mem_filterMap.mp present
    obtain ⟨key, isKey, rfl⟩ := Option.map_eq_some_iff.mp sets
    exact (regular.paths entry isThere _ (by simp [variablePath?, isKey])).plain name inPath

/-- The sources are laid over each other one layer after another. -/
theorem layOver_layers (regular : sources.Regular) :
    layOver (ofEnvironment sources.environment)
      (layOver ((sources.environment.lookup fileVariable).toList.flatMap sources.fileMembers)
        (layOver (sources.argument.toList.flatMap sources.fileMembers)
          (layOver (sources.fileMembers standardFile) []))) = stack sources.layers [] := by
  have plain := (regular.files standardFile List.mem_cons_self).plain
  rw [layOver_environment regular,
    layOver_file regular fun name member => List.mem_cons_of_mem _ (List.mem_append_right _ member),
    layOver_file regular fun name member => List.mem_cons_of_mem _ (List.mem_append_left _ member),
    Setting.layOver_of_plain plain, layers, Setting.stack_append, files, namedFiles, List.map_cons,
    List.map_append]
  congr 1
  exact (Setting.stack_append _ _ _).symm

/-- What is merged from regular sources is the stack of their layers. -/
theorem merged_eq_ok_iff (regular : sources.Regular) :
    sources.merged = .ok members ↔ sources.Readable ∧ members = stack sources.layers [] := by
  rw [← layOver_layers regular]
  simp only [merged, bind_eq_ok_iff, standardMembers_eq_ok_iff, namedMembers_eq_ok_iff]
  constructor
  · rintro ⟨_, ⟨standard, rfl⟩, _, ⟨ofArgument, rfl⟩, _, ⟨ofVariable, rfl⟩, merged⟩
    cases merged
    refine ⟨⟨standard, fun name named => ?_⟩, rfl⟩
    exact (List.mem_append.mp named).elim (ofArgument name) (ofVariable name)
  · rintro ⟨readable, rfl⟩
    exact ⟨_, ⟨readable.standard, rfl⟩,
      _, ⟨fun name member => readable.named name (List.mem_append_left _ member), rfl⟩,
      _, ⟨fun name member => readable.named name (List.mem_append_right _ member), rfl⟩, rfl⟩

/-! ## What a layer has -/

/-- A layer is a file that is named or a variable that is set. -/
theorem mem_layers_iff :
    members ∈ sources.layers ↔
      (∃ name ∈ sources.files, sources.fileMembers name = members) ∨
        ∃ entry ∈ sources.environment, ∃ names ∈ variablePath? entry.1,
          layer names (ofVariable entry.2) = members := by
  simp only [layers, variableLayer?, List.mem_append, List.mem_map, List.mem_filterMap,
    Option.map_eq_some_iff, Option.mem_def]

/-- A variable leads somewhere. -/
theorem variablePath?_ne_nil {names : List String} (sets : variablePath? name = some names) :
    names ≠ [] := by
  obtain ⟨key, -, rfl⟩ := Option.map_eq_some_iff.mp sets
  simp [pathOf]

/-- In regular sources every layer can be passed on the way to a setting. -/
theorem passable_layers (regular : sources.Regular) (within : Setting.IsWithin path) :
    ∀ layer ∈ sources.layers, Setting.Passable path layer := by
  intro members present
  rcases mem_layers_iff.mp present with ⟨name, isFile, rfl⟩ | ⟨entry, isThere, names, sets, rfl⟩
  · exact (regular.files name isFile).passable (distinct_fileMembers sources name) within
  · exact (regular.paths entry isThere names sets).passable (variablePath?_ne_nil sets) within

/-- In regular sources no layer has a group in the place of a leaf. -/
theorem isFlat_of_leaf (regular : sources.Regular) (leaf : Leaf) :
    ∀ layer ∈ sources.layers, ∀ value, at? leaf.path layer = some value →
      Setting.IsFlat value := by
  intro members present value found
  rcases mem_layers_iff.mp present with ⟨name, isFile, rfl⟩ | ⟨entry, isThere, names, sets, rfl⟩
  · exact (regular.files name isFile).flat leaf value found
  · have flat := Setting.isFlat_ofVariable entry.2
    rw [(regular.paths entry isThere names sets).at?_leaf flat] at found
    split at found
    · cases found
      exact flat
    · cases found

/-- In regular sources every layer has a group in the place of a section. -/
theorem isGroup_of_section (regular : sources.Regular) (isSection : path ∈ sections) :
    ∀ layer ∈ sources.layers, ∀ value, at? path layer = some value → IsGroup value := by
  intro members present value found
  rcases mem_layers_iff.mp present with ⟨name, isFile, rfl⟩ | ⟨entry, isThere, names, sets, rfl⟩
  · obtain ⟨inner, same, -⟩ := (regular.files name isFile).groups path isSection value found
    exact ⟨inner, same⟩
  · have flat := Setting.isFlat_ofVariable entry.2
    exact ((regular.paths entry isThere names sets).at?_section flat isSection).1 value found

/-- A section is mentioned when a layer has it. -/
theorem mentions_iff (regular : sources.Regular) (isSection : path ∈ sections) :
    sources.Mentions path ↔ ∃ layer ∈ sources.layers, (at? path layer).isSome := by
  have isThere : ∀ entry ∈ sources.environment, ∀ names ∈ variablePath? entry.1,
      ((at? path (layer names (ofVariable entry.2))).isSome ↔ path <+: names) := by
    intro entry isThere names sets
    have flat := Setting.isFlat_ofVariable entry.2
    exact ((regular.paths entry isThere names sets).at?_section flat isSection).2
  constructor
  · rintro (⟨name, isFile, found⟩ | ⟨entry, present, names, sets, leads⟩)
    · exact ⟨_, mem_layers_iff.mpr (.inl ⟨name, isFile, rfl⟩), found⟩
    · exact ⟨_, mem_layers_iff.mpr (.inr ⟨entry, present, names, sets, rfl⟩),
        (isThere entry present names sets).mpr leads⟩
  · rintro ⟨members, member, found⟩
    rcases mem_layers_iff.mp member with ⟨name, isFile, rfl⟩ | ⟨entry, present, names, sets, rfl⟩
    · exact .inl ⟨name, isFile, found⟩
    · exact .inr ⟨entry, present, names, sets, (isThere entry present names sets).mp found⟩

/-! ## What is given -/

/-- The last layer that has a leaf is the last source that gives it. -/
theorem given?_layers (regular : sources.Regular) (leaf : Leaf) :
    sources.layers.reverse.findSome? (at? leaf.path) = sources.given? leaf.path := by
  rw [layers, List.reverse_append, List.findSome?_append, ← List.map_reverse, List.findSome?_map,
    ← List.filterMap_reverse, ← List.head?_filterMap, List.filterMap_filterMap, given?]
  congr 1
  rw [← List.head?_filterMap]
  congr 1
  apply List.filterMap_congr
  intro entry present
  cases sets : variablePath? entry.1 with
  | none => simp [variableLayer?, sets]
  | some names =>
    have isRegular := regular.paths entry (List.mem_reverse.mp present) names sets
    have ends := isRegular.at?_leaf (Setting.isFlat_ofVariable entry.2) leaf
    simpa [variableLayer?, sets] using ends

/-- A field is merged as the last source says it. -/
theorem at?_merged (regular : sources.Regular) (leaf : Leaf) :
    at? leaf.path (stack sources.layers []) = sources.given? leaf.path := by
  have passable := passable_layers regular (Setting.isWithin_leaf leaf)
  rw [Setting.at?_stack passable (isFlat_of_leaf regular leaf), Setting.at?_nil_members,
    Option.or_none, given?_layers regular]

/-- A section is merged to a group, which is there when a source mentions it. -/
theorem isSome_at?_merged (regular : sources.Regular) (isSection : path ∈ sections) :
    (∀ value, at? path (stack sources.layers []) = some value → IsGroup value) ∧
      ((at? path (stack sources.layers [])).isSome ↔ sources.Mentions path) := by
  have passable := passable_layers regular (Setting.isWithin_section isSection)
  have start : ∀ value, at? path [] = some value → IsGroup value := by
    intro value found
    rw [Setting.at?_nil_members] at found
    cases found
  obtain ⟨groups, isThere⟩ :=
    Setting.isSome_at?_stack passable (isGroup_of_section regular isSection) start
  refine ⟨groups, isThere.trans ?_⟩
  rw [Setting.at?_nil_members, mentions_iff regular isSection]
  simp

end Sources

end FriendGraph
