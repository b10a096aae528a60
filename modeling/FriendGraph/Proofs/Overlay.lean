import FriendGraph.Setting.Key

/-! # Settings that are laid one over another

A path of names leads through groups to a value (`Setting.at?`). When members are laid over others,
what is at the end of a path is theirs if they name it and that of the others if they do not, as
long as no scalar is in the way (`Setting.at?_overlayMembers`). So of several layers the last one
that has a scalar at the end of a path decides it (`Setting.at?_stack`), and a group is there
when any of them has one (`Setting.isSome_at?_stack`). A value that is set at a path is a layer of
its own (`Setting.layer`).
-/

namespace FriendGraph.Setting

variable {source there : Members} {name : String} {value : Setting} {path : List String}

/-! ## Paths -/

/-- The value at the end of a path of names, all but the last of which lead to groups. -/
def at? : List String → Members → Option Setting
  | [], _ => none
  | [name], members => members.lookup name
  | name :: next :: further, members =>
    at? (next :: further) (membersOf (members.lookup name))

/-- The names are as they are merged, each of them there once. -/
structure Tidy (members : Members) : Prop where
  once : (members.map Prod.fst).Nodup
  merged : ∀ member ∈ members, lowerName member.1 = member.1

/-- Whatever a path leads through is a group with tidy names. -/
def Passable : List String → Members → Prop
  | [], _ => True
  | [_], members => Tidy members
  | name :: next :: further, members => Tidy members ∧
    ∀ value, members.lookup name = some value →
      ∃ inner, value = group inner ∧ Passable (next :: further) inner

/-- The value is a group. -/
def IsGroup (value : Setting) : Prop := ∃ inner, value = group inner

/-- The value is no group. -/
def IsFlat (value : Setting) : Prop := ∀ inner, value ≠ group inner

/-- A value that is no group replaces what is there. -/
theorem IsFlat.overlay (flat : IsFlat value) (there : Option Setting) :
    overlay value there = value := by
  cases value with
  | group inner => exact absurd rfl (flat inner)
  | _ => rw [Setting.overlay]

theorem IsFlat.membersOf (flat : IsFlat value) : membersOf (some value) = [] := by
  cases value with
  | group inner => exact absurd rfl (flat inner)
  | _ => rfl

theorem at?_nil_members (path : List String) : at? path [] = none := by
  induction path with
  | nil => rfl
  | cons name further inductionHypothesis =>
    cases further with
    | nil => rfl
    | cons next further => exact inductionHypothesis

/-! ## One layer -/

/-- Members are overlaid one after another. -/
theorem overlayMembers_cons (rest : Members) :
    overlayMembers ((name, value) :: rest) there =
      overlayMembers rest
        (put (lowerName name) (overlay value (there.lookup (lowerName name))) there) := by
  rw [overlayMembers]

/-- What is overlaid on members is found merged with what was there. -/
theorem lookup_overlayMembers (tidy : Tidy source) (there : Members) (name : String) :
    (overlayMembers source there).lookup name =
      ((source.lookup name).map (overlay · (there.lookup name))).or (there.lookup name) := by
  induction source generalizing there with
  | nil => rw [overlayMembers]; rfl
  | cons member rest inductionHypothesis =>
    obtain ⟨first, value⟩ := member
    obtain ⟨once, merged⟩ := tidy
    rw [List.map_cons, List.nodup_cons] at once
    have later : Tidy rest :=
      ⟨once.2, fun other present => merged other (List.mem_cons_of_mem _ present)⟩
    have same : lowerName first = first := merged _ List.mem_cons_self
    rw [overlayMembers_cons, inductionHypothesis later, same]
    by_cases here : name = first
    · subst here
      have absent : rest.lookup name = none := by
        rw [List.lookup_eq_none_iff]
        intro other present
        have differs : name ≠ other.1 :=
          fun equal => once.1 (List.mem_map.mpr ⟨other, present, equal.symm⟩)
        simpa using differs
      rw [absent, lookup_put_self, List.lookup_cons_self]
      rfl
    · have other : (name == first) = false := by simpa using here
      rw [lookup_put_of_ne here, List.lookup_cons, other]

/-- A group is overlaid member by member. -/
theorem membersOf_overlay_group (inner : Members) (there : Option Setting) :
    membersOf (some (overlay (group inner) there)) = overlayMembers inner (membersOf there) := by
  rw [overlay]
  cases inner with
  | nil =>
    rw [overlayMembers]
    cases there <;> rfl
  | cons member rest => rfl

/-- What is at the end of a path after members were laid over others. -/
theorem at?_overlayMembers (passable : Passable path source) (there : Members) :
    at? path (overlayMembers source there) =
      ((at? path source).map (overlay · (at? path there))).or (at? path there) := by
  induction path generalizing source there with
  | nil => rfl
  | cons name further inductionHypothesis =>
    cases further with
    | nil => exact lookup_overlayMembers passable there name
    | cons next further =>
      obtain ⟨tidy, through⟩ := passable
      simp only [at?]
      rw [lookup_overlayMembers tidy]
      cases found : source.lookup name with
      | none =>
        have absent : at? (next :: further) (membersOf none) = none := at?_nil_members _
        rw [absent]
        rfl
      | some value =>
        obtain ⟨inner, rfl, passable⟩ := through value found
        rw [Option.map_some, Option.some_or, membersOf_overlay_group]
        exact inductionHypothesis passable (membersOf (there.lookup name))

/-! ## Several layers -/

/-- Members with layers laid over them, one after another. -/
def stack (layers : List Members) (there : Members) : Members :=
  layers.foldl (fun there layer => overlayMembers layer there) there

/-- Layers are stacked one after another. -/
theorem stack_append (layers further : List Members) (there : Members) :
    stack (layers ++ further) there = stack further (stack layers there) :=
  List.foldl_append

/-- The last layer that has a value at the end of a path decides it, if none has a group there. -/
theorem at?_stack {layers : List Members} (passable : ∀ layer ∈ layers, Passable path layer)
    (flat : ∀ layer ∈ layers, ∀ value, at? path layer = some value → IsFlat value)
    (there : Members) :
    at? path (stack layers there) =
      (layers.reverse.findSome? (at? path)).or (at? path there) := by
  induction layers generalizing there with
  | nil => rfl
  | cons layer rest inductionHypothesis =>
    have here := passable layer List.mem_cons_self
    have later := inductionHypothesis
      (fun other member => passable other (List.mem_cons_of_mem _ member))
      (fun other member => flat other (List.mem_cons_of_mem _ member))
      (overlayMembers layer there)
    have kept : (at? path layer).map (overlay · (at? path there)) = at? path layer := by
      cases found : at? path layer with
      | none => rfl
      | some value =>
        rw [Option.map_some, (flat layer List.mem_cons_self value found).overlay]
    rw [at?_overlayMembers here, kept] at later
    rw [List.reverse_cons, List.findSome?_append, List.findSome?_singleton, Option.or_assoc]
    exact later

/-- A group overlaid on a group stays one. -/
theorem overlay_group {there : Option Setting}
    (grouped : ∀ value, there = some value → IsGroup value) (inner : Members) :
    ∃ merged, overlay (group inner) there = group merged := by
  rw [overlay]
  split
  · cases there with
    | none => exact ⟨[], rfl⟩
    | some value => exact grouped value rfl
  · exact ⟨_, rfl⟩

/-- If all layers that have a value at the end of a path have a group there, what comes of them is a
group, which is there when one of them has one. -/
theorem isSome_at?_stack {layers : List Members}
    (passable : ∀ layer ∈ layers, Passable path layer)
    (grouped : ∀ layer ∈ layers, ∀ value, at? path layer = some value → IsGroup value)
    {there : Members} (start : ∀ value, at? path there = some value → IsGroup value) :
    (∀ value, at? path (stack layers there) = some value → IsGroup value) ∧
      ((at? path (stack layers there)).isSome ↔
        (at? path there).isSome ∨ ∃ layer ∈ layers, (at? path layer).isSome) := by
  induction layers generalizing there with
  | nil => exact ⟨start, by simp [stack]⟩
  | cons layer rest inductionHypothesis =>
    have laid := at?_overlayMembers (passable layer List.mem_cons_self) there
    have still : ∀ value, at? path (overlayMembers layer there) = some value → IsGroup value := by
      intro value found
      rw [laid] at found
      cases here : at? path layer with
      | none =>
        rw [here, Option.map_none, Option.none_or] at found
        exact start value found
      | some above =>
        obtain ⟨inner, rfl⟩ := grouped layer List.mem_cons_self above here
        obtain ⟨merged, isGroup⟩ := overlay_group start inner
        rw [here, Option.map_some, Option.some_or, isGroup] at found
        exact ⟨merged, (Option.some.inj found).symm⟩
    obtain ⟨groups, isThere⟩ := inductionHypothesis
      (fun other member => passable other (List.mem_cons_of_mem _ member))
      (fun other member => grouped other (List.mem_cons_of_mem _ member)) still
    refine ⟨groups, isThere.trans ?_⟩
    rw [laid, Option.isSome_or, Option.isSome_map, Bool.or_eq_true]
    simp only [List.mem_cons, exists_eq_or_imp]
    rw [or_assoc, or_left_comm]

/-! ## A value at the end of a path -/

/-- The group that holds nothing but a value at the end of a path. -/
def nest (value : Setting) : List String → Setting
  | [] => value
  | name :: further => group [(name, nest value further)]

/-- The layer that has nothing but a value at the end of a path. -/
def layer (path : List String) (value : Setting) : Members := membersOf (some (nest value path))

/-- A value laid at a path is overlaid as the value nested along the path. -/
theorem overlayAt_members (value : Setting) (names : List String) (there : Option Setting) :
    overlayAt value (names.map Step.member) there = overlay (nest value names) there := by
  induction names generalizing there with
  | nil => rfl
  | cons name further inductionHypothesis =>
    rw [List.map_cons, overlayAt, inductionHypothesis, nest, overlay]
    simp only [overlayMembers_cons]
    rfl

/-- A layer has the first name of its path only. -/
theorem lookup_layer (name first : String) (names : List String) (value : Setting) :
    (layer (first :: names) value).lookup name =
      if name = first then some (nest value names) else none := by
  by_cases same : name = first
  · simp [layer, nest, membersOf, same]
  · have other : (name == first) = false := by simpa using same
    simp [layer, nest, membersOf, List.lookup_cons, other, same]

/-- What a layer has at the end of a path: its value, or a group on the way to it. -/
theorem at?_layer {names : List String} (flat : IsFlat value) (nonempty : path ≠ []) :
    at? path (layer names value) =
      if path <+: names then some (nest value (names.drop path.length)) else none := by
  induction path generalizing names with
  | nil => exact absurd rfl nonempty
  | cons name further inductionHypothesis =>
    cases names with
    | nil =>
      have empty : layer [] value = [] := flat.membersOf
      simp [empty, at?_nil_members]
    | cons first names =>
      simp only [List.cons_prefix_cons, List.length_cons, List.drop_succ_cons]
      cases further with
      | nil => simp [at?, lookup_layer]
      | cons next further =>
        rw [at?, lookup_layer]
        by_cases same : name = first
        · rw [if_pos same]
          simp only [same, true_and]
          exact inductionHypothesis (List.cons_ne_nil _ _)
        · rw [if_neg same, if_neg fun both => same both.1]
          exact at?_nil_members _

/-- A layer with merged names is tidy. -/
theorem tidy_layer {first : String} {names : List String} (merged : lowerName first = first)
    (value : Setting) : Tidy (layer (first :: names) value) where
  once := List.pairwise_singleton _ _
  merged := by
    intro member present
    cases List.mem_singleton.mp present
    exact merged

/-- A path passes through a layer whose value is not on its way. -/
theorem passable_layer {names : List String} (merged : ∀ name ∈ names, lowerName name = name)
    (beside : names <+: path → names = path) (value : Setting) :
    Passable path (layer names value) := by
  induction path generalizing names with
  | nil => exact trivial
  | cons name further inductionHypothesis =>
    cases names with
    | nil => cases beside List.nil_prefix
    | cons first names =>
      have tidy : Tidy (layer (first :: names) value) :=
        tidy_layer (merged first List.mem_cons_self) value
      cases further with
      | nil => exact tidy
      | cons next further =>
        refine ⟨tidy, fun found reached => ?_⟩
        rw [lookup_layer] at reached
        split at reached
        · next same =>
          subst same
          cases reached
          cases names with
          | nil =>
            have ends := beside (List.cons_prefix_cons.mpr ⟨rfl, List.nil_prefix⟩)
            cases ends
          | cons second names =>
            refine ⟨layer (second :: names) value, rfl, inductionHypothesis ?_ ?_⟩
            · exact fun other member => merged other (List.mem_cons_of_mem _ member)
            · intro leads
              exact (List.cons.inj (beside (List.cons_prefix_cons.mpr ⟨rfl, leads⟩))).2
        · cases reached

end FriendGraph.Setting
