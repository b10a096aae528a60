import FriendGraph.Proofs.Paths
import FriendGraph.Setting.Yaml

/-! # Names that are there once

In the settings that a file holds, each group has every name once (`Setting.distinct_ofYaml?`): a
member with a name that is there takes the place of the other. So a path of plain names that leads
from section to section passes through them (`Setting.Distinct.passable`).
-/

namespace FriendGraph.Setting

variable {value : Setting} {members : Members} {path : List String}

/-- Every group that a path of groups leads to has each name once. -/
inductive Distinct : Setting → Prop
  | flat {value : Setting} (isFlat : IsFlat value) : Distinct value
  | group {members : Members} (once : (members.map Prod.fst).Nodup)
      (inside : ∀ member ∈ members, Distinct member.2) : Distinct (group members)

theorem distinct_nil : Distinct (.group []) :=
  .group List.nodup_nil fun _ present => absurd present List.not_mem_nil

/-- A member after putting one is that one or was there before. -/
theorem mem_put {name : String} {member : String × Setting}
    (present : member ∈ put name value members) : member = (name, value) ∨ member ∈ members := by
  induction members with
  | nil => exact .inl (List.mem_singleton.mp present)
  | cons first rest inductionHypothesis =>
    rw [put] at present
    split at present
    · rcases List.mem_cons.mp present with rfl | later
      · exact .inl rfl
      · exact .inr (List.mem_cons_of_mem _ later)
    · rcases List.mem_cons.mp present with rfl | later
      · exact .inr List.mem_cons_self
      · exact (inductionHypothesis later).imp_right (List.mem_cons_of_mem _)

/-- Putting a member keeps names apart. -/
theorem nodup_put (once : (members.map Prod.fst).Nodup) (name : String) (value : Setting) :
    ((put name value members).map Prod.fst).Nodup := by
  induction members with
  | nil => exact List.pairwise_singleton _ _
  | cons first rest inductionHypothesis =>
    rw [List.map_cons, List.nodup_cons] at once
    rw [put]
    split
    · next same =>
      rw [List.map_cons, List.nodup_cons]
      exact ⟨same ▸ once.1, once.2⟩
    · next differs =>
      rw [List.map_cons, List.nodup_cons]
      refine ⟨fun present => ?_, inductionHypothesis once.2⟩
      obtain ⟨member, isThere, same⟩ := List.mem_map.mp present
      rcases mem_put isThere with rfl | before
      · exact differs same.symm
      · exact once.1 (List.mem_map.mpr ⟨member, before, same⟩)

/-- Putting a distinct value keeps members distinct. -/
theorem Distinct.put (distinct : Distinct (.group members)) (isDistinct : Distinct value)
    (name : String) : Distinct (.group (put name value members)) := by
  cases distinct with
  | flat isFlat => exact absurd rfl (isFlat members)
  | group once inside =>
    refine .group (nodup_put once name value) fun member present => ?_
    rcases mem_put present with rfl | before
    · exact isDistinct
    · exact inside member before

namespace Yaml

theorem isFlat_setting (meaning : Meaning) : IsFlat meaning.setting := by
  cases meaning <;> exact fun _ => Setting.noConfusion

mutual

/-- What a node stands for is distinct at every level. -/
theorem distinct_setting? : ∀ {node : Node} {value : Setting},
    node.setting? = some value → Distinct value
  | .scalar meaning, value, stands => by
    rw [Node.setting?] at stands
    cases stands
    exact .flat (isFlat_setting meaning)
  | .refused, value, stands => by
    rw [Node.setting?] at stands
    cases stands
  | .missing, value, stands => by
    rw [Node.setting?] at stands
    cases stands
    exact .flat fun _ => Setting.noConfusion
  | .sequence items, value, stands => by
    rw [Node.setting?] at stands
    obtain ⟨_, _, rfl⟩ := Option.map_eq_some_iff.mp stands
    exact .flat fun _ => Setting.noConfusion
  | .mapping pairs, value, stands => by
    rw [Node.setting?] at stands
    obtain ⟨members, isGroup, rfl⟩ := Option.map_eq_some_iff.mp stands
    exact distinct_members? distinct_nil isGroup

/-- The members that pairs stand for are distinct at every level. -/
theorem distinct_members? : ∀ {pairs : List (Node × Node)} {keys : List (Bool × String)}
    {found members : Members}, Distinct (.group found) →
    members? keys pairs found = some members → Distinct (.group members)
  | [], keys, found, members, distinct, stands => by
    rw [members?] at stands
    cases stands
    exact distinct
  | (key, value) :: rest, keys, found, members, distinct, stands => by
    rw [members?] at stands
    obtain ⟨present, -, stands⟩ := Option.bind_eq_some_iff.mp stands
    split at stands
    · cases stands
    · obtain ⟨setting, isSetting, stands⟩ := Option.bind_eq_some_iff.mp stands
      exact distinct_members? (distinct.put (distinct_setting? isSetting) present.2) stands

end

end Yaml

/-- The settings in a file have each name once, and so have the groups in them. -/
theorem distinct_ofYaml? {written : String} (stands : ofYaml? written = some members) :
    Distinct (.group members) := by
  rw [ofYaml?] at stands
  obtain ⟨tokens, -, stands⟩ := Option.bind_eq_some_iff.mp stands
  obtain ⟨nodes, -, stands⟩ := Option.bind_eq_some_iff.mp stands
  split at stands
  · cases stands
    exact distinct_nil
  · obtain ⟨value, isSetting, stands⟩ := Option.bind_eq_some_iff.mp stands
    split at stands
    · cases stands
      exact Yaml.distinct_setting? isSetting
    · cases stands
  · cases stands


/-- A path whose names lead from one group of plain names to another passes through them. -/
theorem Distinct.passable (distinct : Distinct (.group members))
    (plain : ∀ member ∈ members, IsPlain member.1)
    (through : ∀ front, front ≠ [] → front <+: path → front ≠ path →
      ∀ value, at? front members = some value →
        ∃ inner, value = .group inner ∧ ∀ member ∈ inner, IsPlain member.1) :
    Passable path members := by
  induction path generalizing members with
  | nil => exact trivial
  | cons name further inductionHypothesis =>
    cases distinct with
    | flat isFlat => exact absurd rfl (isFlat members)
    | group once inside =>
      have tidy : Tidy members := ⟨once, fun member present => (plain member present).lowerName⟩
      cases further with
      | nil => exact tidy
      | cons next further =>
        refine ⟨tidy, fun value found => ?_⟩
        obtain ⟨inner, rfl, plainInner⟩ := through [name] (List.cons_ne_nil _ _)
          (List.cons_prefix_cons.mpr ⟨rfl, List.nil_prefix⟩) (by simp) value found
        have reached : (name, Setting.group inner) ∈ members := by
          obtain ⟨before, after, split, -⟩ := List.lookup_eq_some_iff.mp found
          rw [split]
          exact List.mem_append_right _ List.mem_cons_self
        refine ⟨inner, rfl, inductionHypothesis (inside _ reached) plainInner ?_⟩
        intro front nonempty leads differs value reaches
        obtain ⟨first, rest, rfl⟩ := List.exists_cons_of_ne_nil nonempty
        apply through (name :: first :: rest) (List.cons_ne_nil _ _)
          (List.cons_prefix_cons.mpr ⟨rfl, leads⟩) (by simpa using differs)
        rw [at?, found]
        exact reaches

end FriendGraph.Setting
