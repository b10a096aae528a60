import Mathlib.Algebra.Order.BigOperators.Group.List
import Mathlib.Data.List.Induction
import FriendGraph.Proofs.Overlay
import FriendGraph.Setting.Environment

/-! # The paths that keys lead along

A key of plain names with dots between them leads along these names (`Setting.pathOf`). So a source
whose keys are plain is stacked on what is there as one layer, and the variables of an environment
are stacked as one layer each (`Setting.layOver_of_plain`, `Setting.layOver_of_paths`).
-/

namespace FriendGraph.Setting

/-- A character of a plain name: a letter in lower case, a digit, an underscore or a hyphen. -/
def IsPlainChar (c : Char) : Prop := c.isLower = true ∨ c.isDigit = true ∨ c = '_' ∨ c = '-'

instance : DecidablePred IsPlainChar := fun _ => inferInstanceAs (Decidable (_ ∨ _ ∨ _ ∨ _))

/-- A plain name, which is merged as it is. -/
def IsPlain (name : String) : Prop := name.toList ≠ [] ∧ ∀ c ∈ name.toList, IsPlainChar c

-- The quantifier runs over the characters of the name, not over all characters.
instance : DecidablePred IsPlain := fun name =>
  @instDecidableAnd _ _ _ (List.decidableBAll IsPlainChar name.toList)

/-- The names that a key leads along, with dots between them. -/
def pathOf (key : String) : List String := (key.toList.splitOn '.').map String.ofList

variable {name key : String} {chars : List Char} {parts : List (List Char)}

/-! ## Plain names -/

/-- A plain character is its own lower case. -/
theorem IsPlainChar.lowerChar {c : Char} (plain : IsPlainChar c) : lowerChar c = c := by
  have notKelvin : c ≠ '\u212a' := by
    rintro rfl
    revert plain
    decide
  have notUpper : ¬('A'.val ≤ c.val ∧ c.val ≤ 'Z'.val) := by
    rcases plain with lower | digit | rfl | rfl
    · obtain ⟨least, most⟩ := Bool.and_eq_true_iff.mp lower
      have bounds : 'a'.val ≤ c.val ∧ c.val ≤ 'z'.val :=
        ⟨of_decide_eq_true least, of_decide_eq_true most⟩
      have order : 'Z'.val.toNat < 'a'.val.toNat := by decide
      simp only [UInt32.le_iff_toNat_le] at bounds ⊢
      omega
    · obtain ⟨least, most⟩ := Bool.and_eq_true_iff.mp digit
      have bounds : '0'.val ≤ c.val ∧ c.val ≤ '9'.val :=
        ⟨of_decide_eq_true least, of_decide_eq_true most⟩
      have order : '9'.val.toNat < 'A'.val.toNat := by decide
      simp only [UInt32.le_iff_toNat_le] at bounds ⊢
      omega
    · decide
    · decide
  rw [Setting.lowerChar, if_neg notKelvin]
  exact dif_neg notUpper

/-- A plain character may stand in a name. -/
theorem IsPlainChar.isNameChar {c : Char} (plain : IsPlainChar c) : Key.isNameChar c = true := by
  rcases plain with lower | digit | rfl | rfl
  · have alphanumeric : c.isAlphanum = true :=
      Bool.or_eq_true_iff.mpr (.inl (Bool.or_eq_true_iff.mpr (.inr lower)))
    rw [Key.isNameChar, alphanumeric]
    rfl
  · have alphanumeric : c.isAlphanum = true := Bool.or_eq_true_iff.mpr (.inr digit)
    rw [Key.isNameChar, alphanumeric]
    rfl
  · decide
  · decide

/-- A plain name is its own lower case. -/
theorem IsPlain.lowerName (plain : IsPlain name) : lowerName name = name := by
  have same : name.toList.map lowerChar = name.toList.map id :=
    List.map_congr_left fun c member => (plain.2 c member).lowerChar
  apply String.toList_injective
  rw [Setting.lowerName, String.toList_map, same, List.map_id]

/-- A plain name is a path of itself. -/
theorem IsPlain.pathOf (plain : IsPlain name) : pathOf name = [name] := by
  have dotless : '.' ∉ name.toList := fun member => absurd (plain.2 _ member) (by decide)
  rw [Setting.pathOf, List.splitOn_eq_singleton dotless, List.map_singleton, String.ofList_toList]

/-! ## Keys -/

/-- The name characters at the start of a text that goes on with a dot or ends. -/
theorem span_name {part : List Char} (plain : ∀ c ∈ part, IsPlainChar c)
    (parts : List (List Char)) :
    (part ++ parts.flatMap ('.' :: ·)).takeWhile Key.isNameChar = part ∧
      (part ++ parts.flatMap ('.' :: ·)).dropWhile Key.isNameChar = parts.flatMap ('.' :: ·) := by
  have inside : ∀ c ∈ part, Key.isNameChar c = true := fun c member => (plain c member).isNameChar
  have ends : (parts.flatMap ('.' :: ·)).takeWhile Key.isNameChar = [] := by
    cases parts with
    | nil => rfl
    | cons next rest => rfl
  rw [List.takeWhile_append_of_pos inside, List.dropWhile_append_of_pos inside, ends,
    List.append_nil]
  refine ⟨rfl, ?_⟩
  cases parts with
  | nil => rfl
  | cons next rest => rfl

/-- Plain names behind dots are read as steps. -/
theorem steps?_of_plain (plain : ∀ part ∈ parts, part ≠ [] ∧ ∀ c ∈ part, IsPlainChar c)
    {fuel : Nat} (enough : parts.length ≤ fuel) :
    Key.steps? fuel (parts.flatMap ('.' :: ·)) =
      some (parts.map fun part => Step.member (String.ofList part)) := by
  induction parts generalizing fuel with
  | nil => cases fuel <;> rfl
  | cons part rest inductionHypothesis =>
    obtain ⟨nonempty, isPlain⟩ := plain part List.mem_cons_self
    obtain ⟨taken, dropped⟩ := span_name isPlain rest
    cases fuel with
    | zero => cases enough
    | succ fuel =>
      have later := inductionHypothesis
        (fun other member => plain other (List.mem_cons_of_mem _ member))
        (Nat.le_of_succ_le_succ enough)
      rw [List.flatMap_cons, List.cons_append, Key.steps?]
      simp only [taken, dropped, later]
      rw [if_neg (by simpa using nonempty)]
      rfl

/-- Parts with dots between them are the first one and the others behind dots. -/
theorem intercalate_cons (part : List Char) (rest : List (List Char)) :
    ['.'].intercalate (part :: rest) = part ++ rest.flatMap ('.' :: ·) := by
  induction rest generalizing part with
  | nil => rfl
  | cons next rest inductionHypothesis =>
    rw [List.intercalate_cons_cons, inductionHypothesis]
    simp

/-- A key of plain names leads along them. -/
theorem ofText_of_plain {first : String} {rest : List String}
    (path : pathOf key = first :: rest) (plain : ∀ name ∈ pathOf key, IsPlain name) :
    Key.ofText key = ⟨first, rest.map Step.member⟩ := by
  obtain ⟨part, parts, split⟩ :
      ∃ part parts, key.toList.splitOn '.' = part :: parts :=
    List.exists_cons_of_ne_nil fun empty => by simp [pathOf, empty] at path
  rw [pathOf, split, List.map_cons] at path
  obtain ⟨rfl, rfl⟩ := List.cons.inj path
  have inside : ∀ other ∈ part :: parts, other ≠ [] ∧ ∀ c ∈ other, IsPlainChar c := by
    intro other member
    have isPlain := plain (String.ofList other)
      (by rw [pathOf, split]; exact List.mem_map_of_mem member)
    rwa [IsPlain, String.toList_ofList] at isPlain
  have chars : key.toList = part ++ parts.flatMap ('.' :: ·) := by
    rw [← intercalate_cons, ← split, List.intercalate_splitOn]
  obtain ⟨taken, dropped⟩ := span_name (inside part List.mem_cons_self).2 parts
  have enough : parts.length ≤ key.length := by
    have dots := List.length_le_sum_of_one_le (parts.map fun part => ('.' :: part).length)
      (by simp)
    rw [List.length_map] at dots
    rw [← String.length_toList, chars, List.length_append, List.length_flatMap]
    omega
  have steps := steps?_of_plain
    (fun other member => inside other (List.mem_cons_of_mem _ member)) enough
  rw [Key.ofText, chars, taken, dropped, steps]
  simp [(inside part List.mem_cons_self).1]

/-! ## Sources -/

/-- A source with plain names is laid over what is there member by member. -/
theorem layOver_of_plain {source : Members} (plain : ∀ member ∈ source, IsPlain member.1)
    (there : Members) : layOver source there = overlayMembers source there := by
  induction source generalizing there with
  | nil => rw [overlayMembers]; rfl
  | cons member rest inductionHypothesis =>
    obtain ⟨name, value⟩ := member
    have isPlain : IsPlain name := plain _ List.mem_cons_self
    have key : Key.ofText name = ⟨name, []⟩ := by
      apply ofText_of_plain isPlain.pathOf
      rw [isPlain.pathOf]
      exact fun other member => List.mem_singleton.mp member ▸ isPlain
    rw [overlayMembers_cons,
      ← inductionHypothesis fun other member => plain other (List.mem_cons_of_mem _ member)]
    simp only [layOver, List.foldl_cons, key, overlayAt]

/-- A source whose keys lead along plain names is stacked with a layer for each key. -/
theorem layOver_of_paths {source : Members}
    (plain : ∀ member ∈ source, ∀ name ∈ pathOf member.1, IsPlain name) (there : Members) :
    layOver source there =
      stack (source.map fun member => layer (pathOf member.1) member.2) there := by
  induction source generalizing there with
  | nil => rfl
  | cons member rest inductionHypothesis =>
    obtain ⟨key, value⟩ := member
    have isPlain : ∀ name ∈ pathOf key, IsPlain name := plain _ List.mem_cons_self
    obtain ⟨first, names, path⟩ : ∃ first names, pathOf key = first :: names :=
      List.exists_cons_of_ne_nil (by simp [pathOf])
    have merged : lowerName first = first := (isPlain first (by simp [path])).lowerName
    have later := inductionHypothesis
      (fun other member => plain other (List.mem_cons_of_mem _ member))
      (overlayMembers (layer (pathOf key) value) there)
    rw [List.map_cons, stack, List.foldl_cons]
    refine Eq.trans ?_ later
    simp only [layOver, List.foldl_cons, ofText_of_plain path isPlain, overlayAt_members, path,
      layer, nest, membersOf, overlayMembers_cons, merged]
    simp only [overlayMembers]

/-! ## The environment -/

/-- A new member is put at the end. -/
theorem put_of_not_mem {members : Members} (absent : name ∉ members.map Prod.fst)
    (value : Setting) : put name value members = members ++ [(name, value)] := by
  induction members with
  | nil => rfl
  | cons member rest inductionHypothesis =>
    rw [List.map_cons, List.mem_cons, not_or] at absent
    rw [put, if_neg (Ne.symm absent.1), inductionHypothesis absent.2, List.cons_append]

/-- The key and the value that a variable sets, if it is a setting. -/
def assignment? (entry : String × String) : Option (String × Setting) :=
  (keyOfVariable? entry.1).map fun key => (key, ofVariable entry.2)

/-- Variables are assigned to the keys that they name. -/
theorem map_fst_assignment? (environment : List (String × String)) :
    (environment.filterMap assignment?).map Prod.fst =
      environment.filterMap fun entry => keyOfVariable? entry.1 := by
  rw [List.map_filterMap]
  apply List.filterMap_congr
  intro entry _
  rw [assignment?, Option.map_map]
  exact Option.map_id'

/-- Variables for different keys are the settings in the environment one by one. -/
theorem ofEnvironment_of_nodup {environment : List (String × String)}
    (once : (environment.filterMap fun entry => keyOfVariable? entry.1).Nodup) :
    ofEnvironment environment = environment.filterMap assignment? := by
  induction environment using List.reverseRecOn with
  | nil => rfl
  | append_singleton earlier entry inductionHypothesis =>
    obtain ⟨name, value⟩ := entry
    rw [List.filterMap_append, List.nodup_append] at once
    obtain ⟨onceEarlier, -, apart⟩ := once
    rw [List.filterMap_append, ← inductionHypothesis onceEarlier, ofEnvironment,
      List.foldl_append, List.foldl_cons, List.foldl_nil]
    cases sets : keyOfVariable? name with
    | none => simp [assignment?, sets, ofEnvironment]
    | some key =>
      have absent : key ∉ (ofEnvironment earlier).map Prod.fst := by
        rw [inductionHypothesis onceEarlier, map_fst_assignment?]
        exact fun member => apart key member key (by simp [sets]) rfl
      simp only [List.filterMap_cons, List.filterMap_nil, assignment?, sets, Option.map_some]
      exact put_of_not_mem absent _

/-- The value of a variable is a scalar. -/
theorem isFlat_ofVariable (value : String) : IsFlat (ofVariable value) := by
  intro inner
  simp only [ofVariable]
  split
  · exact Setting.noConfusion
  split
  · exact Setting.noConfusion
  split
  · exact Setting.noConfusion
  split
  · exact Setting.noConfusion
  · exact Setting.noConfusion

end FriendGraph.Setting
