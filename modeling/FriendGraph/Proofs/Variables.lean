import FriendGraph.Proofs.Settings
import FriendGraph.Proofs.Spelling

/-! # Texts that variables set

What the files say for a text does not matter when the environment has a variable for it, as long as
no other variable is for a section that the text is in (`Setting.Key.Spares`,
`Setting.at?_layOver`). But the text of the variable is not taken as it is
(`Settings.variables_set_texts`): a text that spells a truth value, an integer or a number is read
as one, and where a text is wanted that is printed. So a path `007` becomes `7`
(`Settings.numerals_are_respelled`).
-/

namespace FriendGraph

namespace Setting

variable {value : Setting} {members source there : Members} {path : List String}

/-! ## Keys that lead elsewhere -/

namespace Key

/-- The steps part from the names, from one member to another, or go beyond the last of them. -/
def StepsSpare : List Step → List String → Prop
  | [], _ => False
  | _ :: _, [] => True
  | .item _ :: _, _ :: _ => False
  | .member first :: steps, name :: names => lowerName first ≠ name ∨ StepsSpare steps names

/-- A key leads neither to the end of a path nor to anything on the way to it. -/
def Spares (key : Key) (path : List String) : Prop :=
  StepsSpare (.member key.name :: key.steps) path

/-- Whether steps spare a path can be computed. -/
def decideStepsSpare :
    (steps : List Step) → (path : List String) → Decidable (StepsSpare steps path)
  | [], _ => isFalse id
  | _ :: _, [] => isTrue (by rw [StepsSpare]; exact trivial)
  | .item _ :: _, _ :: _ => isFalse id
  | .member first :: steps, name :: names =>
    have := decideStepsSpare steps names
    inferInstanceAs (Decidable (lowerName first ≠ name ∨ StepsSpare steps names))

instance (key : Key) (path : List String) : Decidable (key.Spares path) := decideStepsSpare _ _

end Key

/-- There is a value, but none that stands for a text. -/
def IsTextless (found : Option Setting) : Prop :=
  ∃ value, found = some value ∧ value.asText? = none

/-- Where a value lies further down there is no text. -/
theorem isTextless_overlayAt (step : Step) (steps : List Step) (there : Option Setting) :
    IsTextless (some (overlayAt value (step :: steps) there)) := by
  cases step with
  | member name => exact ⟨_, rfl, by rw [overlayAt, asText?]⟩
  | item place =>
    cases steps with
    | nil => exact ⟨_, rfl, by rw [overlayAt, asText?]⟩
    | cons next further => exact ⟨_, rfl, by simp only [overlayAt, asText?]⟩

/-- A key that spares a path leaves what is at its end, or makes a group or a list of it. -/
theorem at?_put_of_spares {name : String} {steps : List Step} (nonempty : path ≠ [])
    (spares : Key.StepsSpare (.member name :: steps) path) (members : Members) :
    at? path (put (lowerName name)
        (overlayAt value steps (members.lookup (lowerName name))) members) = at? path members ∨
      IsTextless (at? path (put (lowerName name)
        (overlayAt value steps (members.lookup (lowerName name))) members)) := by
  induction path generalizing name steps members with
  | nil => exact absurd rfl nonempty
  | cons first further inductionHypothesis =>
    by_cases same : lowerName name = first
    · subst same
      have later := spares.resolve_left (not_not_intro rfl)
      cases steps with
      | nil => exact later.elim
      | cons step steps =>
        cases further with
        | nil =>
          rw [at?, lookup_put_self]
          exact .inr (isTextless_overlayAt step steps _)
        | cons next further =>
          rw [at?, at?, lookup_put_self]
          cases step with
          | item => cases later
          | member second => exact inductionHypothesis (List.cons_ne_nil _ _) later (membersOf _)
    · left
      cases further with
      | nil => exact lookup_put_of_ne (Ne.symm same) _ members
      | cons next further => rw [at?, at?, lookup_put_of_ne (Ne.symm same)]

/-- What is laid at the end of a path is there afterwards. -/
theorem at?_put_of_leads {first : String} {rest : List String} (flat : IsFlat value)
    (merged : ∀ name ∈ first :: rest, lowerName name = name) (members : Members) :
    at? (first :: rest) (put first
      (overlayAt value (rest.map Step.member) (members.lookup first)) members) = some value := by
  induction rest generalizing first members with
  | nil =>
    rw [at?, lookup_put_self, List.map_nil, overlayAt, flat.overlay]
  | cons next rest inductionHypothesis =>
    have same : lowerName next = next := merged next (by simp)
    rw [at?, lookup_put_self, List.map_cons, overlayAt, same]
    exact inductionHypothesis (fun name member => merged name (List.mem_cons_of_mem _ member))
      (membersOf _)

/-! ## A source of keys -/

/-- Members are laid over each other one after another. -/
theorem layOver_append (first second there : Members) :
    layOver (first ++ second) there = layOver second (layOver first there) :=
  List.foldl_append

theorem layOver_cons (member : String × Setting) (rest there : Members) :
    layOver (member :: rest) there = layOver rest (layOver [member] there) := rfl

/-- Keys that spare a path leave what is at its end, or make a group or a list of it. -/
theorem at?_layOver_of_spares (nonempty : path ≠ [])
    (spare : ∀ member ∈ source, (Key.ofText member.1).Spares path) (there : Members) :
    at? path (layOver source there) = at? path there ∨
      IsTextless (at? path (layOver source there)) := by
  induction source generalizing there with
  | nil => exact .inl rfl
  | cons member rest inductionHypothesis =>
    have here : at? path (layOver [member] there) = at? path there ∨
        IsTextless (at? path (layOver [member] there)) :=
      at?_put_of_spares nonempty (spare member List.mem_cons_self) there
    rw [layOver_cons]
    rcases inductionHypothesis (fun other mem => spare other (List.mem_cons_of_mem _ mem))
      (layOver [member] there) with kept | textless
    · rwa [kept]
    · exact .inr textless

/-- What a key of a source leads to is what the source has under it, if all other keys of the source
spare it; or it is a group or a list. -/
theorem at?_layOver {key first : String} {rest : List String}
    (leads : Key.ofText key = ⟨first, rest.map Step.member⟩)
    (merged : ∀ name ∈ first :: rest, lowerName name = name) (flat : IsFlat value)
    (once : (source.map Prod.fst).Nodup) (given : source.lookup key = some value)
    (spare : ∀ member ∈ source, member.1 ≠ key →
      (Key.ofText member.1).Spares (first :: rest))
    (there : Members) :
    at? (first :: rest) (layOver source there) = some value ∨
      IsTextless (at? (first :: rest) (layOver source there)) := by
  obtain ⟨before, after, rfl, -⟩ := List.lookup_eq_some_iff.mp given
  rw [List.map_append, List.map_cons, List.nodup_append, List.nodup_cons] at once
  have later : ∀ member ∈ after, (Key.ofText member.1).Spares (first :: rest) := by
    intro member mem
    apply spare member (List.mem_append_right _ (List.mem_cons_of_mem _ mem))
    intro same
    exact once.2.1.1 (List.mem_map.mpr ⟨member, mem, same⟩)
  have same : lowerName first = first := merged first List.mem_cons_self
  have laid : at? (first :: rest) (layOver [(key, value)] (layOver before there)) = some value := by
    simp only [layOver, List.foldl_cons, List.foldl_nil, leads, same]
    exact at?_put_of_leads flat merged _
  rw [layOver_append, layOver_cons, ← laid]
  exact at?_layOver_of_spares (List.cons_ne_nil _ _) later _

/-! ## The environment as a source -/

/-- The value of the last variable for a key. -/
def assigned? (environment : List (String × String)) (key : String) : Option String :=
  (environment.reverse.find? fun entry => keyOfVariable? entry.1 = some key).map Prod.snd

variable {environment : List (String × String)}

/-- A variable is put after those before it, under its key. -/
theorem ofEnvironment_append_singleton (earlier : List (String × String))
    (entry : String × String) :
    ofEnvironment (earlier ++ [entry]) =
      match keyOfVariable? entry.1 with
      | some key => put key (ofVariable entry.2) (ofEnvironment earlier)
      | none => ofEnvironment earlier :=
  List.foldl_append

/-- No key of the environment comes twice. -/
theorem nodup_ofEnvironment (environment : List (String × String)) :
    ((ofEnvironment environment).map Prod.fst).Nodup := by
  induction environment using List.reverseRecOn with
  | nil => exact List.nodup_nil
  | append_singleton earlier entry inductionHypothesis =>
    rw [ofEnvironment_append_singleton]
    split
    · exact nodup_put inductionHypothesis _ _
    · exact inductionHypothesis

/-- Every member of the environment was set by a variable. -/
theorem exists_variable_of_mem {member : String × Setting}
    (present : member ∈ ofEnvironment environment) :
    ∃ entry ∈ environment, keyOfVariable? entry.1 = some member.1 := by
  induction environment using List.reverseRecOn with
  | nil => cases present
  | append_singleton earlier entry inductionHypothesis =>
    rw [ofEnvironment_append_singleton] at present
    have before (there : member ∈ ofEnvironment earlier) :
        ∃ other ∈ earlier ++ [entry], keyOfVariable? other.1 = some member.1 := by
      obtain ⟨other, isThere, sets⟩ := inductionHypothesis there
      exact ⟨other, List.mem_append_left _ isThere, sets⟩
    split at present
    · next key sets =>
      rcases mem_put present with rfl | there
      · exact ⟨entry, by simp, sets⟩
      · exact before there
    · exact before present

/-- Under a key the environment has the value of the last variable for it. -/
theorem lookup_ofEnvironment (environment : List (String × String)) (key : String) :
    (ofEnvironment environment).lookup key = (assigned? environment key).map ofVariable := by
  induction environment using List.reverseRecOn with
  | nil => rfl
  | append_singleton earlier entry inductionHypothesis =>
    rw [ofEnvironment_append_singleton, assigned?, List.reverse_append, List.reverse_singleton,
      List.singleton_append, List.find?_cons]
    by_cases sets : keyOfVariable? entry.1 = some key
    · rw [sets, decide_eq_true rfl]
      exact lookup_put_self key _ _
    · rw [decide_eq_false sets]
      dsimp only
      rw [← assigned?, ← inductionHypothesis]
      split
      · next other isOther =>
        apply lookup_put_of_ne
        intro same
        exact sets (same ▸ isOther)
      · rfl

/-! ## Reading texts -/

/-- What lies at a path lies in the group under its first name. -/
theorem exists_group_of_at? {name next : String} {further : List String}
    (found : at? (name :: next :: further) members = some value) :
    ∃ inner, members.lookup name = some (group inner) ∧
      at? (next :: further) inner = some value := by
  have absent : at? (next :: further) [] ≠ some value := by
    rw [at?_nil_members]
    exact Option.some_ne_none value |>.symm
  rw [at?] at found
  cases reached : members.lookup name with
  | none =>
    rw [reached] at found
    exact absurd found absent
  | some within =>
    rw [reached] at found
    cases within with
    | group inner => exact ⟨inner, rfl, found⟩
    | _ => exact absurd found absent

end Setting

/-- The single settings that are texts. -/
inductive TextSetting where
  | storagePath
  | endpoint
  | graphUrl
deriving DecidableEq

namespace TextSetting

open Setting

/-- The names that lead to the setting. -/
def path : TextSetting → List String
  | storagePath => Leaf.storagePath.path
  | endpoint => Leaf.endpoint.path
  | graphUrl => Leaf.graphUrl.path

/-- The key of the setting, which leads along its path. -/
def key : TextSetting → String
  | storagePath => "storage.path"
  | endpoint => "notifications.webhook.endpoint"
  | graphUrl => "social.facebook.graph_url"

/-- The setting among all settings. -/
def of? : TextSetting → Settings → Option String
  | storagePath => Leaf.storagePath.of?
  | endpoint => Leaf.endpoint.of?
  | graphUrl => Leaf.graphUrl.of?

variable {settings : Settings} {members : Members} {value : Setting}

/-- The key of a text setting leads to it. -/
theorem path_of_key (setting : TextSetting) :
    ∃ first rest, setting.path = first :: rest ∧
      Key.ofText setting.key = ⟨first, rest.map Step.member⟩ ∧
      ∀ name ∈ first :: rest, lowerName name = name := by
  cases setting with
  | storagePath => exact ⟨_, _, rfl, by decide +kernel, by decide +kernel⟩
  | endpoint => exact ⟨_, _, rfl, by decide +kernel, by decide +kernel⟩
  | graphUrl => exact ⟨_, _, rfl, by decide +kernel, by decide +kernel⟩

theorem field_of_some {Value : Type} {read : Settings.Reading Value} {standard : Value}
    {fields : Fields} {name : String} {place : Nat} (found : fields name place = some value) :
    Settings.field read standard fields name place = read name value := by
  rw [Settings.field, found]

/-- Whatever else is read, a text is what is at the end of its path. -/
theorem of?_read (setting : TextSetting) (read : Settings.read members = .ok settings)
    (found : at? setting.path members = some value) :
    ∃ text, setting.of? settings = some text ∧ value.asText? = some text := by
  obtain ⟨storage, isStorage, read⟩ := Sources.bind_eq_ok_iff.mp read
  obtain ⟨notifications, isNotifications, read⟩ := Sources.bind_eq_ok_iff.mp read
  obtain ⟨graph, isGraph, read⟩ := Sources.bind_eq_ok_iff.mp read
  cases read
  cases setting with
  | storagePath =>
    obtain ⟨inner, isInner, atEnd⟩ := exists_group_of_at? found
    rw [field_of_some isInner, Settings.readStorage_eq_ok_iff] at isStorage
    have resolved := isStorage.2.1
    exact ⟨_, rfl, (congrArg Leaf.storagePath.resolve atEnd).symm.trans resolved⟩
  | endpoint =>
    obtain ⟨inner, isInner, onTheWay⟩ := exists_group_of_at? found
    obtain ⟨within, isWithin, atEnd⟩ := exists_group_of_at? onTheWay
    have groups : ∀ other, inner.lookup "webhook" = some other → IsGroup other := by
      intro other isThere
      cases isWithin.symm.trans isThere
      exact ⟨within, rfl⟩
    rw [field_of_some isInner, Settings.readNotifications_eq_ok_iff groups] at isNotifications
    obtain ⟨-, -, isThere, isWebhook⟩ := isNotifications
    obtain ⟨webhook, isSet⟩ :=
      Option.isSome_iff_exists.mp (isThere.mpr (Option.isSome_of_eq_some isWithin))
    have read := isWebhook webhook isSet
    rw [isWithin] at read
    have resolved := (Settings.readWebhook_eq_ok_iff.mp read).1
    exact ⟨webhook.endpoint, congrArg (Option.map _) isSet,
      (congrArg Leaf.endpoint.resolve atEnd).symm.trans resolved⟩
  | graphUrl =>
    obtain ⟨inner, isInner, onTheWay⟩ := exists_group_of_at? found
    obtain ⟨within, isWithin, atEnd⟩ := exists_group_of_at? onTheWay
    rw [field_of_some isInner] at isGraph
    change Settings.field Settings.readGraph .standard (fun name _ => inner.lookup name)
      "facebook" 0 = .ok graph at isGraph
    rw [field_of_some isWithin, Settings.readGraph_eq_ok_iff] at isGraph
    have resolved := isGraph.1
    exact ⟨_, rfl, (congrArg Leaf.graphUrl.resolve atEnd).symm.trans resolved⟩

end TextSetting

namespace Settings

open Setting

variable {sources : Sources} {settings : Settings}

/-- The environment is laid over whatever the files hold. -/
theorem exists_files_of_merged {members : Members} (merged : sources.merged = .ok members) :
    ∃ files, members = layOver (ofEnvironment sources.environment) files := by
  obtain ⟨standard, -, merged⟩ := Sources.bind_eq_ok_iff.mp merged
  obtain ⟨ofArgument, -, merged⟩ := Sources.bind_eq_ok_iff.mp merged
  obtain ⟨ofVariable, -, merged⟩ := Sources.bind_eq_ok_iff.mp merged
  cases merged
  exact ⟨_, rfl⟩

/-- **A text is what is printed for the value that its variable spells.** Let the last variable for
a text setting have some value, and no other variable be for a section that the setting is in or
for an item of one. If settings are loaded, then whatever the files hold, the setting is there and
is the text of what the value is read as: `true` or `false`, the integer, the number or the value
itself. So it is the value character for character exactly if the value is spelled as it is printed,
which is certain if it has a character that no number and no truth value has. -/
theorem variables_set_texts (setting : TextSetting) {value : String}
    (sets : assigned? sources.environment setting.key = some value)
    (spared : ∀ entry ∈ sources.environment, ∀ key ∈ keyOfVariable? entry.1,
      key ≠ setting.key → (Key.ofText key).Spares setting.path)
    (loaded : Settings.load sources = .ok settings) :
    ∃ text, setting.of? settings = some text ∧
      (ofVariable value).asText? = some text ∧
      (text = value ↔ KeepsSpelling value) ∧
      (¬IsNumeral value.toList → text = value) := by
  obtain ⟨members, merged, read⟩ := Sources.bind_eq_ok_iff.mp loaded
  obtain ⟨files, rfl⟩ := exists_files_of_merged merged
  obtain ⟨first, rest, isPath, leads, lower⟩ := setting.path_of_key
  have given : (ofEnvironment sources.environment).lookup setting.key =
      some (ofVariable value) := by
    rw [lookup_ofEnvironment, sets, Option.map_some]
  have spare : ∀ member ∈ ofEnvironment sources.environment, member.1 ≠ setting.key →
      (Key.ofText member.1).Spares (first :: rest) := by
    intro member present differs
    obtain ⟨entry, isThere, isKey⟩ := exists_variable_of_mem present
    rw [← isPath]
    exact spared entry isThere member.1 isKey differs
  have laid := at?_layOver leads lower (isFlat_ofVariable value) (nodup_ofEnvironment _) given spare
    files
  rw [← isPath] at laid
  rcases laid with found | ⟨textless, found, noText⟩
  · obtain ⟨text, isThere, isText⟩ := setting.of?_read read found
    have kept : text = value ↔ KeepsSpelling value := by
      rw [← asText?_ofVariable_iff, isText, Option.some_inj]
    exact ⟨text, isThere, isText, kept,
      fun other => kept.mpr (keepsSpelling_of_not_isNumeral other)⟩
  · -- A group or a list is no text, so nothing is loaded.
    obtain ⟨text, -, isText⟩ := setting.of?_read read found
    cases noText.symm.trans isText

/-- A file with one path, and variables for another one and for the limit beside it. -/
def relocated : Sources where
  file? name :=
    if name = "config.yaml" then some "storage:\n  path: /tmp/from-file.db\n" else none
  argument := none
  environment :=
    [("SOCIALGRAPH_STORAGE__PATH", "/tmp/from-env.db"),
      ("SOCIALGRAPH_STORAGE__MAX_BIND_PARAMS", "500")]

/-- The variable for the path wins over the file. -/
theorem variables_set_texts_relocated :
    ∃ settings, Settings.load relocated = .ok settings ∧
      settings.storage.path = "/tmp/from-env.db" := by
  have succeeds : (Settings.load relocated).toOption.isSome = true := by decide +kernel
  cases loaded : Settings.load relocated with
  | error error =>
    rw [loaded] at succeeds
    cases succeeds
  | ok settings =>
    have sets : assigned? relocated.environment TextSetting.storagePath.key =
        some "/tmp/from-env.db" := by decide +kernel
    obtain ⟨text, isThere, -, -, kept⟩ :=
      variables_set_texts .storagePath sets (by decide +kernel) loaded
    have isText : settings.storage.path = text := Option.some.inj isThere
    exact ⟨settings, rfl, isText.trans (kept (by decide +kernel))⟩

/-- The variable of a path that has digits only, the first of them zeros. -/
def numbered : Sources where
  file? _ := none
  argument := none
  environment := [("SOCIALGRAPH_STORAGE__PATH", "007")]

/-- A path that spells an integer is not taken as it is written. -/
theorem numerals_are_respelled :
    assigned? numbered.environment TextSetting.storagePath.key = some "007" ∧
      (Settings.load numbered).toOption.map (fun settings => settings.storage.path) = some "7" := by
  decide +kernel

end Settings

end FriendGraph
