import FriendGraph.Proofs.Sources

/-! # Settings merge field by field

Every single setting (`Leaf`) has a path, a conversion and a standard value of its own. Settings
are loaded from regular sources exactly when the files can be read and, for each single setting,
what the last source gives can be converted; each field is then what was converted, or the standard
value if no source gives any (`Settings.sources_merge_by_field`). So what an earlier source gives
for a field has no influence, whatever it is, and neither has what is no field.
-/

namespace FriendGraph

open Setting (Members IsGroup at? membersOf sections webhookPath)
open Settings (Reading reading field optional)

/-! ## Single settings -/

namespace Leaf

/-- The values of a single setting. -/
def Value : Leaf → Type
  | storageKind => StorageKind
  | storagePath | endpoint | graphUrl => String
  | expiry => Int
  | maxBindParams | queueCapacity | webhookTimeout | graphTimeout | pageLimit => Nat

instance : (leaf : Leaf) → DecidableEq leaf.Value
  | storageKind => inferInstanceAs (DecidableEq StorageKind)
  | storagePath | endpoint | graphUrl => inferInstanceAs (DecidableEq String)
  | expiry => inferInstanceAs (DecidableEq Int)
  | maxBindParams | queueCapacity | webhookTimeout | graphTimeout | pageLimit =>
    inferInstanceAs (DecidableEq Nat)

/-- The conversion of a value that is given. -/
def convert : (leaf : Leaf) → Setting → Option leaf.Value
  | storageKind => Settings.storageKind?
  | storagePath => Setting.asText?
  | maxBindParams => Setting.asNat?
  | expiry => Setting.asInt?
  | queueCapacity => Setting.asNat?
  | endpoint => Setting.asText?
  | webhookTimeout => Setting.asNat?
  | graphUrl => Setting.asText?
  | graphTimeout => Setting.asNat?
  | pageLimit => Setting.asSmallNat?

/-- The value where nothing is given. -/
def standard : (leaf : Leaf) → leaf.Value
  | storageKind => StorageSettings.standard.kind
  | storagePath => StorageSettings.standard.path
  | maxBindParams => StorageSettings.standard.maxBindParams
  | expiry => NotificationSettings.standard.expiry
  | queueCapacity => NotificationSettings.standard.queueCapacity
  | endpoint => WebhookSettings.standard.endpoint
  | webhookTimeout => WebhookSettings.standard.timeoutSeconds
  | graphUrl => GraphSettings.standard.graphUrl
  | graphTimeout => GraphSettings.standard.timeoutSeconds
  | pageLimit => GraphSettings.standard.pageLimit

/-- The single setting among all settings; what belongs to a section that is not there is not there
either. -/
def of? : (leaf : Leaf) → Settings → Option leaf.Value
  | storageKind, settings => some settings.storage.kind
  | storagePath, settings => some settings.storage.path
  | maxBindParams, settings => some settings.storage.maxBindParams
  | expiry, settings => some settings.notifications.expiry
  | queueCapacity, settings => some settings.notifications.queueCapacity
  | endpoint, settings => settings.notifications.webhook.map WebhookSettings.endpoint
  | webhookTimeout, settings => settings.notifications.webhook.map WebhookSettings.timeoutSeconds
  | graphUrl, settings => some settings.graph.graphUrl
  | graphTimeout, settings => some settings.graph.timeoutSeconds
  | pageLimit, settings => some settings.graph.pageLimit

/-- What comes of the value that is given, if one is. -/
def resolve (leaf : Leaf) : Option Setting → Option leaf.Value
  | some given => leaf.convert given
  | none => some leaf.standard

end Leaf

namespace Settings

variable {Value : Type} {fields : Setting.Fields} {name : String} {place : Nat}
  {members inner : Members} {settings : Settings}

/-- The settings are those that merged members stand for, setting by setting. -/
structure Follows (settings : Settings) (members : Members) : Prop where
  leaves : ∀ (leaf : Leaf) (value : leaf.Value), leaf.of? settings = some value →
    leaf.resolve (at? leaf.path members) = some value
  webhook : settings.notifications.webhook.isSome ↔ (at? webhookPath members).isSome

/-! ## Reading records -/

/-- A field is read exactly when its leaf resolves to a value. -/
theorem bind_leaf_eq_ok_iff (leaf : Leaf) {next : leaf.Value → Except SettingsError Value}
    {last : Value} :
    (field (reading leaf.convert) leaf.standard fields name place >>= next) = .ok last ↔
      ∃ value, leaf.resolve (fields name place) = some value ∧ next value = .ok last := by
  rw [Sources.bind_eq_ok_iff]
  apply exists_congr
  intro value
  apply and_congr_left
  intro _
  unfold field
  cases fields name place with
  | none => simp [Leaf.resolve]
  | some given =>
    unfold reading
    cases converted : leaf.convert given <;> simp [Leaf.resolve, converted]

/-- A section for the storage is read leaf by leaf. -/
theorem readStorage_eq_ok_iff {storage : StorageSettings} :
    readStorage name (.group inner) = .ok storage ↔
      Leaf.storageKind.resolve (inner.lookup "type") = some storage.kind ∧
      Leaf.storagePath.resolve (inner.lookup "path") = some storage.path ∧
      Leaf.maxBindParams.resolve (inner.lookup "max_bind_params") = some storage.maxBindParams := by
  constructor
  · intro read
    obtain ⟨kind, isKind, read⟩ := (bind_leaf_eq_ok_iff .storageKind).mp read
    obtain ⟨path, isPath, read⟩ := (bind_leaf_eq_ok_iff .storagePath).mp read
    obtain ⟨params, isParams, read⟩ := (bind_leaf_eq_ok_iff .maxBindParams).mp read
    cases read
    exact ⟨isKind, isPath, isParams⟩
  · intro ⟨isKind, isPath, isParams⟩
    apply (bind_leaf_eq_ok_iff .storageKind).mpr ⟨_, isKind, ?_⟩
    apply (bind_leaf_eq_ok_iff .storagePath).mpr ⟨_, isPath, ?_⟩
    exact (bind_leaf_eq_ok_iff .maxBindParams).mpr ⟨_, isParams, rfl⟩

/-- A section for the webhook is read leaf by leaf. -/
theorem readWebhook_eq_ok_iff {webhook : WebhookSettings} :
    readWebhook name (.group inner) = .ok webhook ↔
      Leaf.endpoint.resolve (inner.lookup "endpoint") = some webhook.endpoint ∧
      Leaf.webhookTimeout.resolve (inner.lookup "timeout_secs") = some webhook.timeoutSeconds := by
  constructor
  · intro read
    obtain ⟨endpoint, isEndpoint, read⟩ := (bind_leaf_eq_ok_iff .endpoint).mp read
    obtain ⟨timeout, isTimeout, read⟩ := (bind_leaf_eq_ok_iff .webhookTimeout).mp read
    cases read
    exact ⟨isEndpoint, isTimeout⟩
  · intro ⟨isEndpoint, isTimeout⟩
    apply (bind_leaf_eq_ok_iff .endpoint).mpr ⟨_, isEndpoint, ?_⟩
    exact (bind_leaf_eq_ok_iff .webhookTimeout).mpr ⟨_, isTimeout, rfl⟩

/-- A section for the social graph is read leaf by leaf. -/
theorem readGraph_eq_ok_iff {graph : GraphSettings} :
    readGraph name (.group inner) = .ok graph ↔
      Leaf.graphUrl.resolve (inner.lookup "graph_url") = some graph.graphUrl ∧
      Leaf.graphTimeout.resolve (inner.lookup "timeout_secs") = some graph.timeoutSeconds ∧
      Leaf.pageLimit.resolve (inner.lookup "page_limit") = some graph.pageLimit := by
  constructor
  · intro read
    obtain ⟨url, isUrl, read⟩ := (bind_leaf_eq_ok_iff .graphUrl).mp read
    obtain ⟨timeout, isTimeout, read⟩ := (bind_leaf_eq_ok_iff .graphTimeout).mp read
    obtain ⟨limit, isLimit, read⟩ := (bind_leaf_eq_ok_iff .pageLimit).mp read
    cases read
    exact ⟨isUrl, isTimeout, isLimit⟩
  · intro ⟨isUrl, isTimeout, isLimit⟩
    apply (bind_leaf_eq_ok_iff .graphUrl).mpr ⟨_, isUrl, ?_⟩
    apply (bind_leaf_eq_ok_iff .graphTimeout).mpr ⟨_, isTimeout, ?_⟩
    exact (bind_leaf_eq_ok_iff .pageLimit).mpr ⟨_, isLimit, rfl⟩

/-- A section that is not there is read like one without members. -/
theorem field_section {read : Reading Value} {standard : Value}
    (empty : read name (.group []) = .ok standard)
    (groups : ∀ value, members.lookup name = some value → IsGroup value) :
    field read standard (fun name _ => members.lookup name) name place =
      read name (.group (membersOf (members.lookup name))) := by
  simp only [field]
  cases found : members.lookup name with
  | none => exact empty.symm
  | some value =>
    obtain ⟨inner, rfl⟩ := groups value found
    rfl

/-- The optional section is read when it is there. -/
theorem field_webhook_eq_ok_iff {webhook : Option WebhookSettings}
    (groups : ∀ value, fields name place = some value → IsGroup value) :
    field (optional readWebhook) none fields name place = .ok webhook ↔
      (webhook.isSome ↔ (fields name place).isSome) ∧
        ∀ settings, webhook = some settings →
          readWebhook name (.group (membersOf (fields name place))) = .ok settings := by
  unfold field
  cases found : fields name place with
  | none => cases webhook <;> simp
  | some value =>
    obtain ⟨inner, rfl⟩ := groups value found
    change (readWebhook name (.group inner)).map some = .ok webhook ↔ _
    cases read : readWebhook name (.group inner) <;> cases webhook <;>
      simp [Except.map, membersOf, read]

/-- A section for notifications is read leaf by leaf, and the webhook if it is there. -/
theorem readNotifications_eq_ok_iff {notifications : NotificationSettings}
    (groups : ∀ value, inner.lookup "webhook" = some value → IsGroup value) :
    readNotifications name (.group inner) = .ok notifications ↔
      Leaf.expiry.resolve (inner.lookup "expiry_ms") = some notifications.expiry ∧
      Leaf.queueCapacity.resolve (inner.lookup "queue_capacity") =
        some notifications.queueCapacity ∧
      (notifications.webhook.isSome ↔ (inner.lookup "webhook").isSome) ∧
      ∀ webhook, notifications.webhook = some webhook →
        readWebhook "webhook" (.group (membersOf (inner.lookup "webhook"))) = .ok webhook := by
  constructor
  · intro read
    obtain ⟨expiry, isExpiry, read⟩ := (bind_leaf_eq_ok_iff .expiry).mp read
    obtain ⟨capacity, isCapacity, read⟩ := (bind_leaf_eq_ok_iff .queueCapacity).mp read
    obtain ⟨webhook, isWebhook, read⟩ := Sources.bind_eq_ok_iff.mp read
    cases read
    exact ⟨isExpiry, isCapacity, (field_webhook_eq_ok_iff groups).mp isWebhook⟩
  · intro ⟨isExpiry, isCapacity, isWebhook⟩
    apply (bind_leaf_eq_ok_iff .expiry).mpr ⟨_, isExpiry, ?_⟩
    apply (bind_leaf_eq_ok_iff .queueCapacity).mpr ⟨_, isCapacity, ?_⟩
    exact Sources.bind_eq_ok_iff.mpr ⟨_, (field_webhook_eq_ok_iff groups).mpr isWebhook, rfl⟩

/-- Settings are read section by section. -/
theorem read_eq_ok_iff_sections
    (groups : ∀ path ∈ sections, ∀ value, at? path members = some value → IsGroup value) :
    Settings.read members = .ok settings ↔
      readStorage "storage" (.group (membersOf (members.lookup "storage"))) =
        .ok settings.storage ∧
      readNotifications "notifications"
          (.group (membersOf (members.lookup "notifications"))) = .ok settings.notifications ∧
      readGraph "facebook"
          (.group (membersOf ((membersOf (members.lookup "social")).lookup "facebook"))) =
        .ok settings.graph := by
  have storage := @field_section _ _ 0 members readStorage .standard rfl
    (groups ["storage"] (by decide))
  have notifications := @field_section _ _ 1 members readNotifications .standard rfl
    (groups ["notifications"] (by decide))
  have social := @field_section _ _ 2 members readSocial .standard rfl
    (groups ["social"] (by decide))
  have facebook := @field_section _ _ 0 (membersOf (members.lookup "social")) readGraph .standard
    rfl (groups ["social", "facebook"] (by decide))
  change readSocial "social" (.group (membersOf (members.lookup "social"))) = _ at facebook
  dsimp only [Settings.read]
  rw [storage, notifications, social, facebook]
  constructor
  · intro read
    obtain ⟨_, isStorage, read⟩ := Sources.bind_eq_ok_iff.mp read
    obtain ⟨_, isNotifications, read⟩ := Sources.bind_eq_ok_iff.mp read
    obtain ⟨_, isGraph, read⟩ := Sources.bind_eq_ok_iff.mp read
    cases read
    exact ⟨isStorage, isNotifications, isGraph⟩
  · intro ⟨isStorage, isNotifications, isGraph⟩
    apply Sources.bind_eq_ok_iff.mpr ⟨_, isStorage, ?_⟩
    apply Sources.bind_eq_ok_iff.mpr ⟨_, isNotifications, ?_⟩
    exact Sources.bind_eq_ok_iff.mpr ⟨_, isGraph, rfl⟩

/-- Merged members whose sections are groups are read setting by setting. -/
theorem read_eq_ok_iff
    (groups : ∀ path ∈ sections, ∀ value, at? path members = some value → IsGroup value) :
    Settings.read members = .ok settings ↔ settings.Follows members := by
  rw [read_eq_ok_iff_sections groups, readStorage_eq_ok_iff,
    readNotifications_eq_ok_iff (groups webhookPath (by decide)), readGraph_eq_ok_iff]
  constructor
  · intro ⟨⟨isKind, isPath, isParams⟩, ⟨isExpiry, isCapacity, isThere, isWebhook⟩,
      ⟨isUrl, isTimeout, isLimit⟩⟩
    refine ⟨fun leaf value present => ?_, isThere⟩
    cases leaf with
    | storageKind => cases present; exact isKind
    | storagePath => cases present; exact isPath
    | maxBindParams => cases present; exact isParams
    | expiry => cases present; exact isExpiry
    | queueCapacity => cases present; exact isCapacity
    | endpoint =>
      obtain ⟨webhook, found, rfl⟩ := Option.map_eq_some_iff.mp present
      exact (readWebhook_eq_ok_iff.mp (isWebhook webhook found)).1
    | webhookTimeout =>
      obtain ⟨webhook, found, rfl⟩ := Option.map_eq_some_iff.mp present
      exact (readWebhook_eq_ok_iff.mp (isWebhook webhook found)).2
    | graphUrl => cases present; exact isUrl
    | graphTimeout => cases present; exact isTimeout
    | pageLimit => cases present; exact isLimit
  · intro ⟨leaves, isThere⟩
    refine ⟨⟨leaves .storageKind _ rfl, leaves .storagePath _ rfl, leaves .maxBindParams _ rfl⟩,
      ⟨leaves .expiry _ rfl, leaves .queueCapacity _ rfl, isThere, fun webhook found => ?_⟩,
      ⟨leaves .graphUrl _ rfl, leaves .graphTimeout _ rfl, leaves .pageLimit _ rfl⟩⟩
    exact readWebhook_eq_ok_iff.mpr
      ⟨leaves .endpoint _ (congrArg (Option.map _) found),
        leaves .webhookTimeout _ (congrArg (Option.map _) found)⟩

/-- There are settings to follow merged members exactly when each value can be converted. -/
theorem exists_follows_iff :
    (∃ settings, Follows settings members) ↔
      ∀ leaf : Leaf, (leaf.resolve (at? leaf.path members)).isSome := by
  constructor
  · intro ⟨settings, leaves, isThere⟩ leaf
    cases present : leaf.of? settings with
    | some value => exact Option.isSome_of_eq_some (leaves leaf value present)
    | none =>
      have absent : settings.notifications.webhook = none := by
        cases leaf <;> first | cases present | exact Option.map_eq_none_iff.mp present
      have noWebhook : at? webhookPath members = none := by
        rwa [absent, Option.isSome_none, Bool.false_eq_true, false_iff, Bool.not_eq_true,
          Option.isSome_eq_false_iff, Option.isNone_iff_eq_none] at isThere
      have nothing (name : String) : at? (webhookPath ++ [name]) members = none := by
        change (membersOf (at? webhookPath members)).lookup name = none
        rw [noWebhook]
        rfl
      cases leaf with
      | endpoint => exact congrArg Option.isSome (congrArg (Leaf.resolve _) (nothing _))
      | webhookTimeout => exact congrArg Option.isSome (congrArg (Leaf.resolve _) (nothing _))
      | _ => cases present
  · intro converts
    let value (leaf : Leaf) : leaf.Value :=
      (leaf.resolve (at? leaf.path members)).get (converts leaf)
    have resolves (leaf : Leaf) : leaf.resolve (at? leaf.path members) = some (value leaf) :=
      (Option.some_get _).symm
    let webhook : Option WebhookSettings :=
      if (at? webhookPath members).isSome then some ⟨value .endpoint, value .webhookTimeout⟩
      else none
    refine ⟨⟨⟨value .storageKind, value .storagePath, value .maxBindParams⟩,
      ⟨value .expiry, value .queueCapacity, webhook⟩,
      ⟨value .graphUrl, value .graphTimeout, value .pageLimit⟩⟩, fun leaf found present => ?_, ?_⟩
    · suffices found = value leaf from this ▸ resolves leaf
      cases leaf with
      | endpoint | webhookTimeout =>
        obtain ⟨settings, isSet, rfl⟩ := Option.map_eq_some_iff.mp present
        simp only [webhook] at isSet
        split at isSet
        · cases isSet
          rfl
        · cases isSet
      | _ =>
        cases present
        rfl
    · simp only [webhook]
      split <;> simp [*]

/-! ## Loading -/

variable {sources : Sources}

/-- Settings load exactly when files can be read and the stacked layers say so. -/
theorem load_eq_ok_iff_follows (regular : sources.Regular) :
    Settings.load sources = .ok settings ↔
      sources.Readable ∧ settings.Follows (Setting.stack sources.layers []) := by
  have groups : ∀ path ∈ sections, ∀ value,
      at? path (Setting.stack sources.layers []) = some value → IsGroup value :=
    fun path isSection => (Sources.isSome_at?_merged regular isSection).1
  unfold load
  simp only [Sources.bind_eq_ok_iff, Sources.merged_eq_ok_iff regular]
  constructor
  · rintro ⟨_, ⟨readable, rfl⟩, read⟩
    exact ⟨readable, (read_eq_ok_iff groups).mp read⟩
  · intro ⟨readable, follows⟩
    exact ⟨_, ⟨readable, rfl⟩, (read_eq_ok_iff groups).mpr follows⟩

/-- Settings load exactly when files can be read, every leaf is what its last source gives, and
there is a webhook where some source mentions one. -/
theorem load_eq_ok_iff (regular : sources.Regular) :
    Settings.load sources = .ok settings ↔
      sources.Readable ∧
        (∀ (leaf : Leaf) (value : leaf.Value), leaf.of? settings = some value →
          leaf.resolve (sources.given? leaf.path) = some value) ∧
        (settings.notifications.webhook.isSome ↔ sources.Mentions webhookPath) := by
  have webhook : (at? webhookPath (Setting.stack sources.layers [])).isSome ↔
      sources.Mentions webhookPath := (Sources.isSome_at?_merged regular (by decide)).2
  rw [load_eq_ok_iff_follows regular, ← webhook]
  simp only [← Sources.at?_merged regular]
  exact and_congr_right fun _ => ⟨fun ⟨leaves, isThere⟩ => ⟨leaves, isThere⟩,
    fun ⟨leaves, isThere⟩ => ⟨leaves, isThere⟩⟩

/-- Some settings load exactly when files can be read and every leaf resolves. -/
theorem exists_load_iff (regular : sources.Regular) :
    (∃ settings, Settings.load sources = .ok settings) ↔
      sources.Readable ∧ ∀ leaf : Leaf, (leaf.resolve (sources.given? leaf.path)).isSome := by
  simp only [load_eq_ok_iff_follows regular, exists_and_left, exists_follows_iff,
    Sources.at?_merged regular]

/-- Settings are loaded from regular sources exactly when the files can be read and the last value
that is given for each field can be converted. Each field is what comes of its last value, and the
optional section is there when a source mentions it. So settings from other sources agree in each
field that is given the same value in the end, and if all are, they are the same settings. -/
theorem sources_merge_by_field (regular : sources.Regular) :
    ((∃ settings, Settings.load sources = .ok settings) ↔
      sources.Readable ∧ ∀ leaf : Leaf, (leaf.resolve (sources.given? leaf.path)).isSome) ∧
    (∀ settings, Settings.load sources = .ok settings →
      (∀ (leaf : Leaf) (value : leaf.Value), leaf.of? settings = some value →
        leaf.resolve (sources.given? leaf.path) = some value) ∧
      (settings.notifications.webhook.isSome ↔ sources.Mentions webhookPath)) ∧
    ∀ other : Sources, other.Regular →
      (∀ settings changed, Settings.load sources = .ok settings →
        Settings.load other = .ok changed →
        ∀ leaf : Leaf, other.given? leaf.path = sources.given? leaf.path →
          ∀ value new : leaf.Value, leaf.of? settings = some value → leaf.of? changed = some new →
            new = value) ∧
      (sources.Readable → other.Readable →
        (∀ leaf : Leaf, other.given? leaf.path = sources.given? leaf.path) →
        (other.Mentions webhookPath ↔ sources.Mentions webhookPath) →
        ∀ settings, Settings.load other = .ok settings ↔ Settings.load sources = .ok settings) := by
  refine ⟨exists_load_iff regular, fun settings loaded => ?_, fun other otherRegular => ⟨?_, ?_⟩⟩
  · exact ((load_eq_ok_iff regular).mp loaded).2
  · intro settings changed loaded loadedOther leaf same value new isValue isNew
    obtain ⟨-, leaves, -⟩ := (load_eq_ok_iff regular).mp loaded
    obtain ⟨-, otherLeaves, -⟩ := (load_eq_ok_iff otherRegular).mp loadedOther
    have resolved := otherLeaves leaf new isNew
    rw [same, leaves leaf value isValue] at resolved
    exact (Option.some.inj resolved).symm
  · intro readable otherReadable same mentions settings
    rw [load_eq_ok_iff regular, load_eq_ok_iff otherRegular, mentions]
    simp only [same, readable, otherReadable]

/-- A file with a limit that is no number, and a variable that sets the limit. -/
def overridden : Sources where
  file? name := if name = "config.yaml" then some "storage:\n  max_bind_params: many\n" else none
  argument := none
  environment := [("SOCIALGRAPH_STORAGE__MAX_BIND_PARAMS", "500")]

/-- A file with nothing but a name that is no setting, and the same variable. -/
def unrelated : Sources :=
  { overridden with
    file? := fun name => if name = "config.yaml" then some "colour: [red]\n" else none }

/-- A limit that is no number does not matter where a variable sets it later. -/
theorem sources_merge_by_field_overridden :
    overridden.Regular ∧ unrelated.Regular ∧
      ∃ settings, Settings.load overridden = .ok settings ∧
        Settings.load unrelated = .ok settings ∧
        settings.storage.maxBindParams = 500 ∧ settings.notifications.webhook.isSome = false := by
  have regular : overridden.Regular := by decide +kernel
  have otherRegular : unrelated.Regular := by decide +kernel
  have readable : overridden.Readable := by decide +kernel
  have noWebhook : ¬overridden.Mentions webhookPath := by decide +kernel
  obtain ⟨succeeds, fields, others⟩ := sources_merge_by_field regular
  obtain ⟨settings, loaded⟩ := succeeds.mpr ⟨readable, by decide +kernel⟩
  obtain ⟨leaves, isThere⟩ := fields settings loaded
  have limit : Leaf.maxBindParams.resolve (overridden.given? Leaf.maxBindParams.path) =
      some (show Leaf.maxBindParams.Value from (500 : Nat)) := by decide +kernel
  -- The variable decides the limit; nothing else is given by either of the two.
  have same : ∀ leaf : Leaf, unrelated.given? leaf.path = overridden.given? leaf.path := by
    intro leaf
    by_cases isLimit : leaf = .maxBindParams
    · subst isLimit
      unfold Sources.given?
      rw [Option.or_of_isSome (by decide +kernel), Option.or_of_isSome (by decide +kernel)]
      rfl
    · have absent : ∀ leaf : Leaf, leaf ≠ .maxBindParams →
          (unrelated.given? leaf.path).isNone ∧ (overridden.given? leaf.path).isNone := by
        decide +kernel
      obtain ⟨first, second⟩ := absent leaf isLimit
      rw [Option.isNone_iff_eq_none.mp first, Option.isNone_iff_eq_none.mp second]
  have otherLoaded := ((others unrelated otherRegular).2 readable (by decide +kernel) same
    (iff_of_false (by decide +kernel) noWebhook) settings).mpr loaded
  refine ⟨regular, otherRegular, settings, loaded, otherLoaded, ?_, ?_⟩
  · exact Option.some.inj ((leaves .maxBindParams _ rfl).symm.trans limit)
  · rw [Bool.eq_false_iff]
    exact fun present => noWebhook (isThere.mp present)

end Settings

end FriendGraph
