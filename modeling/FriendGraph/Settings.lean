import FriendGraph.Contacts.Graph
import FriendGraph.Notification.Webhook
import FriendGraph.Setting.Environment
import FriendGraph.Setting.Key
import FriendGraph.Setting.Reading
import FriendGraph.Setting.Yaml
import FriendGraph.Storage.Opening

/-! # The settings of the program

The settings come from up to four sources: the file `config.yaml`, a file named by an argument,
a file named by the variable `SOCIALGRAPH_CONFIG`, and the environment. Each is laid over those
before it (`Sources.merged`), and only what is left in the end is read for its meaning
(`Settings.read`). A file that is named has to be there; `config.yaml` may be missing.
-/

namespace FriendGraph

/-- The settings of notifications. -/
structure NotificationSettings where
  /-- The lifetime of a notification in milliseconds. -/
  expiry : Int
  /-- The number of batches that wait in the queue at most. -/
  queueCapacity : Nat
  /-- Delivery to a web address, if it is wanted. -/
  webhook : Option WebhookSettings
deriving DecidableEq

/-- The settings where nothing is said. -/
def NotificationSettings.standard : NotificationSettings := ⟨86400000, 1024, none⟩

/-- All settings. -/
structure Settings where
  storage : StorageSettings
  notifications : NotificationSettings
  graph : GraphSettings
deriving DecidableEq

/-- The settings where nothing is said. -/
def Settings.standard : Settings := ⟨.standard, .standard, .standard⟩

/-- Why there are no settings. -/
inductive SettingsError where
  /-- A file that is named is not there. -/
  | missingFile (name : String)
  /-- A file holds no settings. -/
  | malformedFile (name : String)
  /-- The value of a setting does not fit. -/
  | unfit (setting : String)
deriving DecidableEq

/-- The wording of why there are no settings. -/
def SettingsError.message : SettingsError → String
  | missingFile name => "settings file " ++ name ++ " not found"
  | malformedFile name => "settings file " ++ name ++ " holds no settings"
  | unfit setting => "the value of setting " ++ setting ++ " does not fit"

namespace Settings

/-- A reading of a setting; the name is that of the setting. -/
abbrev Reading (Value : Type) := String → Setting → Except SettingsError Value

/-- The reading that takes what a conversion takes. -/
def reading {Value : Type} (convert : Setting → Option Value) : Reading Value :=
  fun name setting =>
    match convert setting with
    | some value => .ok value
    | none => .error (.unfit name)

/-- A field of a record by its reading; the standard value if it is not there. -/
def field {Value : Type} (read : Reading Value) (standard : Value) (fields : Setting.Fields)
    (name : String) (place : Nat) : Except SettingsError Value :=
  match fields name place with
  | some setting => read name setting
  | none => .ok standard

/-- The kind of storage with a name, in any letter case. -/
def storageKindOfName? (name : String) : Option StorageKind :=
  if name.map Char.toLower = StorageKind.sqlite.text then some .sqlite else none

/-- The kind of storage that a setting names, alone or as the only member of a group. -/
def storageKind? : Setting → Option StorageKind
  | .text name => storageKindOfName? name
  | .group [(name, _)] => storageKindOfName? name
  | _ => none

/-- The settings of storage. -/
def readStorage : Reading StorageSettings := fun name setting => do
  let standard := StorageSettings.standard
  let fields ← reading Setting.asFields? name setting
  let kind ← field (reading storageKind?) standard.kind fields "type" 0
  let path ← field (reading Setting.asText?) standard.path fields "path" 1
  let maxBindParams ←
    field (reading Setting.asNat?) standard.maxBindParams fields "max_bind_params" 2
  return ⟨kind, path, maxBindParams⟩

/-- The settings of delivery to a web address. -/
def readWebhook : Reading WebhookSettings := fun name setting => do
  let standard := WebhookSettings.standard
  let fields ← reading Setting.asFields? name setting
  let endpoint ← field (reading Setting.asText?) standard.endpoint fields "endpoint" 0
  let timeoutSeconds ←
    field (reading Setting.asNat?) standard.timeoutSeconds fields "timeout_secs" 1
  return ⟨endpoint, timeoutSeconds⟩

/-- A reading that takes the absence of a value too. -/
def optional {Value : Type} (read : Reading Value) : Reading (Option Value) := fun name setting =>
  match setting with
  | .nothing => .ok none
  | present => (read name present).map some

/-- The settings of notifications. -/
def readNotifications : Reading NotificationSettings := fun name setting => do
  let standard := NotificationSettings.standard
  let fields ← reading Setting.asFields? name setting
  let expiry ← field (reading Setting.asInt?) standard.expiry fields "expiry_ms" 0
  let queueCapacity ←
    field (reading Setting.asNat?) standard.queueCapacity fields "queue_capacity" 1
  let webhook ← field (optional readWebhook) standard.webhook fields "webhook" 2
  return ⟨expiry, queueCapacity, webhook⟩

/-- The settings of the network that contacts are fetched from. -/
def readGraph : Reading GraphSettings := fun name setting => do
  let standard := GraphSettings.standard
  let fields ← reading Setting.asFields? name setting
  let graphUrl ← field (reading Setting.asText?) standard.graphUrl fields "graph_url" 0
  let timeoutSeconds ←
    field (reading Setting.asNat?) standard.timeoutSeconds fields "timeout_secs" 1
  let pageLimit ←
    field (reading Setting.asSmallNat?) standard.pageLimit fields "page_limit" 2
  return ⟨graphUrl, timeoutSeconds, pageLimit⟩

/-- The settings of social networks, of which there is one. -/
def readSocial : Reading GraphSettings := fun name setting => do
  let fields ← reading Setting.asFields? name setting
  field readGraph .standard fields "facebook" 0

/-- The settings that merged members stand for. -/
def read (members : Setting.Members) : Except SettingsError Settings := do
  let fields : Setting.Fields := fun name _ => members.lookup name
  let storage ← field readStorage .standard fields "storage" 0
  let notifications ← field readNotifications .standard fields "notifications" 1
  let graph ← field readSocial .standard fields "social" 2
  return ⟨storage, notifications, graph⟩

end Settings

/-- Where settings come from. -/
structure Sources where
  /-- The texts of files by their names. -/
  file? : String → Option String
  /-- The file that is named by an argument. -/
  argument : Option String
  /-- The variables by name. -/
  environment : List (String × String)

namespace Sources

/-- The file that is read when it is there. -/
def standardFile : String := "config.yaml"

/-- The variable that names a file. -/
def fileVariable : String := "SOCIALGRAPH_CONFIG"

/-- The usual endings of the names of settings files. -/
def endings : List String := [".yaml", ".yml"]

/-- The text of a file under its name, or under its name with one of the usual endings. -/
def text? (sources : Sources) (name : String) : Option String :=
  (sources.file? name).or
    (endings.findSome? fun ending => (Path.withEnding? name ending).bind sources.file?)

/-- The settings in the text of a file. -/
def members (name text : String) : Except SettingsError Setting.Members :=
  match Setting.ofYaml? text with
  | some members => .ok members
  | none => .error (.malformedFile name)

/-- The settings in the file that may be missing. -/
def standardMembers (sources : Sources) : Except SettingsError Setting.Members :=
  match sources.text? standardFile with
  | some text => members standardFile text
  | none => .ok []

/-- The settings in a file that is named, if one is. -/
def namedMembers (sources : Sources) : Option String → Except SettingsError Setting.Members
  | none => .ok []
  | some name =>
    match sources.text? name with
    | some text => members name text
    | none => .error (.missingFile name)

/-- The settings of all sources, each laid over those before it. -/
def merged (sources : Sources) : Except SettingsError Setting.Members := do
  let standard ← sources.standardMembers
  let ofArgument ← sources.namedMembers sources.argument
  let ofVariable ← sources.namedMembers (sources.environment.lookup fileVariable)
  let layers := [standard, ofArgument, ofVariable, Setting.ofEnvironment sources.environment]
  return layers.foldl (fun merged layer => Setting.layOver layer merged) []

end Sources

/-- The settings that come from sources. -/
def Settings.load (sources : Sources) : Except SettingsError Settings := do
  Settings.read (← sources.merged)

end FriendGraph
