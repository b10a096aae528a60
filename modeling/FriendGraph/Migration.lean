import FriendGraph.Settings

/-! # Migration

A migration loads the settings, opens storage, which creates the schema, and checks that
notifications can be delivered as they are configured; a client for contacts can be had for any
settings. It stops at the first of these steps that fails, and what the steps before it have
made stays. Doing it again changes no table.
-/

namespace FriendGraph

/-- The causes of a failed migration. -/
inductive MigrationError where
  | settings (error : SettingsError)
  | storage (error : StorageError)
  | notifications (error : NotificationError)

/-- The wording of why a migration failed. -/
def MigrationError.message : MigrationError → String
  | settings error => error.message
  | storage error => error.message?.getD "storage cannot be opened"
  | notifications error => error.message?.getD "notifications cannot be delivered"

/-- What a migration starts from. -/
structure Migration where
  /-- The directory that relative paths start at. -/
  working : Path
  /-- The settings file that is named by an argument. -/
  argument : Option String
  /-- The variables by name. -/
  environment : List (String × String)

namespace Migration

/-- The sources of settings on a disk. -/
def sources (migration : Migration) (disk : Disk) : Sources where
  file? name := disk.text? migration.working name
  argument := migration.argument
  environment := migration.environment

/-- Whether notifications can be delivered as they are configured. -/
def checkNotifications (settings : NotificationSettings) : Except NotificationError Unit :=
  match settings.webhook with
  | none => .ok ()
  | some webhook => (Webhook.ofSettings webhook .unreachable).map fun _ => ()

/-- Migrate with the settings that were loaded. -/
def apply (settings : Settings) (working : Path) (disk : Disk) :
    Except MigrationError Unit × Disk :=
  match Storage.openOn working settings.storage disk with
  | (.error error, after) => (.error (.storage error), after)
  | (.ok _, after) => ((checkNotifications settings.notifications).mapError .notifications, after)

/-- Migrate: what it comes to, and the disk afterwards. -/
def run (migration : Migration) (disk : Disk) : Except MigrationError Unit × Disk :=
  match Settings.load (migration.sources disk) with
  | .error error => (.error (.settings error), disk)
  | .ok settings => apply settings migration.working disk

/-- The exit code of a migration. -/
def exitCode : Except MigrationError Unit → UInt8
  | .ok _ => 0
  | .error _ => 1

end Migration

end FriendGraph
