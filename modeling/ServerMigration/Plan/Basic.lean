import ServerMigration.Source.Basic

/-!
# Plans and runs

A plan lists the hosts to migrate and the policy of their migration.  A run is a plan that has
been taken up: every host has become a draft source.

## Main definitions

* `RunPolicy`, `SourcePlan`, `MigrationPlan`, `MigrationRun`.
* `RunPolicy.check`, `MigrationPlan.check` : what a plan must satisfy.
* `MigrationPlan.duplicateName` : the first name that stands twice.
-/

namespace ServerMigration

/-- How the sources of a run are scheduled. -/
structure RunPolicy where
  /-- How many sources may be under way at once. -/
  simultaneousMigrations : UInt64 := 1
  /-- How often the sources are synchronised again while they wait. -/
  syncIntervalSeconds : Option UInt64 := none
  /-- When the targets take over. -/
  goLiveAt : Option Instant := none
  deriving DecidableEq, Repr, Inhabited

instance : JsonCodec RunPolicy where
  encode p := .object [("simultaneous_migrations", encode p.simultaneousMigrations),
    ("sync_interval_seconds", encode p.syncIntervalSeconds), ("go_live_at", encode p.goLiveAt)]
  decode json := do
    let record ← Record.ofJson
      ["simultaneous_migrations", "sync_interval_seconds", "go_live_at"] json
    return {
      simultaneousMigrations := ← record.fieldOr "simultaneous_migrations" 1
      syncIntervalSeconds := ← record.fieldOr "sync_interval_seconds" none
      goLiveAt := ← record.fieldOr "go_live_at" none }

/-- The time between two synchronisations. -/
def RunPolicy.syncInterval (policy : RunPolicy) : Option Duration :=
  policy.syncIntervalSeconds.map fun seconds => .ofSeconds seconds.toNat

/-- A policy admits at least one source at a time and does not synchronise without pause. -/
def RunPolicy.check (policy : RunPolicy) : Except String Unit :=
  if policy.simultaneousMigrations = 0 then .error "simultaneous_migrations must be at least 1"
  else if policy.syncIntervalSeconds = some 0 then .error "sync_interval_seconds must be positive"
  else .ok ()

/-- A host to migrate, with the blueprint of its target. -/
structure SourcePlan where
  /-- The name of the source. -/
  name : String
  /-- The address of the host. -/
  address : String
  /-- The port of its ssh server. -/
  port : UInt16
  /-- The user to log in as. -/
  username : String
  /-- The private key to log in with. -/
  privateKeyPath : Option String
  /-- Its operating system. -/
  os : OsFamily
  /-- The version of the operating system. -/
  osVersion : String
  /-- The description of the target. -/
  blueprint : Blueprint
  deriving DecidableEq, Repr, Inhabited

instance : JsonCodec SourcePlan where
  encode p := .object [("name", encode p.name), ("address", encode p.address),
    ("port", encode p.port), ("username", encode p.username),
    ("private_key_path", encode p.privateKeyPath), ("os", encode p.os),
    ("os_version", encode p.osVersion), ("blueprint", encode p.blueprint)]
  decode json := do
    let record ← Record.ofJson ["name", "address", "port", "username", "private_key_path", "os",
      "os_version", "blueprint"] json
    return {
      name := ← record.field "name"
      address := ← record.field "address"
      port := ← record.fieldOr "port" 22
      username := ← record.field "username"
      privateKeyPath := ← record.fieldOr "private_key_path" none
      os := ← record.field "os"
      osVersion := ← record.fieldOr "os_version" ""
      blueprint := ← record.field "blueprint" }

/-- The host of a plan's entry. -/
def SourcePlan.remoteHost (entry : SourcePlan) (id : Uuid) : RemoteHost where
  id := id
  address := entry.address
  port := entry.port
  username := entry.username
  privateKeyPath := entry.privateKeyPath
  os := entry.os
  osVersion := entry.osVersion

/-- The hosts to migrate and the policy of their migration. -/
structure MigrationPlan where
  /-- The policy. -/
  policy : RunPolicy
  /-- The hosts. -/
  sources : List SourcePlan
  deriving DecidableEq, Repr, Inhabited

instance : JsonCodec MigrationPlan where
  encode p := .object [("policy", encode p.policy), ("sources", encode p.sources)]
  decode json := do
    let record ← Record.ofJson ["policy", "sources"] json
    return { policy := ← record.fieldOr "policy" {}, sources := ← record.field "sources" }

/-- The first name that repeats an earlier one. -/
def MigrationPlan.duplicateName (plan : MigrationPlan) : Option String :=
  StatusLifecycle.firstRepeat [] (plan.sources.map (·.name))

/-- A plan has a proper policy and no two hosts of one name. -/
def MigrationPlan.check (plan : MigrationPlan) : Except String Unit := do
  plan.policy.check
  match plan.duplicateName with
  | some name => throw ("duplicate source name '" ++ name ++ "'")
  | none => return ()

/-- A plan that has been taken up. -/
structure MigrationRun where
  /-- Its identifier. -/
  id : Uuid
  /-- The policy. -/
  policy : RunPolicy
  /-- The identifiers of the sources, in the order of the plan. -/
  sourceIds : List Uuid
  /-- When it was created. -/
  createdAt : Instant
  deriving DecidableEq, Repr, Inhabited

instance : JsonCodec MigrationRun where
  encode r := .object [("id", encode r.id), ("policy", encode r.policy),
    ("source_ids", encode r.sourceIds), ("created_at", encode r.createdAt)]
  decode json := do
    let record ← Record.ofJson ["id", "policy", "source_ids", "created_at"] json
    return {
      id := ← record.field "id"
      policy := ← record.field "policy"
      sourceIds := ← record.field "source_ids"
      createdAt := ← record.field "created_at" }

end ServerMigration
