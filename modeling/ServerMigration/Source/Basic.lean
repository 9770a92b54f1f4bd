import ServerMigration.Commander.Basic
import ServerMigration.Source.Status
import ServerMigration.Source.Target
import ServerMigration.Time.Instant

/-!
# Sources

## Main definitions

* `Source` : a server that is migrated, with all that is known about its migration.
-/

namespace ServerMigration

/-- A server that is migrated. -/
structure Source where
  /-- Its identifier. -/
  id : Uuid
  /-- The run that it belongs to. -/
  runId : Uuid
  /-- Its name, unique in its run. -/
  name : String
  /-- How far it has come. -/
  status : SourceStatus
  /-- Whether it sleeps at its status. -/
  paused : Bool
  /-- The server. -/
  remoteHost : RemoteHost
  /-- What it is migrated into. -/
  target : Target
  /-- The report of the latest step, if that failed. -/
  lastError : Option String
  /-- When it was created. -/
  createdAt : Instant
  /-- When its status or pause flag was set last. -/
  updatedAt : Instant
  deriving Repr, Inhabited

namespace Source

/-- A source that has just been taken from a plan. -/
def draft (id runId : Uuid) (name : String) (remoteHost : RemoteHost) (target : Target)
    (now : Instant) : Source where
  id := id
  runId := runId
  name := name
  status := .draft
  paused := false
  remoteHost := remoteHost
  target := target
  lastError := none
  createdAt := now
  updatedAt := now

instance : Staged Source SourceStatus Instant where
  status := Source.status
  isPaused := Source.paused
  setStatus now status source := { source with status, updatedAt := now }
  setPaused now paused source := { source with paused, updatedAt := now }

/-- Whether the source waits at `sync` to go live. -/
def waitsAtSync (source : Source) : Bool :=
  source.paused && source.status = .sync

/-- Whether the source is at `sync`, asleep or held there by a failure. -/
def isAtSync (source : Source) : Bool :=
  source.status = .sync

/-- Whether the target has taken over. -/
def isLive (source : Source) : Bool :=
  source.status.isTerminal

/-- The inventory of the source. -/
def systemInfo (source : Source) : Option SystemInfo :=
  source.remoteHost.systemInfo

/-- How the source is named in messages about its document. -/
def label (source : Source) : String :=
  s!"{source.name} ({source.id.text})"

instance : JsonCodec Source where
  encode s := .object [("id", encode s.id), ("run_id", encode s.runId), ("name", encode s.name),
    ("status", encode s.status), ("paused", encode s.paused),
    ("remote_host", encode s.remoteHost), ("target", encode s.target),
    ("last_error", encode s.lastError), ("created_at", encode s.createdAt),
    ("updated_at", encode s.updatedAt)]
  decode json := do
    let record ← Record.ofJson ["id", "run_id", "name", "status", "paused", "remote_host", "target",
      "last_error", "created_at", "updated_at"] json
    return {
      id := ← record.field "id"
      runId := ← record.field "run_id"
      name := ← record.field "name"
      status := ← record.field "status"
      paused := ← record.fieldOr "paused" false
      remoteHost := ← record.field "remote_host"
      target := ← record.field "target"
      lastError := ← record.fieldOr "last_error" none
      createdAt := ← record.field "created_at"
      updatedAt := ← record.field "updated_at" }

end Source

end ServerMigration
