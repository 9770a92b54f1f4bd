import ServerMigration.Migration.Work
import ServerMigration.Text.Template

/-!
# Copying the data

Every mounted filesystem of the source is pushed to its mount directory on the target.  Files that
vanish meanwhile are no failure, for the source is in use.

## Main definitions

* `copyCommand` : the command that copies one filesystem, run on the source.
* `Work.copyAndSleep`, `Work.copyOnceMore` : copy all filesystems.
-/

namespace ServerMigration

/-- A path that ends in a slash. -/
def asDirectory (path : String) : String :=
  if path.toList.getLast? = some '/' then path else path ++ "/"

/-- The options that leave out what is never copied. -/
def excludeOptions (patterns : List String) : String :=
  " ".intercalate (patterns.map fun pattern => s!"--exclude={Text.shellWord pattern}")

/-- The command over which the source reaches the target. -/
def sshTransport (target : RemoteHost) : String :=
  s!"ssh -p {target.port.toNat} -o StrictHostKeyChecking=no -o UserKnownHostsFile=/dev/null"

/-- The command that copies one filesystem. -/
def copyCommand (source : Source) (target : RemoteHost) (entry : MountEntry) : String :=
  let templates := source.target.blueprint.commands
  (((((((Text.Template.mk templates.sync []).raw
    "excludes" (excludeOptions templates.syncExcludes)).quoted
    "ssh_command" (sshTransport target)).quoted
    "source_path" (asDirectory entry.sourceMountpoint)).quoted
    "target_user" target.username).quoted
    "target_address" target.address).quoted
    "target_path" (asDirectory entry.targetMountpoint)).render

/-- The exit status that tells that files vanished while they were copied. -/
def vanishedStatus : Int := 24

namespace Work

/-- Copies one filesystem. -/
def copyFilesystem (s : Source) (target : RemoteHost) (entry : MountEntry) : Work Unit := do
  match ← action (Action.remote s.remoteHost (copyCommand s target entry)) with
  | .ok _ => return ()
  | .error error =>
    match error with
    | .execution _ _ exitCode _ _ =>
      if exitCode = vanishedStatus then return ()
      record s!"sync {entry.sourceMountpoint}" error.message
    | .connection .. => record s!"sync {entry.sourceMountpoint}" error.message

/-- Copies all mounted filesystems. -/
def copyFilesystems (command : String) : Work Unit := do
  let s ← source
  let target ← ofExcept (targetHost s command)
  let table ← ofExcept (mountTable s command)
  let mounted := table.filter fun entry =>
    entry.sourceMountpoint ≠ "" && entry.targetMountpoint ≠ ""
  mounted.forM fun entry => copyFilesystem s target entry

/-- Copies the data and sleeps until the migration goes live. -/
def copyAndSleep : Work (Option Signal) := do
  copyFilesystems "Sync"
  return some .sleep

/-- Copies the data for the last time. -/
def copyOnceMore : Work (Option Signal) := do
  copyFilesystems "FinalSync"
  return none

end Work

end ServerMigration
