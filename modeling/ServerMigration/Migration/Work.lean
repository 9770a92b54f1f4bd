import ServerMigration.Action
import ServerMigration.Cloud.Provisioning
import ServerMigration.Mapping.MountTable

/-!
# The work of a step

A step of the migration works on the document of its source and collects the failures of parts
that do not depend on each other.  Any other failure ends the step; what it has done to the
document by then stays done.

## Main definitions

* `Progress` : the document and the failures collected so far.
* `Work` : computations of a step.
* `Work.targetHost`, `Work.cloudMetadata`, `Work.sourceInventory`, `Work.mountTable` : what earlier
  steps have left behind.
-/

namespace ServerMigration

/-- The state of a step. -/
structure Progress where
  /-- The document of the source. -/
  source : Source
  /-- The failures collected so far. -/
  errors : StepErrors

/-- A computation of a step. -/
abbrev Work (α : Type) : Type :=
  ExceptT CommandError (StateT Progress (Program Site.Ask Site.Answer)) α

namespace Work

variable {α : Type}

/-- Deals with the surroundings. -/
def action (a : Action α) : Work α := ExceptT.lift (StateT.lift a)

/-- The document of the source. -/
def source : Work Source := return (← get).source

/-- Changes the document of the source. -/
def modifySource (f : Source → Source) : Work Unit :=
  modify fun progress => { progress with source := f progress.source }

/-- Collects the failure of a part. -/
def record (operation error : String) : Work Unit :=
  modify fun progress => { progress with errors := progress.errors.record operation error }

/-- The value of a result, whose failure ends the step. -/
def ofExcept (result : Except CommandError α) : Work α := ExceptT.mk (pure result)

/-- The value of a mapping, whose failure ends the step. -/
def ofMapping (result : Except MappingError α) : Work α := ofExcept (result.mapError .mapping)

/-- Ends the step because something is missing. -/
def precondition (command reason : String) : Work α := throw (.precondition command reason)

/-- The value of a result; its failure is collected. -/
def orRecord {ε : Type} (operation : String) (message : ε → String) (result : Except ε α) :
    Work (Option α) :=
  match result with
  | .ok a => return some a
  | .error e => do
    record operation (message e)
    return none

/-- Runs a command on a host; its failure is collected. -/
def tryRemote (operation : String) (host : RemoteHost) (command : String)
    (options : ExecOptions := {}) : Work (Option String) := do
  orRecord operation RemoteError.message (← action (Action.remote host command options))

/-- Runs a command on a host; its failure ends the step. -/
def remote (host : RemoteHost) (command : String) : Work String := do
  ofExcept ((← action (Action.remote host command)).mapError .remote)

/-- Runs a cloud operation; its failure ends the step. -/
def cloud (operation : Provider.Operation α) : Work α := do
  ofExcept ((← action operation.run).mapError .cloud)

/-! ### What earlier steps have left behind -/

/-- The provisioned target. -/
def targetHost (source : Source) (command : String) : Except CommandError RemoteHost :=
  match source.target.remoteHost with
  | some host => .ok host
  | none => .error (.precondition command "target has not been provisioned")

/-- What the provider created. -/
def cloudMetadata (source : Source) (command : String) : Except CommandError CloudMetadata := do
  match (← targetHost source command).cloudMetadata with
  | some metadata => .ok metadata
  | none => .error (.precondition command "target has no cloud metadata")

/-- The inventory of the source. -/
def sourceInventory (source : Source) (command : String) : Except CommandError SystemInfo :=
  match source.systemInfo with
  | some info => .ok info
  | none => .error (.precondition command "source inventory has not been collected")

/-- The recorded device mapping. -/
def deviceMapping (source : Source) : Except CommandError DeviceMapping :=
  source.target.recordedMapping.mapError .mapping

/-- The mount table of the source's inventory and its device mapping. -/
def mountTable (source : Source) (command : String) : Except CommandError MountTable := do
  let inventory ← sourceInventory source command
  let mapping ← deviceMapping source
  (MountTable.ofMapping inventory.blockDevices mapping).mapError .mapping

end Work

end ServerMigration
