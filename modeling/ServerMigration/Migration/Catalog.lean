import ServerMigration.Migration.Bootloader
import ServerMigration.Migration.Copying
import ServerMigration.Migration.Cutover
import ServerMigration.Migration.Disks
import ServerMigration.Migration.Provisioning
import ServerMigration.Migration.SystemConfig

/-!
# The catalog of steps

## Main definitions

* `MigrationStep` : the steps of a migration; `draft` and `live` have none.
* `MigrationStep.perform` : the work of a step.
* `sourceCommander` : the commander of migrations.
-/

namespace ServerMigration

/-- A step of a migration. -/
inductive MigrationStep
  | createTarget
  | getTargetSystemInfo
  | identifyDevices
  | createPartitions
  | createFilesystems
  | mountFilesystems
  | sync
  | finalSync
  | adjustMountConfig
  | adjustNetworkConfig
  | reinstallBootloader
  | stopTarget
  | deleteBootstrapVolume
  | deleteBootstrapNetworkInterface
  | configureBootDevice
  | startTarget
  deriving DecidableEq, Repr, Inhabited

namespace MigrationStep

/-- The name of a step in reports. -/
def name : MigrationStep → String
  | createTarget => "CreateTarget"
  | getTargetSystemInfo => "GetTargetSystemInfo"
  | identifyDevices => "IdentifyDevices"
  | createPartitions => "CreatePartitions"
  | createFilesystems => "CreateFilesystems"
  | mountFilesystems => "MountFilesystems"
  | sync => "Sync"
  | finalSync => "FinalSync"
  | adjustMountConfig => "AdjustMountConfig"
  | adjustNetworkConfig => "AdjustNetworkConfig"
  | reinstallBootloader => "ReinstallBootloader"
  | stopTarget => "StopTarget"
  | deleteBootstrapVolume => "DeleteBootstrapVolume"
  | deleteBootstrapNetworkInterface => "DeleteBootstrapNetworkInterface"
  | configureBootDevice => "ConfigureBootDevice"
  | startTarget => "StartTarget"

instance : ToString MigrationStep := ⟨name⟩

/-- The step of a status. -/
def ofStatus : SourceStatus → Option MigrationStep
  | .draft => none
  | .createTarget => some createTarget
  | .getTargetSystemInfo => some getTargetSystemInfo
  | .identifyDevices => some identifyDevices
  | .createPartitions => some createPartitions
  | .createFilesystems => some createFilesystems
  | .mountFilesystems => some mountFilesystems
  | .sync => some sync
  | .finalSync => some finalSync
  | .adjustMountConfig => some adjustMountConfig
  | .adjustNetworkConfig => some adjustNetworkConfig
  | .reinstallBootloader => some reinstallBootloader
  | .stopTarget => some stopTarget
  | .deleteBootstrapVolume => some deleteBootstrapVolume
  | .deleteBootstrapNetworkInterface => some deleteBootstrapNetworkInterface
  | .configureBootDevice => some configureBootDevice
  | .startTarget => some startTarget
  | .live => none

/-- The work of a step. -/
def work (provider : Provider) : MigrationStep → Work (Option Signal)
  | createTarget => Work.createTarget provider
  | getTargetSystemInfo => Work.inspectTarget
  | identifyDevices => Work.pairDisks
  | createPartitions => Work.copyPartitionTables
  | createFilesystems => Work.makeFilesystems
  | mountFilesystems => Work.mountAll
  | sync => Work.copyAndSleep
  | finalSync => Work.copyOnceMore
  | adjustMountConfig => Work.rewriteMounts
  | adjustNetworkConfig => Work.rewriteAddresses
  | reinstallBootloader => Work.installBootloader
  | stopTarget => Work.stopTarget provider
  | deleteBootstrapVolume => Work.deleteBootstrapVolume
  | deleteBootstrapNetworkInterface => Work.deleteBootstrapNic
  | configureBootDevice => Work.configureBootDevice provider
  | startTarget => Work.startTarget provider

/-- Does the work of a step on a source, with nothing collected before. -/
def perform (provider : Provider) (step : MigrationStep) (source : Source) :
    Action (CommandRun Source) := do
  let (outcome, progress) ← (step.work provider).run.run ⟨source, []⟩
  return { entity := progress.source, errors := progress.errors, outcome }

/-- The surroundings of a step as text. -/
def contextText : String := "MigrationContext \x7b cloud: ProfitBricks \x7d"

/-- A step as text. -/
def describe (step : MigrationStep) : String := s!"{step} \x7b ctx: {contextText} \x7d"

end MigrationStep

/-- The steps bound to their statuses. -/
def stepTable : CommandTable SourceStatus MigrationStep :=
  ⟨SourceStatus.all.filterMap fun status => (MigrationStep.ofStatus status).map (status, ·)⟩

/-- The table holds the step of every status. -/
theorem get?_stepTable (status : SourceStatus) :
    stepTable.get? status = MigrationStep.ofStatus status := by
  cases status <;> rfl

/-- The commander of migrations. -/
def sourceCommander : Commander SourceStatus MigrationStep where
  lifecycle := SourceStatus.lifecycle
  commands := stepTable
  known := by decide

end ServerMigration
