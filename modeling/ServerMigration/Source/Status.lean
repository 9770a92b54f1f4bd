import ServerMigration.Json.Codec
import ServerMigration.Lifecycle.StatusLifecycle

/-!
# The statuses of a migration

## Main definitions

* `SourceStatus` : the statuses in lifecycle order.
* `SourceStatus.lifecycle` : the lifecycle that every source walks through.
* `SourceStatus.parse?` : the status of a name.
-/

namespace ServerMigration

/-- How far the migration of a source has come. -/
inductive SourceStatus
  /-- Created from the plan; nothing has happened yet. -/
  | draft
  | createTarget
  | getTargetSystemInfo
  | identifyDevices
  | createPartitions
  | createFilesystems
  | mountFilesystems
  /-- The first copy of the data; the migration sleeps here until it goes live. -/
  | sync
  | finalSync
  | adjustMountConfig
  | adjustNetworkConfig
  | reinstallBootloader
  | stopTarget
  | deleteBootstrapVolume
  | deleteBootstrapNetworkInterface
  | configureBootDevice
  | startTarget
  /-- The target has taken over. -/
  | live
  deriving DecidableEq, Repr, Inhabited

namespace SourceStatus

/-- All statuses in lifecycle order. -/
def all : List SourceStatus :=
  [draft, createTarget, getTargetSystemInfo, identifyDevices, createPartitions, createFilesystems,
    mountFilesystems, sync, finalSync, adjustMountConfig, adjustNetworkConfig, reinstallBootloader,
    stopTarget, deleteBootstrapVolume, deleteBootstrapNetworkInterface, configureBootDevice,
    startTarget, live]

/-- The name of a status. -/
def name : SourceStatus → String
  | draft => "draft"
  | createTarget => "create_target"
  | getTargetSystemInfo => "get_target_system_info"
  | identifyDevices => "identify_devices"
  | createPartitions => "create_partitions"
  | createFilesystems => "create_filesystems"
  | mountFilesystems => "mount_filesystems"
  | sync => "sync"
  | finalSync => "final_sync"
  | adjustMountConfig => "adjust_mount_config"
  | adjustNetworkConfig => "adjust_network_config"
  | reinstallBootloader => "reinstall_bootloader"
  | stopTarget => "stop_target"
  | deleteBootstrapVolume => "delete_bootstrap_volume"
  | deleteBootstrapNetworkInterface => "delete_bootstrap_network_interface"
  | configureBootDevice => "configure_boot_device"
  | startTarget => "start_target"
  | live => "live"

instance : ToString SourceStatus := ⟨name⟩

/-- Whether the target has taken over. -/
def isTerminal (status : SourceStatus) : Bool := status = live

/-- The status of a name. -/
def parse? (text : String) : Option SourceStatus :=
  all.find? (·.name = text)

/-- Why a text is no status. -/
def parseFailure (text : String) : String := s!"Invalid source status: {text}"

/-- The lifecycle that every source walks through. -/
def lifecycle : StatusLifecycle SourceStatus where
  statuses := all
  ne_nil := by decide
  nodup := by decide

/-- The lifecycle is the one that its list of statuses makes. -/
theorem ofList_all : StatusLifecycle.ofList all = .ok lifecycle := rfl

instance : JsonCodec SourceStatus where
  encode status := .string status.name
  decode := decodeConstant all name

end SourceStatus

end ServerMigration
