import ServerMigration.Migration.PartitionTable
import ServerMigration.Migration.Work
import ServerMigration.Text.Template

/-!
# Preparing the target's disks

## Main definitions

* `Work.pairDisks` : pairs the disks of both sides.
* `Work.copyPartitionTables` : copies the partition tables.
* `Work.makeFilesystems` : creates the filesystems with the source's identifiers and labels.
* `Work.mountAll` : mounts them in their mount directories.
-/

namespace ServerMigration

/-- The path of a device. -/
def devicePath (name : String) : String := s!"/dev/{name}"

/-- The filesystems to create for a disk: its own and those of its partitions, each with the name
of the target's device. -/
def filesystemsOf (disk : BlockDevice) (targetDisk : String) (mapping : DeviceMapping) :
    List (BlockDevice × String) :=
  (if disk.fs.isSome then [(disk, targetDisk)] else [])
    ++ (disk.partitions.filter (·.fs.isSome)).filterMap fun partition =>
      (mapping.counterpart? partition.name).map fun mapped => (partition, mapped.id)

/-- Dumps the partition table of a disk. -/
def dumpCommand (templates : CommandTemplates) (disk : String) : String :=
  ((Text.Template.mk templates.partitionDump []).quoted "device" (devicePath disk)).render

/-- Applies a partition table to a disk. -/
def applyCommand (templates : CommandTemplates) (layout disk : String) : String :=
  (((Text.Template.mk templates.partitionApply []).quoted "layout" layout).quoted "device"
    (devicePath disk)).render

/-- Creates a filesystem. -/
def mkfsCommand (template uuid label device : String) : String :=
  ((((Text.Template.mk template []).quoted "uuid" uuid).quoted "label" label).quoted "device"
    (devicePath device)).render

/-- Mounts a filesystem in its mount directory. -/
def mountCommand (template : String) (entry : MountEntry) : String :=
  (((Text.Template.mk template []).quoted "mountpoint" entry.targetMountpoint).quoted "device"
    (devicePath entry.targetDevice)).render

namespace Work

/-- Pairs the disks of both sides and records the mapping, unless that is done. -/
def pairDisks : Work (Option Signal) := do
  let s ← source
  if s.target.deviceMapping.isSome then return none
  let inventory ← ofExcept (sourceInventory s "IdentifyDevices")
  let host ← ofExcept (targetHost s "IdentifyDevices")
  match host.systemInfo with
  | none => precondition "IdentifyDevices" "target inventory has not been collected"
  | some info =>
    let mapping ← ofMapping (DeviceMapping.ofDevices inventory.blockDevices info.blockDevices)
    let target ← ofMapping (s.target.recordMapping mapping)
    modifySource fun s => { s with target }
    return none

/-- Copies the partition table of one disk. -/
def partitionDisk (s : Source) (target : RemoteHost) (disk : String) (mapped : MappedDevice) :
    Work Unit := do
  if mapped.children.isEmpty then return ()
  let templates := s.target.blueprint.commands
  match ← tryRemote s!"dump partitions of {disk}" s.remoteHost (dumpCommand templates disk) with
  | none => return ()
  | some dump =>
    let layout := retargetPartitionTable dump disk mapped.id
    let _ ← tryRemote s!"partition {mapped.id}" target (applyCommand templates layout mapped.id)

/-- Copies the partition tables of all disks that have partitions. -/
def copyPartitionTables : Work (Option Signal) := do
  let s ← source
  let target ← ofExcept (targetHost s "CreatePartitions")
  let mapping ← ofExcept (deviceMapping s)
  mapping.forM fun (disk, mapped) => partitionDisk s target disk mapped
  return none

/-- Creates one filesystem.  One whose identifier is unknown gets a fresh one. -/
def makeFilesystem (s : Source) (target : RemoteHost) (device : BlockDevice)
    (targetDevice : String) : Work Unit := do
  let fs := device.fs.getD ""
  match s.target.blueprint.commands.mkfsOf fs with
  | none =>
    record s!"create filesystem on {targetDevice}"
      ("unsupported filesystem '" ++ fs ++ "' on " ++ device.name)
  | some template =>
    let uuid ← match device.uuid with
      | some uuid => pure uuid
      | none => pure (← action Action.freshId).text
    let _ ← tryRemote s!"create {fs} on {targetDevice}" target
      (mkfsCommand template uuid (device.label.getD "") targetDevice)

/-- Creates the filesystems of one disk. -/
def formatDisk (s : Source) (target : RemoteHost) (inventory : SystemInfo)
    (mapping : DeviceMapping) (disk : String) (mapped : MappedDevice) : Work Unit := do
  match inventory.blockDevices.get? disk with
  | none => record disk "missing from source inventory"
  | some device =>
    (filesystemsOf device mapped.id mapping).forM fun (device, targetDevice) =>
      makeFilesystem s target device targetDevice

/-- Creates all filesystems. -/
def makeFilesystems : Work (Option Signal) := do
  let s ← source
  let target ← ofExcept (targetHost s "CreateFilesystems")
  let inventory ← ofExcept (sourceInventory s "CreateFilesystems")
  let mapping ← ofExcept (deviceMapping s)
  mapping.forM fun (disk, mapped) => formatDisk s target inventory mapping disk mapped
  return none

/-- Mounts all filesystems, parents first. -/
def mountAll : Work (Option Signal) := do
  let s ← source
  let target ← ofExcept (targetHost s "MountFilesystems")
  let table ← ofExcept (mountTable s "MountFilesystems")
  let mounted := table.filter (·.targetMountpoint ≠ "")
  mounted.forM fun entry => do
    let _ ← tryRemote s!"mount {entry.targetDevice} at {entry.targetMountpoint}" target
      (mountCommand s.target.blueprint.commands.mount entry)
  return none

end Work

end ServerMigration
