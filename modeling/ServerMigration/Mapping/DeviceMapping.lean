import ServerMigration.Device.BlockDevice
import ServerMigration.Mapping.Error
import ServerMigration.Mapping.MountDirectory
import ServerMigration.Text.NaturalOrder

/-!
# Device identification

Every disk of the source is paired with an unallocated disk of the target that has the same size
in GiB, the first that is left in natural order.  Partitions follow their disk by their numbers,
and every device that is mounted gets its mount directory.

## Main definitions

* `MappedDevice`, `DeviceMapping` : the counterparts on the target.
* `DeviceMapping.ofDevices` : the pairing.
* `DeviceMapping.counterpart?` : the counterpart of a disk or partition.
-/

namespace ServerMigration

/-- The counterpart of a disk or partition of the source. -/
structure MappedDevice where
  /-- The name of the target's device. -/
  id : String
  /-- The mount directory; empty if the source's device is not mounted. -/
  mountpoint : String
  /-- The counterparts of the partitions. -/
  children : List (String × MappedDevice)
  deriving Repr, Inhabited

/-- The counterparts of the source's disks. -/
abbrev DeviceMapping : Type := Dict MappedDevice

namespace MappedDevice

/-- Whether there is a mount directory. -/
def isMounted (device : MappedDevice) : Bool :=
  device.mountpoint ≠ ""

mutual

/-- A counterpart as a document. -/
def toJson : MappedDevice → Json
  | ⟨id, mountpoint, children⟩ =>
    .object [("id", encode id), ("mountpoint", encode mountpoint),
      ("children", .object (childrenToJson children))]

/-- The counterparts of partitions as fields. -/
def childrenToJson : List (String × MappedDevice) → List (String × Json)
  | [] => []
  | (name, device) :: devices => (name, toJson device) :: childrenToJson devices

end

/-- Reads the parts of a counterpart other than its children. -/
def ofRecord (record : Record) (children : Dict MappedDevice) : Decoded MappedDevice := do
  return { id := ← record.field "id", mountpoint := ← record.fieldOr "mountpoint" "", children }

instance : JsonCodec MappedDevice where
  encode := toJson
  decode := decodeTree ofRecord ["id", "mountpoint", "children"] "children"

end MappedDevice

namespace DeviceMapping

/-- The counterpart of a partition on a target disk. -/
def mappedPartition (targetDisk : String) (partition : BlockDevice) (index : UInt32) :
    MappedDevice where
  id := nthPartition targetDisk index
  mountpoint := mountDirectory partition.mountPath? partition.isSwap
  children := []

/-- The partitions that have no number. -/
def unnumbered (partitions : List BlockDevice) : List BlockDevice :=
  partitions.filter fun partition => (partitionNumber? partition.name).isNone

/-- The counterparts of the partitions that have a number. -/
def mappedPartitions (targetDisk : String) (partitions : List BlockDevice) :
    List (String × MappedDevice) :=
  partitions.filterMap fun partition =>
    (partitionNumber? partition.name).map fun index =>
      (partition.name, mappedPartition targetDisk partition index)

/-- The counterpart of a disk, or a failure for every partition without a number. -/
def mappedDisk (source : BlockDevice) (targetDisk : String) : Except (List String) MappedDevice :=
  match unnumbered source.partitions with
  | [] => .ok {
      id := targetDisk
      mountpoint := mountDirectory source.mountPath? source.isSwap
      children := Dict.ofList (mappedPartitions targetDisk source.partitions) }
  | partitions =>
    .error (partitions.map fun partition => s!"{partition.name}: partition has no numeric index")

/-- Takes the first element with a property out of a list. -/
def takeFirst {α : Type} (p : α → Bool) : List α → Option (α × List α)
  | [] => none
  | x :: xs => if p x then some (x, xs) else (takeFirst p xs).map fun (y, rest) => (y, x :: rest)

/-- The state of the pairing. -/
structure Pairing where
  /-- The target disks that are left, in natural order. -/
  pool : List BlockDevice
  /-- The counterparts so far. -/
  mapping : DeviceMapping
  /-- The failures so far. -/
  failures : List String

/-- The failure of a disk for which no target disk is left. -/
def unplaced (source : BlockDevice) (left : Nat) : String :=
  s!"{source.name}: no unallocated target device of {source.sizeGib.toNat} GiB "
    ++ s!"({left} candidate(s) left)"

/-- Pairs one disk.  A target disk that was taken stays taken even if a partition fails. -/
def pairDisk (state : Pairing) (source : BlockDevice) : Pairing :=
  match takeFirst (fun candidate => candidate.sizeGib = source.sizeGib) state.pool with
  | none => { state with failures := state.failures ++ [unplaced source state.pool.length] }
  | some (target, pool) =>
    match mappedDisk source target.name with
    | .ok mapped => { state with pool, mapping := state.mapping.insert source.name mapped }
    | .error failures => { state with pool, failures := state.failures ++ failures }

/-- Devices in the natural order of their names. -/
def inNaturalOrder (devices : List BlockDevice) : List BlockDevice :=
  stableSort (fun a b => Text.naturalCompare a.name b.name) devices

/-- Pairs every disk of the source with an unallocated disk of the target. -/
def ofDevices (source target : Devices) : Except MappingError DeviceMapping :=
  let pool := inNaturalOrder (target.values.filter (·.isUnallocated))
  let result := (inNaturalOrder source.values).foldl pairDisk ⟨pool, [], []⟩
  match result.failures with
  | [] => .ok result.mapping
  | failures => .error (.unidentified failures)

/-- The counterpart of a disk or of a partition.  A disk of that name comes first, then the first
disk that has such a partition. -/
def counterpart? (mapping : DeviceMapping) (name : String) : Option MappedDevice :=
  match mapping.get? name with
  | some device => some device
  | none => mapping.values.findSome? fun disk => Dict.get? disk.children name

/-- All disks and partitions with the names of their counterparts, partitions behind their
disk. -/
def namePairs (mapping : DeviceMapping) : List (String × String) :=
  mapping.flatMap fun (name, disk) =>
    (name, disk.id) :: disk.children.map fun (partition, mapped) => (partition, mapped.id)

end DeviceMapping

end ServerMigration
