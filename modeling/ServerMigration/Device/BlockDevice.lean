import ServerMigration.Device.Partition
import ServerMigration.Json.Tree
import ServerMigration.StableSort

/-!
# Block devices

A machine's disks form a forest: disks hold partitions, and these may hold volumes of their own.

## Main definitions

* `BlockDevice` : a disk, partition or volume with everything below it.
* `BlockDevice.partitions` : its direct children in on-disk order.
* `BlockDevice.mountPath?` : where its filesystem is mounted.
-/

namespace ServerMigration

/-- A disk, a partition, or a volume below one. -/
structure BlockDevice where
  /-- The kernel's name. -/
  name : String
  /-- The size in bytes. -/
  size : UInt64
  /-- The type of its filesystem. -/
  fs : Option String
  /-- The filesystem's identifier. -/
  uuid : Option String
  /-- The filesystem's label. -/
  label : Option String
  /-- Where it is mounted, or a marker such as `[SWAP]`. -/
  mountpoint : Option String
  /-- Whether it carries the boot flag. -/
  bootable : Bool
  /-- The devices directly below it, by name. -/
  children : List (String × BlockDevice)
  deriving Repr, Inhabited

/-- The devices of a machine by name. -/
abbrev Devices : Type := Dict BlockDevice

namespace BlockDevice

/-- Neither a filesystem nor partitions. -/
def isUnallocated (device : BlockDevice) : Bool :=
  device.fs.isNone && device.children.isEmpty

/-- Swap space, by filesystem or by marker. -/
def isSwap (device : BlockDevice) : Bool :=
  device.fs = some "swap" || device.mountpoint = some "[SWAP]"

/-- The bytes of a GiB. -/
def gib : Nat := 1024 * 1024 * 1024

/-- The size in whole GiB, rounded up: the unit in which cloud volumes are sized. -/
def sizeGib (device : BlockDevice) : UInt64 :=
  ((device.size.toNat + gib - 1) / gib).toUInt64

/-- The mountpoint if it is a path. -/
def mountPath? (device : BlockDevice) : Option String :=
  device.mountpoint.filter fun path => path.toList.head? = some '/' && !device.isSwap

/-- Partitions come in the order of their numbers, those without one first, and then of their
names. -/
def partitionOrder (a b : BlockDevice) : Ordering :=
  let byIndex : Ordering := match partitionNumber? a.name, partitionNumber? b.name with
    | none, none => .eq
    | none, some _ => .lt
    | some _, none => .gt
    | some i, some j => compare i.toNat j.toNat
  byIndex.then (compareStrings a.name b.name)

/-- The direct children in on-disk order. -/
def partitions (device : BlockDevice) : List BlockDevice :=
  stableSort partitionOrder (device.children.map (·.2))

/-! ### Documents -/

mutual

/-- A device as a document. -/
def toJson : BlockDevice → Json
  | ⟨name, size, fs, uuid, label, mountpoint, bootable, children⟩ =>
    .object [("name", encode name), ("size", encode size), ("fs", encode fs),
      ("uuid", encode uuid), ("label", encode label), ("mountpoint", encode mountpoint),
      ("bootable", encode bootable), ("children", .object (childrenToJson children))]

/-- The children of a device as fields. -/
def childrenToJson : List (String × BlockDevice) → List (String × Json)
  | [] => []
  | (name, device) :: devices => (name, toJson device) :: childrenToJson devices

end

/-- Reads the parts of a device other than its children. -/
def ofRecord (record : Record) (children : Dict BlockDevice) : Decoded BlockDevice := do
  return {
    name := ← record.field "name"
    size := ← record.field "size"
    fs := ← record.fieldOr "fs" none
    uuid := ← record.fieldOr "uuid" none
    label := ← record.fieldOr "label" none
    mountpoint := ← record.fieldOr "mountpoint" none
    bootable := ← record.fieldOr "bootable" false
    children }

instance : JsonCodec BlockDevice where
  encode := toJson
  decode := decodeTree ofRecord
    ["name", "size", "fs", "uuid", "label", "mountpoint", "bootable", "children"] "children"

end BlockDevice

end ServerMigration
