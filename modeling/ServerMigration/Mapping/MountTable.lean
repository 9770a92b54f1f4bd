import ServerMigration.Mapping.DeviceMapping
import ServerMigration.Text.Search

/-!
# The mount table

The mounted filesystems of the source with their counterparts and mount directories on the target,
parents before what is mounted below them.  A path of the source is found on the target by the
longest mountpoint that is the path or one of its ancestors.

## Main definitions

* `MountEntry`, `MountTable` : one filesystem, and all of them in mount order.
* `MountTable.ofMapping` : the table of an inventory and its device mapping.
* `MountTable.resolve` : where a path of the source lies on the target.
-/

namespace ServerMigration

/-- A mounted filesystem and where it lies on the target. -/
structure MountEntry where
  /-- The source's disk. -/
  sourceDisk : String
  /-- The counterpart of the disk. -/
  targetDisk : String
  /-- The source's disk or partition that holds the filesystem. -/
  sourceDevice : String
  /-- The counterpart of that device. -/
  targetDevice : String
  /-- Where the source mounts it. -/
  sourceMountpoint : String
  /-- Its mount directory on the target. -/
  targetMountpoint : String
  /-- The type of the filesystem. -/
  fs : Option String
  /-- The identifier of the filesystem. -/
  uuid : Option String
  /-- The label of the filesystem. -/
  label : Option String
  deriving DecidableEq, Repr, Inhabited

instance : JsonCodec MountEntry where
  encode e := .object [("source_disk", encode e.sourceDisk), ("target_disk", encode e.targetDisk),
    ("source_device", encode e.sourceDevice), ("target_device", encode e.targetDevice),
    ("source_mountpoint", encode e.sourceMountpoint),
    ("target_mountpoint", encode e.targetMountpoint), ("fs", encode e.fs),
    ("uuid", encode e.uuid), ("label", encode e.label)]
  decode json := do
    let record ← Record.ofJson ["source_disk", "target_disk", "source_device", "target_device",
      "source_mountpoint", "target_mountpoint", "fs", "uuid", "label"] json
    return {
      sourceDisk := (← record.fieldOr "source_disk" none).getD ""
      targetDisk := (← record.fieldOr "target_disk" none).getD ""
      sourceDevice := (← record.fieldOr "source_device" none).getD ""
      targetDevice := (← record.fieldOr "target_device" none).getD ""
      sourceMountpoint := ← record.field "source_mountpoint"
      targetMountpoint := ← record.field "target_mountpoint"
      fs := ← record.fieldOr "fs" none
      uuid := ← record.fieldOr "uuid" none
      label := ← record.fieldOr "label" none }

/-- The mounted filesystems in mount order. -/
abbrev MountTable : Type := List MountEntry

namespace MountTable

/-- The number of components of a path. -/
def depth (path : String) : Nat :=
  ((Text.splitOn '/' path.toList).filter (!·.isEmpty)).length

/-- Mountpoints with fewer components come first, and then they are ordered as texts. -/
def mountOrder (a b : MountEntry) : Ordering :=
  (compare (depth a.sourceMountpoint) (depth b.sourceMountpoint)).then
    (compareStrings a.sourceMountpoint b.sourceMountpoint)

/-- A table of some filesystems. -/
def ofEntries (entries : List MountEntry) : MountTable :=
  stableSort mountOrder entries

/-- The entry of a device on a disk. -/
def entryOf (disk device : BlockDevice) (mappedDisk mapped : MappedDevice) : MountEntry where
  sourceDisk := disk.name
  targetDisk := mappedDisk.id
  sourceDevice := device.name
  targetDevice := mapped.id
  sourceMountpoint := device.mountPath?.getD ""
  targetMountpoint := mapped.mountpoint
  fs := device.fs
  uuid := device.uuid
  label := device.label

/-- A device under its name, which has to be there. -/
def lookUp (devices : Devices) (name kind : String) : Except MappingError BlockDevice :=
  match devices.get? name with
  | some device => .ok device
  | none => .error (.invalidPath name s!"mapped {kind} missing from source inventory")

/-- The entries of a disk: the disk itself if it is mounted, and its mounted partitions. -/
def diskEntries (source : Devices) (name : String) (mapped : MappedDevice) :
    Except MappingError (List MountEntry) := do
  let disk ← lookUp source name "device"
  let own := if mapped.isMounted then [entryOf disk disk mapped mapped] else []
  let mounted := mapped.children.filter (·.2.isMounted)
  let nested ← mounted.mapM fun (partition, child) => do
    return entryOf disk (← lookUp disk.children partition "partition") mapped child
  return own ++ nested

/-- The table of an inventory and its device mapping. -/
def ofMapping (source : Devices) (mapping : DeviceMapping) : Except MappingError MountTable := do
  let entries ← mapping.mapM fun (name, mapped) => diskEntries source name mapped
  return ofEntries entries.flatten

/-- The part of a path behind a mountpoint that is the path or one of its ancestors.  Behind `/`
that is the whole path. -/
def remainder? (mountpoint path : List Char) : Option (List Char) :=
  if mountpoint = ['/'] then some path
  else match Text.afterPrefix mountpoint path with
    | some [] => some []
    | some ('/' :: rest) => some ('/' :: rest)
    | _ => none

/-- Of two entries the one with the longer mountpoint in bytes, of equally long ones the later. -/
def longer (best : Option MountEntry) (entry : MountEntry) : Option MountEntry :=
  match best with
  | none => some entry
  | some e =>
    if e.sourceMountpoint.utf8ByteSize ≤ entry.sourceMountpoint.utf8ByteSize then some entry
    else some e

/-- The entry with the longest mountpoint that is a path or one of its ancestors. -/
def containing (table : MountTable) (path : List Char) : Option MountEntry :=
  (table.filter fun entry => (remainder? entry.sourceMountpoint.toList path).isSome).foldl
    longer none

/-- Where an absolute path of the source lies on the target. -/
def resolve (table : MountTable) (path : String) : Except MappingError String :=
  let chars := path.toList
  if chars.head? ≠ some '/' then .error (.invalidPath path "path is not absolute")
  else match containing table chars with
    | none => .error (.invalidPath path "no mountpoint contains the path")
    | some entry =>
      let rest := (remainder? entry.sourceMountpoint.toList chars).getD []
      let rest := if rest = ['/'] then [] else rest
      .ok (entry.targetMountpoint ++ String.ofList rest)

/-- The filesystem that the source mounts exactly there. -/
def mountedAt (table : MountTable) (mountpoint : String) : Option MountEntry :=
  table.find? (·.sourceMountpoint = mountpoint)

/-- The root filesystem. -/
def root (table : MountTable) : Option MountEntry :=
  table.mountedAt "/"

/-- The filesystem that the bootloader reads: `/boot` if it is one of its own, or else the root. -/
def bootEntry (table : MountTable) : Option MountEntry :=
  table.mountedAt "/boot" <|> table.root

end MountTable

end ServerMigration
