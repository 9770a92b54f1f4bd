import ServerMigration.Json.Codec

/-!
# What the provider created

The identifiers that the cloud provider gave to a target server, its volumes and its network
interfaces.

## Main definitions

* `VolumeInfo`, `NicInfo`, `CloudMetadata`.
* `VolumeInfo.deviceName` : the name under which the server sees a volume.
* `CloudMetadata.lastingNics` : the interfaces that stay when the bootstrap interface is gone.
-/

namespace ServerMigration

/-- A volume of a target server. -/
structure VolumeInfo where
  /-- The provider's identifier. -/
  id : String
  /-- The volume's name. -/
  name : String
  /-- The size in GiB. -/
  sizeGib : UInt64
  /-- The attachment slot, counted from one. -/
  deviceNumber : Option UInt32
  deriving DecidableEq, Repr, Inhabited

/-- The device name of an attachment slot: `vda` for the first, up to `vdz`. -/
def VolumeInfo.deviceName (volume : VolumeInfo) : Option String := do
  let number ← volume.deviceNumber
  if 1 ≤ number.toNat ∧ number.toNat ≤ 26 then
    some (String.ofList ['v', 'd', Char.ofNat ('a'.toNat + (number.toNat - 1))])
  else none

instance : JsonCodec VolumeInfo where
  encode v := .object [("id", encode v.id), ("name", encode v.name), ("size_gib", encode v.sizeGib),
    ("device_number", encode v.deviceNumber)]
  decode json := do
    let record ← Record.ofJson ["id", "name", "size_gib", "device_number"] json
    return {
      id := ← record.field "id"
      name := ← record.field "name"
      sizeGib := ← record.field "size_gib"
      deviceNumber := ← record.fieldOr "device_number" none }

/-- A network interface of a target server. -/
structure NicInfo where
  /-- The provider's identifier. -/
  id : String
  /-- The interface's name. -/
  name : String
  /-- The LAN it is attached to. -/
  lan : UInt32
  /-- Its addresses. -/
  ips : List String
  /-- Its hardware address. -/
  mac : Option String
  deriving DecidableEq, Repr, Inhabited

instance : JsonCodec NicInfo where
  encode n := .object [("id", encode n.id), ("name", encode n.name), ("lan", encode n.lan),
    ("ips", encode n.ips), ("mac", encode n.mac)]
  decode json := do
    let record ← Record.ofJson ["id", "name", "lan", "ips", "mac"] json
    return {
      id := ← record.field "id"
      name := ← record.field "name"
      lan := ← record.field "lan"
      ips := ← record.fieldOr "ips" []
      mac := ← record.fieldOr "mac" none }

/-- A provisioned target server. -/
structure CloudMetadata where
  /-- The server's identifier. -/
  serverId : String
  /-- The volume that the server boots from until its own disks are ready. -/
  bootstrapVolumeId : String
  /-- The interface over which the migration reaches the server. -/
  bootstrapNicId : String
  /-- The volumes in the provider's order. -/
  volumes : List VolumeInfo := []
  /-- The interfaces in the provider's order. -/
  nics : List NicInfo := []
  deriving DecidableEq, Repr, Inhabited

namespace CloudMetadata

/-- The bootstrap interface, if it is still there. -/
def bootstrapNic (metadata : CloudMetadata) : Option NicInfo :=
  metadata.nics.find? (·.id = metadata.bootstrapNicId)

/-- Whether a volume is recorded. -/
def hasVolume (metadata : CloudMetadata) (id : String) : Bool :=
  metadata.volumes.any (·.id = id)

/-- Whether an interface is recorded. -/
def hasNic (metadata : CloudMetadata) (id : String) : Bool :=
  metadata.nics.any (·.id = id)

/-- The volume that the server sees under a device name. -/
def volumeAt? (metadata : CloudMetadata) (device : String) : Option VolumeInfo :=
  metadata.volumes.find? (·.deviceName = some device)

/-- The interfaces other than the bootstrap interface. -/
def lastingNics (metadata : CloudMetadata) : List NicInfo :=
  metadata.nics.filter (·.id ≠ metadata.bootstrapNicId)

instance : JsonCodec CloudMetadata where
  encode m := .object [("server_id", encode m.serverId),
    ("bootstrap_volume_id", encode m.bootstrapVolumeId),
    ("bootstrap_nic_id", encode m.bootstrapNicId), ("volumes", encode m.volumes),
    ("nics", encode m.nics)]
  decode json := do
    let record ← Record.ofJson
      ["server_id", "bootstrap_volume_id", "bootstrap_nic_id", "volumes", "nics"] json
    return {
      serverId := ← record.field "server_id"
      bootstrapVolumeId := ← record.field "bootstrap_volume_id"
      bootstrapNicId := ← record.field "bootstrap_nic_id"
      volumes := ← record.fieldOr "volumes" []
      nics := ← record.fieldOr "nics" [] }

end CloudMetadata

end ServerMigration
