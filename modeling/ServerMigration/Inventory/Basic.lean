import ServerMigration.Device.BlockDevice

/-!
# The inventory of a machine

## Main definitions

* `NetworkInterface`, `Hardware` : an interface with its addresses, and the size of a machine.
* `SystemInfo` : disks, interfaces and hardware of one machine.
-/

namespace ServerMigration

/-- A network interface with its addresses in CIDR notation. -/
structure NetworkInterface where
  /-- The kernel's name. -/
  name : String
  /-- The hardware address. -/
  mac : Option String
  /-- The addresses with their prefix lengths. -/
  ips : List String
  /-- The gateway of the default route through the interface. -/
  gateway : Option String
  deriving DecidableEq, Repr, Inhabited

instance : JsonCodec NetworkInterface where
  encode i := .object [("name", encode i.name), ("mac", encode i.mac), ("ips", encode i.ips),
    ("gateway", encode i.gateway)]
  decode json := do
    let record ← Record.ofJson ["name", "mac", "ips", "gateway"] json
    return {
      name := ← record.field "name"
      mac := ← record.fieldOr "mac" none
      ips := ← record.fieldOr "ips" []
      gateway := ← record.fieldOr "gateway" none }

/-- The size of a machine. -/
structure Hardware where
  /-- The number of processors. -/
  cores : UInt32
  /-- The memory in MiB. -/
  ramMib : UInt64
  deriving DecidableEq, Repr, Inhabited

instance : JsonCodec Hardware where
  encode h := .object [("cores", encode h.cores), ("ram_mib", encode h.ramMib)]
  decode json := do
    let record ← Record.ofJson ["cores", "ram_mib"] json
    return { cores := ← record.field "cores", ramMib := ← record.field "ram_mib" }

/-- The inventory of one machine. -/
structure SystemInfo where
  /-- The disks by name. -/
  blockDevices : Devices := []
  /-- The network interfaces by name. -/
  network : Dict NetworkInterface := []
  /-- Processors and memory. -/
  hardware : Hardware := ⟨0, 0⟩
  deriving Repr, Inhabited

instance : JsonCodec SystemInfo where
  encode info := .object [("block_devices", encodeDict info.blockDevices),
    ("network", encodeDict info.network), ("hardware", encode info.hardware)]
  decode json := do
    let record ← Record.ofJson ["block_devices", "network", "hardware"] json
    return {
      blockDevices := ← record.dict "block_devices"
      network := ← record.dict "network"
      hardware := ← record.fieldOr "hardware" ⟨0, 0⟩ }

end ServerMigration
