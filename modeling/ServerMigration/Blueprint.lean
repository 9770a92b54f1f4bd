import ServerMigration.Lifecycle.HookPhase

/-!
# Blueprints

A blueprint describes the target that a source is migrated into: the size of the server, the image
it boots from at first, its network, the hooks around each step, and the templates of the commands
that the steps run.

## Main definitions

* `Blueprint` and its parts `HardwareSpec`, `SshCredentials`, `NetworkMapping`, `InterfaceRule`,
  `HookSpec`, `CommandTemplates`.
* `Blueprint.hooksOn` : the hooks of an event.
-/

namespace ServerMigration

/-- The size of the target server; zero means the size of the source. -/
structure HardwareSpec where
  /-- The number of processors. -/
  cores : UInt32 := 0
  /-- The memory in MiB. -/
  ramMib : UInt64 := 0
  deriving DecidableEq, Repr, Inhabited

instance : JsonCodec HardwareSpec where
  encode h := .object [("cores", encode h.cores), ("ram_mib", encode h.ramMib)]
  decode json := do
    let record ← Record.ofJson ["cores", "ram_mib"] json
    return { cores := ← record.fieldOr "cores" 0, ramMib := ← record.fieldOr "ram_mib" 0 }

/-- How the migration logs in on the target. -/
structure SshCredentials where
  /-- The user to log in as. -/
  username : String := "root"
  /-- The private key to log in with. -/
  privateKeyPath : Option String := none
  /-- The public keys that the bootstrap volume is created with. -/
  publicKeys : List String := []
  deriving DecidableEq, Repr, Inhabited

instance : JsonCodec SshCredentials where
  encode s := .object [("username", encode s.username),
    ("private_key_path", encode s.privateKeyPath), ("public_keys", encode s.publicKeys)]
  decode json := do
    let record ← Record.ofJson ["username", "private_key_path", "public_keys"] json
    return {
      username := ← record.fieldOr "username" "root"
      privateKeyPath := ← record.fieldOr "private_key_path" none
      publicKeys := ← record.fieldOr "public_keys" [] }

/-- The interface that the target gets for one interface of the source. -/
structure InterfaceRule where
  /-- The name of the source's interface. -/
  sourceInterface : String
  /-- The LAN to attach to. -/
  lan : UInt32
  /-- Fixed addresses; with none the provider assigns one. -/
  ips : List String := []
  deriving DecidableEq, Repr, Inhabited

instance : JsonCodec InterfaceRule where
  encode r := .object [("source_interface", encode r.sourceInterface), ("lan", encode r.lan),
    ("ips", encode r.ips)]
  decode json := do
    let record ← Record.ofJson ["source_interface", "lan", "ips"] json
    return {
      sourceInterface := ← record.field "source_interface"
      lan := ← record.field "lan"
      ips := ← record.fieldOr "ips" [] }

/-- The network of the target. -/
structure NetworkMapping where
  /-- The LAN of the bootstrap interface, which has to reach the source. -/
  bootstrapLan : UInt32 := 0
  /-- The rules by source interface. -/
  interfaces : List InterfaceRule := []
  deriving DecidableEq, Repr, Inhabited

instance : JsonCodec NetworkMapping where
  encode n := .object [("bootstrap_lan", encode n.bootstrapLan),
    ("interfaces", encode n.interfaces)]
  decode json := do
    let record ← Record.ofJson ["bootstrap_lan", "interfaces"] json
    return {
      bootstrapLan := ← record.fieldOr "bootstrap_lan" 0
      interfaces := ← record.fieldOr "interfaces" [] }

/-- The rule for a source interface. -/
def NetworkMapping.ruleOf (network : NetworkMapping) (interface : String) :
    Option InterfaceRule :=
  network.interfaces.find? (·.sourceInterface = interface)

/-- The side of a migration that a hook runs on. -/
inductive HookLocation
  | source
  | target
  deriving DecidableEq, Repr, Inhabited

/-- The name of a side. -/
def HookLocation.name : HookLocation → String
  | source => "source"
  | target => "target"

instance : JsonCodec HookLocation where
  encode location := .string location.name
  decode := decodeConstant [.source, .target] HookLocation.name

/-- A script that runs around a step. -/
structure HookSpec where
  /-- The event, such as `before_sync`. -/
  event : String
  /-- The side it runs on. -/
  location : HookLocation
  /-- The shell script. -/
  script : String
  deriving DecidableEq, Repr, Inhabited

instance : JsonCodec HookSpec where
  encode h := .object [("event", encode h.event), ("location", encode h.location),
    ("script", encode h.script)]
  decode json := do
    let record ← Record.ofJson ["event", "location", "script"] json
    return {
      event := ← record.field "event"
      location := ← record.field "location"
      script := ← record.field "script" }

/-- The templates of the commands that the steps run. -/
structure CommandTemplates where
  /-- Reports the disks as `lsblk --json` does. -/
  listBlockDevices : String :=
    "lsblk --json --bytes --output NAME,SIZE,TYPE,FSTYPE,UUID,LABEL,MOUNTPOINT,PARTFLAGS"
  /-- Dumps the partition table of `{device}`. -/
  partitionDump : String := "sfdisk --dump {device}"
  /-- Applies the partition table `{layout}` to `{device}`. -/
  partitionApply : String := "printf '%s\\n' {layout} | sfdisk --force {device}"
  /-- Creates a filesystem on `{device}`, by type. -/
  mkfs : Dict String := Dict.ofList [
    ("ext2", "mkfs.ext2 -F -U {uuid} -L {label} {device}"),
    ("ext3", "mkfs.ext3 -F -U {uuid} -L {label} {device}"),
    ("ext4", "mkfs.ext4 -F -U {uuid} -L {label} {device}"),
    ("xfs", "mkfs.xfs -f -m uuid={uuid} -L {label} {device}"),
    ("btrfs", "mkfs.btrfs -f -U {uuid} -L {label} {device}"),
    ("swap", "mkswap -U {uuid} -L {label} {device}"),
    ("vfat", "mkfs.vfat -i \"$(printf %s {uuid} | tr -d -)\" -n {label} {device}")]
  /-- Mounts `{device}` on `{mountpoint}`; it may run again. -/
  mount : String :=
    "mkdir -p {mountpoint} && (mountpoint -q {mountpoint} || mount {device} {mountpoint})"
  /-- Copies `{source_path}` of the source to `{target_path}` of the target. -/
  sync : String := "rsync -aAXHx --numeric-ids --delete {excludes} -e {ssh_command} " ++
    "{source_path} {target_user}@{target_address}:{target_path}"
  /-- Patterns that are never copied, relative to the mountpoint. -/
  syncExcludes : List String :=
    ["/dev/*", "/proc/*", "/sys/*", "/run/*", "/tmp/*", "/lost+found"]
  deriving DecidableEq, Repr, Inhabited

/-- The template that creates filesystems of a type. -/
def CommandTemplates.mkfsOf (templates : CommandTemplates) (fs : String) : Option String :=
  templates.mkfs.get? fs

instance : JsonCodec CommandTemplates where
  encode c := .object [("list_block_devices", encode c.listBlockDevices),
    ("partition_dump", encode c.partitionDump), ("partition_apply", encode c.partitionApply),
    ("mkfs", encodeDict c.mkfs), ("mount", encode c.mount), ("sync", encode c.sync),
    ("sync_excludes", encode c.syncExcludes)]
  decode json := do
    let record ← Record.ofJson ["list_block_devices", "partition_dump", "partition_apply", "mkfs",
      "mount", "sync", "sync_excludes"] json
    let preset : CommandTemplates := {}
    return {
      listBlockDevices := ← record.fieldOr "list_block_devices" preset.listBlockDevices
      partitionDump := ← record.fieldOr "partition_dump" preset.partitionDump
      partitionApply := ← record.fieldOr "partition_apply" preset.partitionApply
      mkfs := ← record.dictOr "mkfs" preset.mkfs
      mount := ← record.fieldOr "mount" preset.mount
      sync := ← record.fieldOr "sync" preset.sync
      syncExcludes := ← record.fieldOr "sync_excludes" preset.syncExcludes }

/-- The description of a target. -/
structure Blueprint where
  /-- The blueprint's name. -/
  name : String := "default"
  /-- The size of the server. -/
  hardware : HardwareSpec := {}
  /-- The image of the bootstrap volume. -/
  templateImage : String := ""
  /-- How to log in. -/
  ssh : SshCredentials := {}
  /-- The network. -/
  network : NetworkMapping := {}
  /-- The hooks around the steps. -/
  hooks : List HookSpec := []
  /-- The command templates. -/
  commands : CommandTemplates := {}
  deriving DecidableEq, Repr, Inhabited

namespace Blueprint

/-- The hooks of the event of a phase at a status, in their order. -/
def hooksOn (blueprint : Blueprint) (phase : HookPhase) (status : String) : List HookSpec :=
  blueprint.hooks.filter (·.event = phase.eventName status)

instance : JsonCodec Blueprint where
  encode b := .object [("name", encode b.name), ("hardware", encode b.hardware),
    ("template_image", encode b.templateImage), ("ssh", encode b.ssh),
    ("network", encode b.network), ("hooks", encode b.hooks), ("commands", encode b.commands)]
  decode json := do
    let record ← Record.ofJson ["name", "hardware", "template_image", "ssh", "network", "hooks",
      "commands"] json
    return {
      name := ← record.field "name"
      hardware := ← record.fieldOr "hardware" {}
      templateImage := ← record.field "template_image"
      ssh := ← record.fieldOr "ssh" {}
      network := ← record.fieldOr "network" {}
      hooks := ← record.fieldOr "hooks" []
      commands := ← record.fieldOr "commands" {} }

end Blueprint

end ServerMigration
