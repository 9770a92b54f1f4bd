import ServerMigration.Blueprint
import ServerMigration.Mapping.DeviceMapping
import ServerMigration.RemoteHost

/-!
# Targets

## Main definitions

* `Target` : the server that a source is migrated into.
* `Target.recordMapping` : records the device mapping, once.
-/

namespace ServerMigration

/-- The server that a source is migrated into. -/
structure Target where
  /-- Its description. -/
  blueprint : Blueprint
  /-- The counterparts of the source's devices, once identified. -/
  deviceMapping : Option DeviceMapping := none
  /-- The server itself, once provisioned. -/
  remoteHost : Option RemoteHost := none
  deriving Repr, Inhabited

namespace Target

/-- The recorded device mapping. -/
def recordedMapping (target : Target) : Except MappingError DeviceMapping :=
  match target.deviceMapping with
  | some mapping => .ok mapping
  | none => .error .notIdentified

/-- Records the device mapping.  It is written once and never computed again. -/
def recordMapping (target : Target) (mapping : DeviceMapping) : Except MappingError Target :=
  if target.deviceMapping.isSome then .error .alreadyIdentified
  else .ok { target with deviceMapping := some mapping }

/-- Whether the provider has created the server. -/
def isProvisioned (target : Target) : Bool :=
  target.remoteHost.any (·.cloudMetadata.isSome)

instance : JsonCodec Target where
  encode t := .object [("blueprint", encode t.blueprint),
    ("device_mapping", encodeDict? t.deviceMapping), ("remote_host", encode t.remoteHost)]
  decode json := do
    let record ← Record.ofJson ["blueprint", "device_mapping", "remote_host"] json
    return {
      blueprint := ← record.field "blueprint"
      deviceMapping := ← record.dict? "device_mapping"
      remoteHost := ← record.fieldOr "remote_host" none }

end Target

end ServerMigration
