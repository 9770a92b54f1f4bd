import ServerMigration.CloudMetadata
import ServerMigration.Inventory.Basic
import ServerMigration.OsFamily
import ServerMigration.Uuid

/-!
# Hosts

## Main definitions

* `RemoteHost` : a machine that commands can be run on.
* `RemoteHost.displayName` : how it is named in messages.
-/

namespace ServerMigration

/-- A machine on either side of a migration. -/
structure RemoteHost where
  /-- Its identifier. -/
  id : Uuid
  /-- The address it is reached at. -/
  address : String
  /-- The port of its ssh server. -/
  port : UInt16 := 22
  /-- The user to log in as. -/
  username : String
  /-- The private key to log in with. -/
  privateKeyPath : Option String := none
  /-- Its operating system. -/
  os : OsFamily
  /-- The version of the operating system. -/
  osVersion : String := ""
  /-- Its inventory, once collected. -/
  systemInfo : Option SystemInfo := none
  /-- What the provider created, on the target side. -/
  cloudMetadata : Option CloudMetadata := none
  deriving Repr, Inhabited

namespace RemoteHost

/-- The host as `user@address:port`. -/
def displayName (host : RemoteHost) : String :=
  s!"{host.username}@{host.address}:{host.port.toNat}"

instance : JsonCodec RemoteHost where
  encode h := .object [("id", encode h.id), ("address", encode h.address), ("port", encode h.port),
    ("username", encode h.username), ("private_key_path", encode h.privateKeyPath),
    ("os", encode h.os), ("os_version", encode h.osVersion), ("system_info", encode h.systemInfo),
    ("cloud_metadata", encode h.cloudMetadata)]
  decode json := do
    let record ← Record.ofJson ["id", "address", "port", "username", "private_key_path", "os",
      "os_version", "system_info", "cloud_metadata"] json
    return {
      id := ← record.field "id"
      address := ← record.field "address"
      port := ← record.fieldOr "port" 22
      username := ← record.field "username"
      privateKeyPath := ← record.fieldOr "private_key_path" none
      os := ← record.field "os"
      osVersion := ← record.fieldOr "os_version" ""
      systemInfo := ← record.fieldOr "system_info" none
      cloudMetadata := ← record.fieldOr "cloud_metadata" none }

end RemoteHost

end ServerMigration
