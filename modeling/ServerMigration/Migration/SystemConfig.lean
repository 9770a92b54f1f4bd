import ServerMigration.Migration.Fstab
import ServerMigration.Migration.Replacement
import ServerMigration.Migration.Work

/-!
# The configuration of the migrated system

## Main definitions

* `Work.rewriteMounts` : rewrites the table of filesystems.
* `Work.rewriteAddresses` : moves the interfaces to their new addresses.
-/

namespace ServerMigration

/-- Writes a text into a file. -/
def overwriteCommand (path content : String) : String :=
  "printf '%s' " ++ Text.shellWord content ++ " > " ++ Text.shellWord path

namespace Work

/-- Rewrites the table of filesystems, if that changes it. -/
def rewriteMounts : Work (Option Signal) := do
  let s ← source
  let target ← ofExcept (targetHost s "AdjustMountConfig")
  let inventory ← ofExcept (sourceInventory s "AdjustMountConfig")
  let mapping ← ofExcept (deviceMapping s)
  let table ← ofExcept (mountTable s "AdjustMountConfig")
  let path ← ofMapping (table.resolve "/etc/fstab")
  let fstab ← remote target s!"cat {Text.shellWord path}"
  let rewritten := retargetFstab fstab inventory.blockDevices mapping
  if rewritten = fstab then return none
  let _ ← remote target (overwriteCommand path rewritten)
  return none

/-- Makes the replacements of an interface in one of its configuration files. -/
def adjustConfigFile (target : RemoteHost) (table : MountTable) (replacements : List Replacement)
    (file : String) : Work Unit := do
  match ← orRecord s!"resolve {file}" MappingError.message (table.resolve file) with
  | none => return ()
  | some path =>
    replacements.forM fun replacement => do
      let _ ← tryRemote s!"replace {replacement.old} in {file}" target
        (replacementCommand path replacement)

/-- Moves an interface to its new addresses.  An interface without a counterpart is left alone. -/
def adjustInterface (s : Source) (target : RemoteHost) (table : MountTable) (nics : List NicInfo)
    (interface : NetworkInterface) : Work Unit := do
  match nics.find? (·.name = interface.name) with
  | none => return ()
  | some nic =>
    let replacements := addressReplacements interface.ips interface.mac nic.ips nic.mac
    if replacements.isEmpty then return ()
    (s.remoteHost.os.networkFiles interface.name).forM
      (adjustConfigFile target table replacements)

/-- Moves all interfaces to their new addresses. -/
def rewriteAddresses : Work (Option Signal) := do
  let s ← source
  let target ← ofExcept (targetHost s "AdjustNetworkConfig")
  let metadata ← ofExcept (cloudMetadata s "AdjustNetworkConfig")
  let inventory ← ofExcept (sourceInventory s "AdjustNetworkConfig")
  let table ← ofExcept (mountTable s "AdjustNetworkConfig")
  inventory.network.values.forM (adjustInterface s target table metadata.lastingNics)
  return none

end Work

end ServerMigration
