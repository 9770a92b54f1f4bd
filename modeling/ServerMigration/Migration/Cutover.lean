import ServerMigration.Migration.Work

/-!
# Cutting over

The target is stopped, loses its bootstrap volume and its bootstrap interface, is made to boot from
the migrated disk, and is started again.

## Main definitions

* `Work.stopTarget`, `Work.deleteBootstrapVolume`, `Work.deleteBootstrapNic`,
  `Work.configureBootDevice`, `Work.startTarget`.
-/

namespace ServerMigration

/-- A source whose recorded cloud metadata is replaced. -/
def Source.withCloudMetadata (source : Source) (metadata : CloudMetadata) : Source :=
  { source with target := { source.target with
      remoteHost := source.target.remoteHost.map fun host =>
        { host with cloudMetadata := some metadata } } }

/-- A source whose target is reached at another address. -/
def Source.withTargetAddress (source : Source) (address : String) : Source :=
  { source with target := { source.target with
      remoteHost := source.target.remoteHost.map fun host => { host with address } } }

/-- The first address of an interface that stays. -/
def finalAddress (metadata : CloudMetadata) : Option String :=
  metadata.lastingNics.findSome? (·.ips.head?)

namespace Work

/-- What the provider created. -/
def recordedMetadata (source : Source) (command : String) : Except CommandError CloudMetadata :=
  match source.target.remoteHost.bind (·.cloudMetadata) with
  | some metadata => .ok metadata
  | none => .error (.precondition command "target has no cloud metadata")

/-- Stops the target. -/
def stopTarget (provider : Provider) : Work (Option Signal) := do
  let metadata ← ofExcept (cloudMetadata (← source) "StopTarget")
  cloud (provider.stopTarget metadata.serverId)
  return none

/-- Starts the target. -/
def startTarget (provider : Provider) : Work (Option Signal) := do
  let metadata ← ofExcept (cloudMetadata (← source) "StartTarget")
  cloud (provider.startTarget metadata.serverId)
  return none

/-- Deletes the bootstrap volume, unless that is done. -/
def deleteBootstrapVolume : Work (Option Signal) := do
  let metadata ← ofExcept (recordedMetadata (← source) "DeleteBootstrapVolume")
  let id := metadata.bootstrapVolumeId
  if metadata.hasVolume id then
    cloud (Provider.deleteVolume id)
    modifySource fun s =>
      s.withCloudMetadata { metadata with volumes := metadata.volumes.filter (·.id ≠ id) }
  return none

/-- Deletes the bootstrap interface, unless that is done, and reaches the target over another
interface from then on. -/
def deleteBootstrapNic : Work (Option Signal) := do
  let metadata ← ofExcept (recordedMetadata (← source) "DeleteBootstrapNetworkInterface")
  let id := metadata.bootstrapNicId
  if metadata.hasNic id then
    cloud (Provider.deleteNic metadata.serverId id)
    modifySource fun s =>
      s.withCloudMetadata { metadata with nics := metadata.nics.filter (·.id ≠ id) }
  match finalAddress metadata with
  | some address => modifySource fun s => s.withTargetAddress address
  | none => record "final address" "no remaining NIC has an address"
  return none

/-- Makes the target boot from the volume that holds the migrated boot filesystem. -/
def configureBootDevice (provider : Provider) : Work (Option Signal) := do
  let s ← source
  let table ← ofExcept (mountTable s "ConfigureBootDevice")
  match table.bootEntry with
  | none => precondition "ConfigureBootDevice" "source has no boot filesystem"
  | some boot =>
    let metadata ← ofExcept (cloudMetadata s "ConfigureBootDevice")
    match metadata.volumeAt? boot.targetDisk with
    | none => precondition "ConfigureBootDevice" s!"no volume is attached as {boot.targetDisk}"
    | some volume =>
      cloud (provider.bootFromVolume metadata.serverId volume.id)
      return none

end Work

end ServerMigration
