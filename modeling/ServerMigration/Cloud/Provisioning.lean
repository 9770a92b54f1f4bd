import ServerMigration.Cloud.PollPolicy

/-!
# Servers in the cloud

A target is a server with a bootstrap volume and a bootstrap interface, from which it runs until
its own disks are ready, and with one empty volume for each disk of the source.  Creating it is a
request whose status is polled; starting, stopping and choosing the boot volume change the state of
the server, which is polled too.

## Main definitions

* `TargetSpec` : what to create.
* `Provider` : the polling policy and the size of bootstrap volumes.
* `Provider.createTarget` and the other operations on targets.
-/

namespace ServerMigration

/-- A network interface of a target to create. -/
abbrev NicSpec : Type := NicRequest

/-- A target to create. -/
structure TargetSpec where
  /-- The name of the server. -/
  name : String
  /-- The number of processors. -/
  cores : UInt32
  /-- The memory in MiB. -/
  ramMib : UInt64
  /-- The image of the bootstrap volume. -/
  templateImage : String
  /-- The keys that may log in on the bootstrap volume. -/
  sshKeys : List String
  /-- The bootstrap interface. -/
  bootstrapNic : NicSpec
  /-- The other interfaces. -/
  nics : List NicSpec
  /-- The sizes of the empty volumes, in order. -/
  diskSizesGib : List UInt64
  deriving DecidableEq, Repr, Inhabited

/-- A target specification as JSON. -/
def TargetSpec.toJson (s : TargetSpec) : Json :=
  .object [("name", encode s.name), ("cores", encode s.cores),
    ("ram_mib", encode s.ramMib), ("template_image", encode s.templateImage),
    ("ssh_keys", encode s.sshKeys), ("bootstrap_nic", encode s.bootstrapNic),
    ("nics", encode s.nics), ("disk_sizes_gib", encode s.diskSizesGib)]

/-- The name of the bootstrap volume and of the bootstrap interface of a target. -/
def bootstrapName (target : String) : String := s!"{target}-bootstrap"

/-- The name of a data volume of a target, counted from one. -/
def diskName (target : String) (number : Nat) : String := s!"{target}-disk-{number}"

/-- How the provider is used. -/
structure Provider where
  /-- How its operations are watched. -/
  polling : PollPolicy := {}
  /-- The size of bootstrap volumes. -/
  bootstrapVolumeSizeGib : UInt64 := 10
  deriving DecidableEq, Repr, Inhabited

namespace Provider

/-- The volumes of a target: the bootstrap volume, then its empty volumes. -/
def volumeRequests (provider : Provider) (spec : TargetSpec) : List VolumeRequest :=
  { name := bootstrapName spec.name, sizeGib := provider.bootstrapVolumeSizeGib,
    image := some spec.templateImage, sshKeys := spec.sshKeys } ::
  spec.diskSizesGib.zipIdx.map fun (size, i) =>
    { name := diskName spec.name (i + 1), sizeGib := size, image := none, sshKeys := [] }

/-- The request that creates a target. -/
def serverRequest (provider : Provider) (spec : TargetSpec) : ServerRequest where
  name := spec.name
  cores := spec.cores
  ramMib := spec.ramMib
  volumes := provider.volumeRequests spec
  nics := { spec.bootstrapNic with name := bootstrapName spec.name } :: spec.nics

/-- Operations on targets, which may fail. -/
abbrev Operation (α : Type) : Type := ExceptT CloudError (Program Site.Ask Site.Answer) α

/-- Calls the datacenter. -/
def call (c : DatacenterCall) : Operation c.Reply := ExceptT.mk (Action.datacenter c)

/-- Whether a request is done; the provider may also have given it up. -/
def requestDone (operation requestId : String) (status : RequestStatus) : Except CloudError Bool :=
  if status.status = "DONE" then .ok true
  else if status.status = "FAILED" then
    .error (.requestFailed operation requestId (status.message.getD ""))
  else .ok false

/-- Waits until a request is done. -/
def awaitRequest (provider : Provider) (operation requestId : String) :
    Operation RequestStatus :=
  ExceptT.mk (poll operation provider.polling (Action.datacenter (.requestStatus requestId))
    (requestDone operation requestId))

/-- Waits until a server is in a state that is wanted. -/
def awaitState (provider : Provider) (operation serverId : String) (wanted : String → Bool) :
    Operation String :=
  ExceptT.mk (poll operation provider.polling (Action.datacenter (.serverState serverId))
    fun state => .ok (wanted state))

/-- The identifier of the first entry, or an error that it is missing. -/
def require (found : Option String) (field reason : String) : Except CloudError String :=
  match found with
  | some id => .ok id
  | none => .error (.invalidResponse field reason)

/-- What is recorded of a created server: the provider's volumes and interfaces, and which of them
are the bootstrap ones. -/
def metadataOf (name serverId : String) (volumes : List VolumeInfo) (nics : List NicInfo) :
    Except CloudError CloudMetadata := do
  let volume := volumes.find? (·.name = bootstrapName name)
  let nic := nics.find? (·.name = bootstrapName name)
  return {
    serverId
    bootstrapVolumeId :=
      ← require (volume.map (·.id)) "volumes" "bootstrap volume not attached"
    bootstrapNicId := ← require (nic.map (·.id)) "nics" "bootstrap NIC not attached"
    volumes, nics }

/-- Creates a target. -/
def createTarget (provider : Provider) (spec : TargetSpec) : Operation CloudMetadata := do
  let accepted ← call (.createServer (provider.serverRequest spec))
  let _ ← provider.awaitRequest "create target" accepted.requestId
  let volumes ← call (.listVolumes accepted.id)
  let nics ← call (.listNics accepted.id)
  liftExcept (metadataOf spec.name accepted.id volumes nics)
where
  /-- A result as an operation. -/
  liftExcept {α : Type} (result : Except CloudError α) : Operation α := ExceptT.mk (pure result)

/-- Deletes a target. -/
def deleteTarget (serverId : String) : Operation Unit := call (.deleteServer serverId)

/-- Starts a target and waits until it is available. -/
def startTarget (provider : Provider) (serverId : String) : Operation Unit := do
  call (.startServer serverId)
  let _ ← provider.awaitState "start target" serverId (· = "AVAILABLE")

/-- Stops a target and waits until it is inactive. -/
def stopTarget (provider : Provider) (serverId : String) : Operation Unit := do
  call (.stopServer serverId)
  let _ ← provider.awaitState "stop target" serverId (· = "INACTIVE")

/-- Deletes a volume. -/
def deleteVolume (volumeId : String) : Operation Unit := call (.deleteVolume volumeId)

/-- Makes a server boot from a volume and waits until it is not busy any more. -/
def bootFromVolume (provider : Provider) (serverId volumeId : String) : Operation Unit := do
  call (.setBootVolume serverId volumeId)
  let _ ← provider.awaitState "make volume boot" serverId (· ≠ "BUSY")

/-- Deletes a network interface. -/
def deleteNic (serverId nicId : String) : Operation Unit := call (.deleteNic serverId nicId)

/-- The provider as text. -/
def describe (provider : Provider) : String :=
  "ProfitBricks(ProfitBricksAdapter \x7b polling: PollPolicy \x7b interval: "
    ++ provider.polling.interval.text ++ ", max_wait: " ++ provider.polling.maxWait.text
    ++ " \x7d, bootstrap_volume_size_gib: " ++ toString provider.bootstrapVolumeSizeGib.toNat
    ++ " \x7d)"

end Provider

end ServerMigration
