import ServerMigration.Migration.Inventory

/-!
# Provisioning the target

## Main definitions

* `specFor` : the server that fits a source.
* `Work.createTarget` : creates it, once.
* `Work.inspectTarget` : takes its inventory.
-/

namespace ServerMigration

/-- A number of the blueprint, or that of the source if the blueprint says zero. -/
def sizeOr {α : Type} [DecidableEq α] [OfNat α 0] (wanted actual : α) : α :=
  if wanted = 0 then actual else wanted

/-- The interfaces of the target: one for every interface of the source that has a rule. -/
def targetNics (network : NetworkMapping) (interfaces : Dict NetworkInterface) : List NicSpec :=
  interfaces.values.filterMap fun interface =>
    (network.ruleOf interface.name).map fun rule => ⟨interface.name, rule.lan, rule.ips⟩

/-- The server that fits a source whose inventory is known: one empty volume for each disk, in
natural order. -/
def specFor (source : Source) (inventory : SystemInfo) : Except CommandError TargetSpec :=
  let blueprint := source.target.blueprint
  let cores := sizeOr blueprint.hardware.cores inventory.hardware.cores
  let ramMib := sizeOr blueprint.hardware.ramMib inventory.hardware.ramMib
  if Text.isBlankText blueprint.templateImage then
    .error (.precondition "CreateTarget"
      ("blueprint '" ++ blueprint.name ++ "' has no template image"))
  else if cores = 0 || ramMib = 0 then
    .error (.precondition "CreateTarget"
      "target sizing is unknown: set blueprint hardware or collect source hardware")
  else .ok {
    name := source.name
    cores, ramMib
    templateImage := blueprint.templateImage
    sshKeys := blueprint.ssh.publicKeys
    bootstrapNic := ⟨"bootstrap", blueprint.network.bootstrapLan, []⟩
    nics := targetNics blueprint.network inventory.network
    diskSizesGib :=
      (DeviceMapping.inNaturalOrder inventory.blockDevices.values).map (·.sizeGib) }

/-- The address of the bootstrap interface; empty if it has none. -/
def bootstrapAddress (metadata : CloudMetadata) : String :=
  (metadata.bootstrapNic.bind (·.ips.head?)).getD ""

/-- The host of a target that has just been created. -/
def createdHost (source : Source) (metadata : CloudMetadata) (id : Uuid) : RemoteHost where
  id := id
  address := bootstrapAddress metadata
  username := source.target.blueprint.ssh.username
  privateKeyPath := source.target.blueprint.ssh.privateKeyPath
  os := source.remoteHost.os
  osVersion := source.remoteHost.osVersion
  cloudMetadata := some metadata

namespace Work

/-- Ends the step with the failures collected so far, if there are any, and forgets them. -/
def failOnErrors (command : String) : Work Unit := do
  let errors := (← get).errors
  modify fun progress => { progress with errors := [] }
  ofExcept (errors.toExcept command)

/-- The inventory of the source, which is taken if that has not been done yet.  An inventory that
lacks something would give a target that lacks it too, and so is not recorded. -/
def ensureSourceInventory : Work SystemInfo := do
  let source ← source
  match source.systemInfo with
  | some info => return info
  | none =>
    let info ← takeInventory source.remoteHost
      source.target.blueprint.commands.listBlockDevices
    failOnErrors "CreateTarget"
    modifySource fun s => { s with remoteHost := { s.remoteHost with systemInfo := some info } }
    return info

/-- Creates the target with an empty volume for each disk of the source, unless it is there. -/
def createTarget (provider : Provider) : Work (Option Signal) := do
  if (← source).target.isProvisioned then
    let host ← ofExcept (targetHost (← source) "CreateTarget")
    if host.address = "" then
      precondition "CreateTarget" "target exists but its bootstrap NIC has no address"
    return none
  let inventory ← ensureSourceInventory
  let spec ← ofExcept (specFor (← source) inventory)
  let metadata ← cloud (provider.createTarget spec)
  if bootstrapAddress metadata = "" then
    record "bootstrap NIC" "provider assigned no address"
  let id ← action Action.freshId
  modifySource fun s =>
    { s with target := { s.target with remoteHost := some (createdHost s metadata id) } }
  return none

/-- Takes the inventory of the target. -/
def inspectTarget : Work (Option Signal) := do
  let s ← source
  let host ← ofExcept (targetHost s "GetTargetSystemInfo")
  let info ← takeInventory host s.target.blueprint.commands.listBlockDevices
  modifySource fun s =>
    { s with target := { s.target with
        remoteHost := s.target.remoteHost.map fun host => { host with systemInfo := some info } } }
  return none

end Work

end ServerMigration
