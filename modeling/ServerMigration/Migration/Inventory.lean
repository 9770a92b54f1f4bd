import ServerMigration.Inventory.Lsblk
import ServerMigration.Inventory.Network
import ServerMigration.Migration.Work
import ServerMigration.Text.Literal

/-!
# Taking an inventory

## Main definitions

* `takeInventory` : the inventory of a host.  Its disks have to be known; failures to find out
  about its interfaces and its hardware are collected.
-/

namespace ServerMigration

/-- Reports the addresses of a host. -/
def ipAddrCommand : String := "ip -json addr show"

/-- Reports the default routes of a host. -/
def ipRouteCommand : String := "ip -json route show default"

/-- Reports the number of processors and the memory of a host. -/
def hardwareCommand : String := "nproc && awk '/^MemTotal:/ \x7bprint $2\x7d' /proc/meminfo"

/-- Why a report could not be read. -/
def DecodeError.message : DecodeError → String
  | .mismatch => "unexpected document"
  | .deviceSize reason => reason

namespace Work

/-- The disks of a host. -/
def collectDisks (host : RemoteHost) (listBlockDevices : String) : Work Devices := do
  match Devices.ofLsblk (← remote host listBlockDevices) with
  | .ok devices => return devices
  | .error error =>
    precondition "collect inventory" s!"unreadable lsblk output: {error.message}"

/-- The interfaces of a host.  A host without a default route reports that by its exit status,
which is no failure. -/
def collectNetwork (host : RemoteHost) : Work (Dict NetworkInterface) := do
  let addresses ← tryRemote "ip addr" host ipAddrCommand
  let routes ← tryRemote "ip route" host ipRouteCommand .lenient
  match addresses with
  | none => return []
  | some addresses =>
    let network ← orRecord "parse ip addr" DecodeError.message
      (networkOfReports addresses (routes.getD ""))
    return network.getD []

/-- The hardware of a host. -/
def collectHardware (host : RemoteHost) : Work Hardware := do
  match ← tryRemote "hardware" host hardwareCommand with
  | none => return ⟨0, 0⟩
  | some report =>
    match Hardware.ofReport report with
    | some hardware => return hardware
    | none =>
      record "parse hardware" s!"unexpected output: {Text.literal report}"
      return ⟨0, 0⟩

/-- The inventory of a host. -/
def takeInventory (host : RemoteHost) (listBlockDevices : String) : Work SystemInfo := do
  let blockDevices ← collectDisks host listBlockDevices
  let network ← collectNetwork host
  let hardware ← collectHardware host
  return { blockDevices, network, hardware }

end Work

end ServerMigration
