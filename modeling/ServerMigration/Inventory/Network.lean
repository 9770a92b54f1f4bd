import ServerMigration.Inventory.Basic
import ServerMigration.Json.Reader
import ServerMigration.Text.Blank
import ServerMigration.Text.Search

/-!
# The reports of `ip` and of the processor count

## Main definitions

* `networkOfReports` : the interfaces from `ip -json addr` and the default routes from
  `ip -json route show default`, without the loopback interface.
* `Hardware.ofReport` : processors and memory from two lines of numbers.
-/

namespace ServerMigration

/-- An address of an interface. -/
structure ReportedAddress where
  /-- `inet`, `inet6` or another family. -/
  family : String
  /-- The address. -/
  address : String
  /-- The prefix length. -/
  prefixLength : UInt8

/-- An interface as `ip` reports it. -/
structure ReportedInterface where
  /-- The kernel's name. -/
  name : String
  /-- The hardware address. -/
  mac : Option String
  /-- The addresses. -/
  addresses : List ReportedAddress

/-- A default route as `ip` reports it. -/
structure ReportedRoute where
  /-- The gateway. -/
  gateway : Option String
  /-- The interface that the route leads through. -/
  device : Option String

instance : JsonCodec ReportedAddress where
  encode a := .object [("family", encode a.family), ("local", encode a.address),
    ("prefixlen", encode a.prefixLength)]
  decode json := do
    let record ← Record.ofJson ["family", "local", "prefixlen"] json
    return {
      family := ← record.field "family"
      address := ← record.field "local"
      prefixLength := ← record.field "prefixlen" }

instance : JsonCodec ReportedInterface where
  encode i := .object [("ifname", encode i.name), ("address", encode i.mac),
    ("addr_info", encode i.addresses)]
  decode json := do
    let record ← Record.ofJson ["ifname", "address", "addr_info"] json
    return {
      name := ← record.field "ifname"
      mac := ← record.fieldOr "address" none
      addresses := ← record.fieldOr "addr_info" [] }

instance : JsonCodec ReportedRoute where
  encode r := .object [("gateway", encode r.gateway), ("dev", encode r.device)]
  decode json := do
    let record ← Record.ofJson ["gateway", "dev"] json
    return {
      gateway := ← record.fieldOr "gateway" none
      device := ← record.fieldOr "dev" none }

/-- A document that stands in a text. -/
def decodeText {α : Type} [JsonCodec α] (text : String) : Decoded α := do
  decode (← Json.expect (Json.parse? text))

/-- An interface with the gateway of the first default route through it.  Only addresses of the
two internet families count. -/
def ReportedInterface.withRoutes (i : ReportedInterface) (routes : List ReportedRoute) :
    NetworkInterface where
  name := i.name
  mac := i.mac
  ips := (i.addresses.filter fun a => a.family = "inet" || a.family = "inet6").map fun a =>
    s!"{a.address}/{a.prefixLength.toNat}"
  gateway := (routes.find? (·.device = some i.name)).bind (·.gateway)

/-- The interfaces of a machine by name.  A blank report of the routes means that there are
none. -/
def networkOfReports (addresses routes : String) : Decoded (Dict NetworkInterface) := do
  let interfaces : List ReportedInterface ← decodeText addresses
  let routes : List ReportedRoute ←
    if Text.isBlankText routes then pure [] else decodeText routes
  let kept := interfaces.filter (·.name ≠ "lo")
  return Dict.ofList (kept.map fun i => (i.name, i.withRoutes routes))

/-- Processors and memory from a report whose first two lines that are not blank hold the number
of processors and the memory in KiB. -/
def Hardware.ofReport (report : String) : Option Hardware :=
  match ((Text.lines report.toList).map Text.trim).filter (!·.isEmpty) with
  | cores :: memory :: _ => do
    let cores ← Text.readNat UInt32.size cores
    let memory ← Text.readNat UInt64.size memory
    return ⟨cores.toUInt32, (memory / 1024).toUInt64⟩
  | _ => none

end ServerMigration
