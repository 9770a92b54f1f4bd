import ServerMigration.Cloud.Request
import ServerMigration.Cloud.Error
import ServerMigration.Rehearsal.Script
import ServerMigration.Text.Numeral
import ServerMigration.Text.Search

/-!
# A rehearsed datacenter

A datacenter that keeps servers in memory and goes wrong where a script says so.

## Main definitions

* `DatacenterScript` : what a script may lay down.
* `Datacenter` : the servers, and a record of all calls.
* `Datacenter.answer` : the answers to the calls.
* `callText`, `callServer` : a call in the record, and the server it is about.
-/

namespace ServerMigration.Rehearsal

/-- A failure of calls of one kind. -/
structure CallFailure where
  /-- The kind of the calls. -/
  call : String
  /-- The status that the provider reports. -/
  status : UInt16
  /-- What it says. -/
  reason : String
  deriving Repr, Inhabited

/-- What a script may lay down. -/
structure DatacenterScript where
  /-- The statuses of requests, one for each look at any of them; the last one stays. -/
  requestStatus : List String := []
  /-- What the provider says about requests. -/
  requestMessage : Option String := none
  /-- The first states of servers that are seen, one for each look. -/
  states : List String := []
  /-- How many looks at a server find it busy after it was told to change. -/
  transitionPolls : UInt64 := 0
  /-- The volumes of every server. -/
  volumes : Option (List VolumeInfo) := none
  /-- The network interfaces of every server. -/
  nics : Option (List NicInfo) := none
  /-- The addresses of servers by their name, in the order of their interfaces. -/
  addresses : Dict (List String) := []
  /-- Whether interfaces without fixed addresses stay without any. -/
  noAddresses : Bool := false
  /-- The calls that fail. -/
  failures : List (Scripted CallFailure) := []
  deriving Inhabited

/-- Reads a failure. -/
def CallFailure.ofJson (json : Json) : Decoded CallFailure :=
  return ⟨← required json "call", ← optional json "status" 0, ← optional json "message" ""⟩

/-- Reads a script. -/
def DatacenterScript.ofJson (json : Json) : Decoded DatacenterScript := do
  return {
    requestStatus := ← optional json "request_status" []
    requestMessage := ← optional json "request_message" none
    states := ← optional json "states" []
    transitionPolls := ← optional json "transition_polls" 0
    volumes := ← optional json "volumes" none
    nics := ← optional json "nics" none
    addresses := ← match json.field? "addresses" with
      | none | some .null => .ok []
      | some addresses => decodeDict addresses
    noAddresses := ← optional json "no_addresses" false
    failures := ← optionalList (scripted CallFailure.ofJson) json "fail" }

/-- A server. -/
structure Server where
  /-- Its state. -/
  state : String := "AVAILABLE"
  /-- The state that it is on its way to. -/
  pending : Option String := none
  /-- How many looks will still find it busy. -/
  busy : Nat := 0
  /-- Its volumes. -/
  volumes : List VolumeInfo := []
  /-- Its network interfaces. -/
  nics : List NicInfo := []
  deriving Inhabited

/-- A datacenter. -/
structure Datacenter where
  /-- What goes wrong. -/
  script : DatacenterScript := {}
  /-- The servers by identifier. -/
  servers : Dict Server := []
  /-- The calls so far. -/
  calls : List DatacenterCall := []
  /-- The requests for servers that were taken on. -/
  created : List ServerRequest := []
  deriving Inhabited

/-- The kind of a call and what it is about. -/
def callParts : DatacenterCall → String × List String
  | .createServer request => ("create_server", [request.name])
  | .requestStatus id => ("request_status", [id])
  | .serverState id => ("server_state", [id])
  | .listVolumes id => ("list_volumes", [id])
  | .listNics id => ("list_nics", [id])
  | .startServer id => ("start_server", [id])
  | .stopServer id => ("stop_server", [id])
  | .deleteServer id => ("delete_server", [id])
  | .deleteVolume id => ("delete_volume", [id])
  | .deleteNic server nic => ("delete_nic", [server, nic])
  | .setBootVolume server volume => ("set_boot_volume", [server, volume])

/-- A call in the record. -/
def callText (call : DatacenterCall) : String :=
  let (kind, parts) := callParts call
  " ".intercalate (kind :: parts)

/-- The identifier of the server of a name. -/
def serverId (name : String) : String := s!"srv-{name}"

/-- The identifier of the request for a server of a name. -/
def requestId (name : String) : String := s!"req-{name}"

/-- The server that a call is about. -/
def callServer : DatacenterCall → String
  | .createServer request => serverId request.name
  | .requestStatus id =>
    match Text.afterPrefix "req-".toList id.toList with
    | some name => serverId (.ofList name)
    | none => id
  | .deleteVolume id =>
    match id.splitOn "-vol-" with
    | server :: _ :: _ => server
    | _ => "?"
  | call => (callParts call).2.headD "?"

namespace Datacenter

/-- The volumes of a new server. -/
def newVolumes (server : String) (request : ServerRequest) : List VolumeInfo :=
  request.volumes.zipIdx.map fun (volume, i) =>
    { id := s!"{server}-vol-{i}", name := volume.name, sizeGib := volume.sizeGib,
      deviceNumber := some (i + 1).toUInt32 }

/-- The address that an interface is given. -/
def assignedAddress (script : DatacenterScript) (server : String) (i : Nat) : String :=
  match ((script.addresses.get? server).getD [])[i]? with
  | some address => address
  | none => if i = 0 then "10.9.0.5" else s!"192.168.7.{i + 19}"

/-- The network interfaces of a new server. -/
def newNics (script : DatacenterScript) (server : String) (request : ServerRequest) :
    List NicInfo :=
  request.nics.zipIdx.map fun (nic, i) =>
    { id := s!"{server}-nic-{i}", name := nic.name, lan := nic.lan,
      ips :=
        if nic.ips.isEmpty && !script.noAddresses then [assignedAddress script request.name i]
        else nic.ips,
      mac := some (.ofList ("02:01:de:ad:be:".toList ++ Text.hexByte i.toUInt8)) }

/-- Changes a server, which is made up if there is none. -/
def change (id : String) (f : Server → Server) : StateM Datacenter Unit :=
  modify fun d =>
    { d with servers := d.servers.insert id (f ((d.servers.get? id).getD {})) }

/-- Tells a server to go over to a state. -/
def tell (id : String) (target : Server → String) : StateM Datacenter Unit := do
  let polls := (← get).script.transitionPolls
  change id fun server =>
    { server with pending := some (target server), busy := polls.toNat, state := "BUSY" }

/-- Looks at the state of a server. -/
def look (id : String) : StateM Datacenter (Except CloudError String) := do
  let d ← get
  match takeNext false d.script.states with
  | (some state, states) =>
    set { d with script := { d.script with states } }
    return .ok state
  | (none, _) =>
    match d.servers.get? id with
    | none => return .error (.api 404 s!"server {id} not found")
    | some server =>
      let server :=
        if 0 < server.busy then { server with busy := server.busy - 1 }
        else { server with state := server.pending.getD server.state, pending := none }
      change id fun _ => server
      return .ok server.state

/-- The answer to a call that does not fail. -/
def perform : (call : DatacenterCall) → StateM Datacenter (Except CloudError call.Reply)
  | .createServer request => do
    let id := serverId request.name
    modify fun d => { d with
      created := d.created ++ [request]
      servers := d.servers.insert id
        { volumes := newVolumes id request, nics := newNics d.script id request } }
    return .ok ⟨id, requestId request.name⟩
  | .requestStatus _ => do
    let d ← get
    let (status, left) := takeNext true d.script.requestStatus
    set { d with script := { d.script with requestStatus := left } }
    return .ok ⟨status.getD "DONE", d.script.requestMessage⟩
  | .serverState id => look id
  | .listVolumes id => do
    let d ← get
    return .ok (d.script.volumes.getD (((d.servers.get? id).map (·.volumes)).getD []))
  | .listNics id => do
    let d ← get
    return .ok (d.script.nics.getD (((d.servers.get? id).map (·.nics)).getD []))
  | .startServer id => return .ok (← tell id fun _ => "AVAILABLE")
  | .stopServer id => return .ok (← tell id fun _ => "INACTIVE")
  | .setBootVolume id _ =>
    return .ok (← tell id fun server => server.pending.getD server.state)
  | .deleteServer id => do
    modify fun d => { d with servers := d.servers.filter (·.1 ≠ id) }
    return .ok ()
  | .deleteVolume volume => do
    modify fun d => { d with servers := d.servers.map fun (id, server) =>
      (id, { server with volumes := server.volumes.filter (·.id ≠ volume) }) }
    return .ok ()
  | .deleteNic _ nic => do
    modify fun d => { d with servers := d.servers.map fun (id, server) =>
      (id, { server with nics := server.nics.filter (·.id ≠ nic) }) }
    return .ok ()

/-- The answer to a call. -/
def answer (call : DatacenterCall) : StateM Datacenter (Except CloudError call.Reply) := do
  modify fun d => { d with calls := d.calls ++ [call] }
  let d ← get
  match useFirst (fun failure : CallFailure => failure.call = (callParts call).1)
    d.script.failures with
  | (some failure, failures) =>
    set { d with script := { d.script with failures } }
    return .error (.api failure.status failure.reason)
  | (none, _) => perform call

end Datacenter

end ServerMigration.Rehearsal
