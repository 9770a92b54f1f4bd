import ServerMigration.CloudMetadata

/-!
# Requests to the datacenter

What the migration asks of a datacenter, and the answers to it.

## Main definitions

* `ServerRequest` : a server to create, with its volumes and network interfaces.
* `DatacenterCall`, `DatacenterCall.Reply` : the calls and what each of them returns.
-/

namespace ServerMigration

/-- A volume to create. -/
structure VolumeRequest where
  /-- The volume's name. -/
  name : String
  /-- The size in GiB. -/
  sizeGib : UInt64
  /-- The image to create it from; without one it is empty. -/
  image : Option String
  /-- The keys that may log in on a volume made from an image. -/
  sshKeys : List String
  deriving DecidableEq, Repr, Inhabited

instance : JsonCodec VolumeRequest where
  encode v := .object [("name", encode v.name), ("size_gib", encode v.sizeGib),
    ("image", encode v.image), ("ssh_keys", encode v.sshKeys)]
  decode json := do
    let record ← Record.ofJson ["name", "size_gib", "image", "ssh_keys"] json
    return {
      name := ← record.field "name"
      sizeGib := ← record.field "size_gib"
      image := ← record.field? "image"
      sshKeys := ← record.field "ssh_keys" }

/-- A network interface to create. -/
structure NicRequest where
  /-- The interface's name. -/
  name : String
  /-- The LAN to attach it to. -/
  lan : UInt32
  /-- Fixed addresses; with none the provider assigns one. -/
  ips : List String
  deriving DecidableEq, Repr, Inhabited

instance : JsonCodec NicRequest where
  encode n := .object [("name", encode n.name), ("lan", encode n.lan), ("ips", encode n.ips)]
  decode json := do
    let record ← Record.ofJson ["name", "lan", "ips"] json
    return {
      name := ← record.field "name"
      lan := ← record.field "lan"
      ips := ← record.field "ips" }

/-- A server to create. -/
structure ServerRequest where
  /-- The server's name. -/
  name : String
  /-- The number of processors. -/
  cores : UInt32
  /-- The memory in MiB. -/
  ramMib : UInt64
  /-- The volumes in order of attachment. -/
  volumes : List VolumeRequest
  /-- The network interfaces. -/
  nics : List NicRequest
  deriving DecidableEq, Repr, Inhabited

instance : JsonCodec ServerRequest where
  encode s := .object [("name", encode s.name), ("cores", encode s.cores),
    ("ram_mib", encode s.ramMib), ("volumes", encode s.volumes), ("nics", encode s.nics)]
  decode json := do
    let record ← Record.ofJson ["name", "cores", "ram_mib", "volumes", "nics"] json
    return {
      name := ← record.field "name"
      cores := ← record.field "cores"
      ramMib := ← record.field "ram_mib"
      volumes := ← record.field "volumes"
      nics := ← record.field "nics" }

/-- A server creation that the provider has taken on. -/
structure Accepted where
  /-- The identifier of the server. -/
  id : String
  /-- The identifier of the request, whose status tells when the server is there. -/
  requestId : String
  deriving DecidableEq, Repr, Inhabited

/-- How far a request has come. -/
structure RequestStatus where
  /-- `QUEUED`, `RUNNING`, `DONE` or `FAILED`. -/
  status : String
  /-- What the provider says about it. -/
  message : Option String
  deriving DecidableEq, Repr, Inhabited

/-- A call to the datacenter. -/
inductive DatacenterCall
  | createServer (request : ServerRequest)
  | requestStatus (requestId : String)
  /-- Asks for the state of a server: `AVAILABLE`, `BUSY`, `INACTIVE` or another. -/
  | serverState (serverId : String)
  | listVolumes (serverId : String)
  | listNics (serverId : String)
  | startServer (serverId : String)
  | stopServer (serverId : String)
  | deleteServer (serverId : String)
  | deleteVolume (volumeId : String)
  | deleteNic (serverId nicId : String)
  | setBootVolume (serverId volumeId : String)
  deriving DecidableEq, Repr

/-- What a call returns when it succeeds. -/
@[reducible] def DatacenterCall.Reply : DatacenterCall → Type
  | createServer _ => Accepted
  | requestStatus _ => RequestStatus
  | serverState _ => String
  | listVolumes _ => List VolumeInfo
  | listNics _ => List NicInfo
  | _ => Unit

end ServerMigration
