import ServerMigration.Cloud.Error
import ServerMigration.Cloud.Request
import ServerMigration.Config.Basic
import ServerMigration.Json.Reader
import ServerMigration.Text.Base64
import ServerMigration.Text.Search

/-!
# The provider's interface

Every call to the datacenter is one request over HTTP and one reply.  Both directions are plain
functions: what a call sends, and how its reply is read.

## Main definitions

* `HttpRequest`, `HttpReply` : what goes over the wire.
* `DatacenterCall.request` : the request of a call.
* `DatacenterCall.read` : the result of a call, from the reply to it.
-/

namespace ServerMigration

/-- What a request does with a resource. -/
inductive HttpMethod
  | get
  | post
  | patch
  | delete
  deriving DecidableEq, Repr, Inhabited

/-- The name of a method. -/
def HttpMethod.name : HttpMethod → String
  | get => "GET"
  | post => "POST"
  | patch => "PATCH"
  | delete => "DELETE"

/-- A request. -/
structure HttpRequest where
  /-- What to do. -/
  method : HttpMethod
  /-- The address of the resource. -/
  url : String
  /-- The credentials. -/
  authorization : String
  /-- What is sent along. -/
  body : Option Json := none
  deriving Repr, Inhabited

/-- The name under which the client presents itself. -/
def HttpRequest.userAgent : String := "migrator-core-rs/0.1.0"

/-- The kind of what is sent along. -/
def HttpRequest.contentType (request : HttpRequest) : Option String :=
  request.body.map fun _ => "application/json"

/-- A reply. -/
structure HttpReply where
  /-- The status code. -/
  status : UInt16
  /-- Where to look for more. -/
  location : Option String := none
  /-- The content. -/
  body : String := ""
  deriving DecidableEq, Repr, Inhabited

/-- Whether the server did what it was asked. -/
def HttpReply.isSuccess (reply : HttpReply) : Bool :=
  200 ≤ reply.status && reply.status < 300

/-! ### Requests -/

namespace CloudConfig

/-- The endpoint without slashes at its end. -/
def base (config : CloudConfig) : String :=
  .ofList (config.endpoint.toList.reverse.dropWhile (· = '/')).reverse

/-- The address of something in the datacenter. -/
def urlInDatacenter (config : CloudConfig) (path : String) : String :=
  s!"{config.base}/datacenters/{config.datacenterId}{path}"

/-- The credentials of a request. -/
def authorization (config : CloudConfig) : String :=
  "Basic " ++ .ofList (Text.base64 (Text.encodeUtf8 s!"{config.username}:{config.password}"))

end CloudConfig

/-- A volume as the provider wants it described.  Only a volume made from an image takes keys; any
other needs a licence type. -/
def VolumeRequest.body (volume : VolumeRequest) : Json :=
  let basic := [("name", encode volume.name), ("size", encode volume.sizeGib),
    ("type", Json.string "HDD")]
  let origin := match volume.image with
    | some image => ("image", encode image)
      :: if volume.sshKeys.isEmpty then [] else [("sshKeys", encode volume.sshKeys)]
    | none => [("licenceType", .string "OTHER")]
  .object [("properties", .object (basic ++ origin))]

/-- An interface as the provider wants it described. -/
def NicRequest.body (nic : NicRequest) : Json :=
  let addresses := if nic.ips.isEmpty then [] else [("ips", encode nic.ips)]
  .object [("properties", .object ([("name", encode nic.name), ("lan", encode nic.lan)]
    ++ addresses))]

/-- A server as the provider wants it described. -/
def ServerRequest.body (server : ServerRequest) : Json :=
  let items (bodies : List Json) := Json.object [("items", .array bodies)]
  .object [
    ("properties", .object [("name", encode server.name), ("cores", encode server.cores),
      ("ram", encode server.ramMib)]),
    ("entities", .object [("volumes", items (server.volumes.map (·.body))),
      ("nics", items (server.nics.map (·.body)))])]

/-- The request of a call. -/
def DatacenterCall.request (config : CloudConfig) (call : DatacenterCall) : HttpRequest :=
  let send (method : HttpMethod) (url : String) (body : Option Json) : HttpRequest :=
    { method, url, authorization := config.authorization, body }
  let inDatacenter := config.urlInDatacenter
  match call with
  | .createServer server => send .post (inDatacenter "/servers") (some server.body)
  | .requestStatus id => send .get s!"{config.base}/requests/{id}/status" none
  | .serverState id => send .get (inDatacenter s!"/servers/{id}") none
  | .listVolumes id => send .get (inDatacenter s!"/servers/{id}/volumes?depth=1") none
  | .listNics id => send .get (inDatacenter s!"/servers/{id}/nics?depth=1") none
  | .startServer id => send .post (inDatacenter s!"/servers/{id}/start") none
  | .stopServer id => send .post (inDatacenter s!"/servers/{id}/stop") none
  | .deleteServer id => send .delete (inDatacenter s!"/servers/{id}") none
  | .deleteVolume id => send .delete (inDatacenter s!"/volumes/{id}") none
  | .deleteNic server id => send .delete (inDatacenter s!"/servers/{server}/nics/{id}") none
  | .setBootVolume server id =>
    send .patch (inDatacenter s!"/servers/{server}")
      (some (.object [("bootVolume", .object [("id", encode id)])]))

/-! ### Replies -/

/-- What the provider says about the state of something. -/
structure Standing where
  /-- The state of a resource. -/
  state : Option String
  /-- The status of a request. -/
  status : Option String
  /-- A text for people. -/
  message : Option String
  deriving DecidableEq, Repr, Inhabited

/-- A resource: its identifier, its standing, and its properties. -/
structure Resource (α : Type) where
  /-- The identifier. -/
  id : String
  /-- The standing, if the provider tells it. -/
  metadata : Option Standing
  /-- The properties. -/
  properties : α

namespace Rest

/-- Reads a part that has to be there. -/
def part {α : Type} (record : Record) (name : String) (read : Json → Decoded α) : Decoded α := do
  read (← Json.expect (record.fields.lookup name))

/-- Reads a standing. -/
def standing (json : Json) : Decoded Standing := do
  let record ← Record.ofJson ["state", "status", "message"] json
  return {
    state := ← record.fieldOr "state" none
    status := ← record.fieldOr "status" none
    message := ← record.fieldOr "message" none }

/-- Reads a resource. -/
def resource {α : Type} (properties : Json → Decoded α) (json : Json) : Decoded (Resource α) := do
  let record ← Record.ofJson ["id", "metadata", "properties"] json
  return {
    id := ← record.field "id"
    metadata := ← match record.fields.lookup "metadata" with
      | none | some .null => pure none
      | some json => some <$> standing json
    properties := ← part record "properties" properties }

/-- Reads the resources of a collection; without any it may lack its items. -/
def collection {α : Type} (properties : Json → Decoded α) (json : Json) :
    Decoded (List (Resource α)) := do
  let record ← Record.ofJson ["items"] json
  match record.fields.lookup "items" with
  | none => return []
  | some (.array items) => items.mapM (resource properties)
  | some _ => .error .mismatch

/-- Reads a server, of whose properties none matters. -/
def server (json : Json) : Decoded (Resource Unit) :=
  resource (fun properties => do let _ ← Record.ofJson [] properties) json

/-- The least whole number of GiB that is not below a size, within what sixty-four bits hold. -/
def wholeGib : Json.Number → UInt64
  | .whole n => n.toNat.toUInt64.toFloat.toUInt64
  | .double bits => (Float.ofBits bits).ceil.toUInt64

/-- Reads the properties of a volume, and gives the volume for its identifier. -/
def readVolume (json : Json) : Decoded (String → VolumeInfo) := do
  let record ← Record.ofJson ["name", "size", "deviceNumber"] json
  let name : Option String ← record.fieldOr "name" none
  let sizeGib ← match record.fields.lookup "size" with
    | none => pure 0
    | some (.number size) => pure (wholeGib size)
    | some _ => .error .mismatch
  let deviceNumber ← record.fieldOr "deviceNumber" none
  return fun id => { id, name := name.getD "", sizeGib, deviceNumber }

/-- Reads the properties of an interface, and gives the interface for its identifier. -/
def readNic (json : Json) : Decoded (String → NicInfo) := do
  let record ← Record.ofJson ["name", "lan", "ips", "mac"] json
  let name : Option String ← record.fieldOr "name" none
  let lan ← record.fieldOr "lan" 0
  let ips ← record.fieldOr "ips" []
  let mac ← record.fieldOr "mac" none
  return fun id => { id, name := name.getD "", lan, ips, mac }

/-- The identifier of a request in the address of its status: the segment after the first one
that is `requests`. -/
def requestId? (location : String) : Option String :=
  match (Text.splitOn '/' location.toList).dropWhile (· ≠ "requests".toList) with
  | _ :: id :: _ => if id.isEmpty then none else some (.ofList id)
  | _ => none

/-- Whether a character may stand in a header that is read as text. -/
def isHeaderChar (c : Char) : Bool :=
  c = '\t' || (0x20 ≤ c.toNat && c.toNat < 0x7F)

/-- The content of a reply. -/
def content {α : Type} (reply : HttpReply) (read : Json → Decoded α) : Except CloudError α :=
  match Json.parse? reply.body with
  | none => .error .http
  | some json =>
    match read json with
    | .ok a => .ok a
    | .error _ => .error .http

/-- A text that has to be there. -/
def need (field : String) : Option String → Except CloudError String
  | some text => .ok text
  | none => .error (.invalidResponse field "missing")

end Rest

open Rest in
/-- The result of a call, from a reply that is a success. -/
def DatacenterCall.readSuccess (reply : HttpReply) :
    (call : DatacenterCall) → Except CloudError call.Reply
  | .createServer _ => do
    let location := reply.location.filter (·.toList.all isHeaderChar)
    match location.bind requestId? with
    | none => .error (.invalidResponse "Location" "missing request status link")
    | some requestId => return { id := (← content reply server).id, requestId }
  | .requestStatus _ => do
    let record ← content reply fun json => do
      part (← Record.ofJson ["metadata"] json) "metadata" standing
    return { status := ← need "metadata.status" record.status, message := record.message }
  | .serverState _ => do
    need "metadata.state" ((← content reply server).metadata.bind (·.state))
  | .listVolumes _ => do
    let volumes ← content reply (collection readVolume)
    return volumes.map fun volume => volume.properties volume.id
  | .listNics _ => do
    let nics ← content reply (collection readNic)
    return nics.map fun nic => nic.properties nic.id
  | .startServer _ | .stopServer _ | .deleteServer _ | .deleteVolume _ | .deleteNic .. =>
    return ()
  | .setBootVolume .. => return ()

/-- The result of a call, from the reply to it. -/
def DatacenterCall.read (call : DatacenterCall) (reply : HttpReply) :
    Except CloudError call.Reply :=
  if reply.isSuccess then call.readSuccess reply
  else .error (.api reply.status reply.body)

end ServerMigration
