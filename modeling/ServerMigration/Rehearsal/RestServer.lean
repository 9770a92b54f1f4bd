import ServerMigration.Cloud.Rest
import ServerMigration.Cloud.Url
import ServerMigration.Json.Writer
import ServerMigration.Rehearsal.Script

/-!
# A rehearsed server of the provider

A server that gives every request a scripted reply, and tells what it was asked.

## Main definitions

* `ServerReply` : what the server does with a request.
* `ServerReply.meet` : a call to the server.
* `meetJson` : a call to the server, and what it was asked, in JSON.
-/

namespace ServerMigration.Rehearsal

/-- What the server does with a request. -/
inductive ServerReply
  /-- It does not take the connection. -/
  | refuse
  /-- It takes the request and closes the connection. -/
  | hangUp
  /-- It replies. -/
  | reply (reply : HttpReply)
  deriving Repr, Inhabited

/-- The content of a scripted reply: a text, or any value, which is sent in the compact form. -/
def bodyOfJson : Option Json → String
  | none | some .null => ""
  | some (.string body) => body
  | some body => body.compact

/-- What arrives of a status and a body.  Some statuses rule out a body, some announce another
reply, which does not come, and some are no statuses. -/
def ServerReply.ofReply (reply : HttpReply) : ServerReply :=
  if reply.status = 101 ∨ reply.status = 204 ∨ reply.status = 304 then
    .reply { reply with body := "" }
  else if reply.status < 200 ∨ 1000 ≤ reply.status then .hangUp
  else .reply reply

/-- Reads what the server does. -/
def ServerReply.ofJson (json : Json) : Decoded ServerReply := do
  let refuse ← optional json "refuse" false
  let drop ← optional json "drop" false
  let status ← optional json "status" 200
  let location ← optional json "location" none
  if refuse then return .refuse
  if drop then return .hangUp
  return .ofReply { status, location, body := bodyOfJson (json.field? "body") }

/-- Reads a call. -/
def callOfJson (json : Json) : Decoded DatacenterCall := do
  let server := required json "server"
  let id := required json "id"
  match ← required json "do" with
  | "create_server" => return .createServer (← required json "request")
  | "request_status" => return .requestStatus (← id)
  | "server_state" => return .serverState (← server)
  | "list_volumes" => return .listVolumes (← server)
  | "list_nics" => return .listNics (← server)
  | "start_server" => return .startServer (← server)
  | "stop_server" => return .stopServer (← server)
  | "delete_server" => return .deleteServer (← server)
  | "delete_volume" => return .deleteVolume (← id)
  | "delete_nic" => return .deleteNic (← server) (← id)
  | "set_boot_volume" => return .setBootVolume (← server) (← id)
  | _ => .error .mismatch

/-- The name and port of the server. -/
def serverAddress : String := "http://rehearsal"

/-- Reads the configuration of a client of the server. -/
def clientOfJson (json : Json) : Decoded CloudConfig := return {
  endpoint := serverAddress ++ (← optional json "base_path" "")
  datacenterId := ← optional json "datacenter_id" ""
  username := ← optional json "username" ""
  password := ← optional json "password" "" }

/-- Makes a call.  The server sees the request unless it refuses the connection or the address
does not lead to it; what it sees is the request and its target. -/
def ServerReply.meet (config : CloudConfig) (call : DatacenterCall) (server : ServerReply) :
    Except CloudError call.Reply × Option (HttpRequest × String) :=
  let request := call.request config
  let target := (Text.afterPrefix serverAddress.toList request.url.toList).bind
    fun rest => Url.target? (.ofList rest)
  match target, server with
  | none, _ | _, .refuse => (.error .http, none)
  | some target, .hangUp => (.error .http, some (request, target))
  | some target, .reply arrived => (call.read arrived, some (request, target))

/-- A request in JSON. -/
def requestJson (request : HttpRequest) (target : String) : Json := .object [
  ("method", encode request.method.name), ("path", encode target),
  ("authorization", encode request.authorization), ("user_agent", encode HttpRequest.userAgent),
  ("content_type", encode request.contentType), ("body", request.body.getD .null)]

/-- The result of a call in JSON. -/
def replyJson : (call : DatacenterCall) → call.Reply → Json
  | .createServer _, reply =>
    .object [("id", encode reply.id), ("request_id", encode reply.requestId)]
  | .requestStatus _, reply =>
    .object [("status", encode reply.status), ("message", encode reply.message)]
  | .serverState _, state => .string state
  | .listVolumes _, volumes => encode volumes
  | .listNics _, nics => encode nics
  | _, _ => .string "ok"

/-- Makes a scripted call: its result, and what the server saw. -/
def meetJson (config : CloudConfig) (json : Json) : Decoded (Except CloudError Json × Json) := do
  let call ← callOfJson json
  let server ← ServerReply.ofJson ((json.field? "reply").getD .null)
  let (result, seen) := server.meet config call
  return (result.map (replyJson call),
    .array (seen.toList.map fun (request, target) => requestJson request target))

end ServerMigration.Rehearsal
