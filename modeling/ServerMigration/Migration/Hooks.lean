import ServerMigration.Action
import ServerMigration.Json.Writer
import ServerMigration.Mapping.Error
import ServerMigration.Text.Quoted

/-!
# Hook scripts

A blueprint binds scripts to the events before and after a step.  A script finds out about the
migration from a JSON document in its environment.  All scripts of an event run, and the failures
of those that fail are reported together.

## Main definitions

* `eventDocument`, `scriptCommand` : the document, and the command that runs a script.
* `runScripts` : runs the scripts of an event.
-/

namespace ServerMigration

/-- The environment variable that carries the document. -/
def documentVariable : String := "MIGRATION_CONTEXT"

/-- The document of an event. -/
def eventDocument (source : Source) (event : String) : Json :=
  let target := source.target.remoteHost
  .object [
    ("event", .string event),
    ("run_id", encode source.runId),
    ("source", .object [
      ("address", .string source.remoteHost.address),
      ("id", encode source.id),
      ("name", .string source.name),
      ("os", encode source.remoteHost.os),
      ("status", encode source.status)]),
    ("target", .object [
      ("address", encode (target.map (·.address))),
      ("server_id", encode ((target.bind (·.cloudMetadata)).map (·.serverId)))])]

/-- The command that runs a script with a document in its environment. -/
def scriptCommand (script : String) (context : Json) : String :=
  s!"{documentVariable}={Text.shellWord context.compact} sh -c {Text.shellWord script}"

/-- The host that a hook runs on. -/
def hookHost (source : Source) (hook : HookSpec) : Except String RemoteHost :=
  match hook.location, source.target.remoteHost with
  | .source, _ => .ok source.remoteHost
  | .target, some host => .ok host
  | .target, none => .error s!"{hook.event} hook on target: target has not been provisioned"

/-- Runs a hook. -/
def runScript (source : Source) (context : Json) (hook : HookSpec) :
    Action (Except String Unit) := do
  match hookHost source hook with
  | .error failure => return .error failure
  | .ok host =>
    match ← Action.remote host (scriptCommand hook.script context) with
    | .ok _ => return .ok ()
    | .error error =>
      return .error s!"{hook.event} hook on {host.displayName}: {error.message}"

/-- The failures of some results, in order. -/
def failuresOf {ε α : Type} (results : List (Except ε α)) : List ε :=
  results.filterMap fun
    | .ok _ => none
    | .error e => some e

/-- Runs all hooks of an event and reports the failures of those that fail. -/
def runScripts (source : Source) (phase : HookPhase) (status : SourceStatus) :
    Action (Except String Unit) := do
  let event := phase.eventName status.name
  let hooks := source.target.blueprint.hooksOn phase status.name
  let results ← hooks.mapM (runScript source (eventDocument source event))
  match failuresOf results with
  | [] => return .ok ()
  | failures => return .error (joinReport failures)

end ServerMigration
