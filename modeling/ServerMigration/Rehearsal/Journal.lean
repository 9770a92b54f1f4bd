import ServerMigration.LogEvent
import ServerMigration.Rehearsal.Script

/-!
# Rehearsing the log

What is logged, in JSON.  The log has been set up once and for all, and setting it up again does
nothing.

## Main definitions

* `loggedOfJson` : the events of one call.
-/

namespace ServerMigration.Rehearsal

/-- The events of one call. -/
def loggedOfJson (json : Json) : Decoded (List LogEvent) := do
  let text (key : String) : Decoded String := optional json key ""
  let details : Decoded (Option String) := optional json "details" none
  match ← required json "do" with
  | "source_operation" =>
    return [.sourceOperation (← text "operation") (← text "source") (← text "status") (← details)]
  | "cloud_operation" =>
    return [.cloudOperation (← text "operation") .profitBricks (← text "subject")
      (← optional json "error" none)]
  | "error" =>
    return [.failure (← text "component") (← text "operation") (← text "error") (← details)]
  | "init" => return []
  | "init_with" =>
    let _ : LoggingConfig ← required json "config"
    return []
  | _ => .error .mismatch

end ServerMigration.Rehearsal
