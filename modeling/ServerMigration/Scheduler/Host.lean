import ServerMigration.Migration.Driving
import ServerMigration.Scheduler.Report

/-!
# The task of a source

A pass drives each of its sources in a task of its own.  The task ends with a report, unless it is
aborted; then the source is reported at the status at which its task began.

## Main definitions

* `HostTask`, `HostTask.runBy` : the task of a source, run by some crew.
* `HostTask.run` : the task of a source in a migration.
* `TaskEnd.report` : the report on a task that has ended.
-/

namespace ServerMigration

/-- The task of a source. -/
structure HostTask where
  /-- The source as the pass found it. -/
  source : Source
  /-- How it goes on. -/
  resume : Resume
  deriving Inhabited

/-- The outcome in a report. -/
def HostOutcome.ofResult (source : Source) :
    Except CommanderError (Outcome SourceStatus) → HostOutcome
  | .ok (.paused status) => .paused status
  | .ok (.completed _) => .completed
  | .error error => .failed source.status error.message

/-- The failure that an outcome leaves in the document. -/
def HostOutcome.lastError : HostOutcome → Option String
  | failed _ report => some report
  | _ => none

/-- Drives the source, saves its document with the failure, if any, and reports.  That the document
could not be saved does not change the report. -/
def HostTask.runBy {C : Type} [ToString C] (crew : Crew C) (task : HostTask) :
    Action HostReport := do
  let (result, source) ← crew.drive task.resume task.source
  let outcome := HostOutcome.ofResult source result
  let _ ← Action.store (.saveSource { source with lastError := outcome.lastError })
  return ⟨source.id, source.name, outcome⟩

/-- The task of a source, run by the crew of a migration. -/
def HostTask.run (provider : Provider) (task : HostTask) : Action HostReport :=
  task.runBy (migrationCrew provider)

/-- How a task ends. -/
inductive TaskEnd
  /-- With its report. -/
  | finished (report : HostReport)
  /-- Before it could report. -/
  | aborted (task : HostTask) (reason : String)

/-- The report on a task that has ended. -/
def TaskEnd.report : TaskEnd → HostReport
  | finished report => report
  | aborted task reason =>
    ⟨task.source.id, task.source.name,
      .failed task.source.status s!"migration task aborted: {reason}"⟩

end ServerMigration
