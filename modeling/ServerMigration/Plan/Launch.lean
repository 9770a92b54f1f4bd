import ServerMigration.Action

/-!
# Taking up a plan

## Main definitions

* `RunError` : why a run cannot be created or driven.
* `MigrationPlan.launch` : the run of a plan and its draft sources.
-/

namespace ServerMigration

/-- Why a run cannot be created or driven. -/
inductive RunError
  /-- The plan is not proper. -/
  | invalidPlan (reason : String)
  /-- The run has no time at which its targets take over. -/
  | noGoLiveTime (run : Uuid)
  /-- The clock did not come up to the go-live time, however long was slept. -/
  | clockStands (run : Uuid)
  /-- The store failed. -/
  | store (error : StoreError)
  deriving DecidableEq, Repr, Inhabited

/-- The name of an error's kind. -/
def RunError.kind : RunError → String
  | invalidPlan _ => "InvalidPlan"
  | noGoLiveTime _ => "Scheduler"
  | clockStands _ => "Scheduler"
  | store error => error.kind

/-- The text of an error. -/
def RunError.message : RunError → String
  | invalidPlan reason => s!"Invalid migration plan: {reason}"
  | noGoLiveTime run => s!"Scheduler error: run {run.text} has no go-live time"
  | clockStands run => s!"Scheduler error: the clock of run {run.text} does not advance"
  | store error => error.message

/-- The draft source of a plan's entry. -/
def SourcePlan.draft (runId : Uuid) (entry : SourcePlan) : Action Source := do
  let host := entry.remoteHost (← Action.freshId)
  let id ← Action.freshId
  return Source.draft id runId entry.name host { blueprint := entry.blueprint } (← Action.clock)

/-- The run of a plan and its draft sources. -/
def MigrationPlan.launch (plan : MigrationPlan) :
    Action (Except RunError (MigrationRun × List Source)) := do
  match plan.check with
  | .error reason => return .error (.invalidPlan reason)
  | .ok () =>
    let runId ← Action.freshId
    let sources ← plan.sources.mapM (SourcePlan.draft runId)
    let run : MigrationRun := {
      id := runId
      policy := plan.policy
      sourceIds := sources.map (·.id)
      createdAt := ← Action.clock }
    return .ok (run, sources)

end ServerMigration
