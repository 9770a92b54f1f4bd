import ServerMigration.Config.Basic
import ServerMigration.Plan.Launch
import ServerMigration.Scheduler.Pass

/-!
# Runs

A run takes its sources from draft to their first pause at `sync`, synchronises them again while
they wait there, and lets the targets take over.

## Main definitions

* `openRun` : takes up a plan and saves its documents.
* `migrate`, `resync`, `goLive` : the passes over a run.
* `goLiveInTime` : synchronises again until it is time to go live.
-/

namespace ServerMigration.Scheduler

/-- Computations over a run, which may fail. -/
abbrev RunStep (α : Type) : Type := ExceptT RunError (Program Ask Answer) α

/-- Deals with the surroundings of a migration. -/
def ofAction {α : Type} (action : Action α) : RunStep α := ExceptT.lift (site action)

/-- Calls the store. -/
def ofStore (call : StoreCall) : RunStep call.Reply := do
  match ← ofAction (Action.store call) with
  | .ok reply => return reply
  | .error error => throw (.store error)

/-- Saves the documents of some sources. -/
def saveSources : List Source → RunStep Unit
  | [] => return ()
  | source :: sources => do
    ofStore (.saveSource source)
    saveSources sources

/-- Takes up a plan and saves its sources and the run. -/
def openRun (plan : MigrationPlan) : RunStep MigrationRun := do
  match ← ofAction plan.launch with
  | .error error => throw error
  | .ok (run, sources) =>
    saveSources sources
    ofStore (.saveRun run)
    return run

/-- Drives some sources of a run, as many of them at once as the run and the configuration
allow. -/
def drive (config : SchedulerConfig) (run : MigrationRun) (resume : Resume)
    (sources : List Source) : Schedule PassReport :=
  pass (config.admissionLimit run.policy.simultaneousMigrations).toNat resume sources

/-- A pass over the selected sources of a run. -/
def passOver (config : SchedulerConfig) (run : MigrationRun) (selected : Source → Bool)
    (resume : Resume) : RunStep PassReport := do
  let sources ← ofStore (.sourcesOfRun run.id)
  ExceptT.lift (drive config run resume (sources.filter selected))

/-- Takes every draft source to its first pause. -/
def migrate (config : SchedulerConfig) (run : MigrationRun) : RunStep PassReport :=
  passOver config run (·.status = .draft) .execute

/-- Lets the targets of all sources that sleep at `sync` take over. -/
def goLive (config : SchedulerConfig) (run : MigrationRun) : RunStep PassReport :=
  passOver config run Source.waitsAtSync .advance

/-- Synchronises every source at `sync` again, also one whose latest synchronisation failed. -/
def resync (config : SchedulerConfig) (run : MigrationRun) : RunStep PassReport :=
  passOver config run Source.isAtSync .again

/-- The time that is left until the targets take over. -/
def timeLeft (goLiveAt : Instant) : RunStep Duration := do
  return (← ofAction Action.clock).timeUntil goLiveAt

/-- Synchronises again at a fixed interval until no time is left.  After so many rounds a clock
that runs has come there. -/
def waitRounds (config : SchedulerConfig) (run : MigrationRun) (goLiveAt : Instant) :
    (rounds : Nat) → (left : Duration) → RunStep Unit
  | rounds, left => do
    if left.nanoseconds = 0 then return ()
    match rounds with
    | 0 => throw (.clockStands run.id)
    | rounds + 1 =>
      match run.policy.syncInterval.filter (· < left) with
      | some interval =>
        ofAction (Action.sleep interval)
        let _ ← resync config run
      | none => ofAction (Action.sleep left)
      waitRounds config run goLiveAt rounds (← timeLeft goLiveAt)

/-- The number of rounds in which a clock that runs comes to the go-live time: one for each
interval, and one for what is left. -/
def roundsFor (policy : RunPolicy) (left : Duration) : Nat :=
  match policy.syncInterval with
  | some interval => left.nanoseconds / interval.nanoseconds + 1
  | none => 1

/-- Synchronises again until it is time to go live, and then goes live. -/
def goLiveInTime (config : SchedulerConfig) (run : MigrationRun) : RunStep PassReport := do
  match run.policy.goLiveAt with
  | none => throw (.noGoLiveTime run.id)
  | some goLiveAt =>
    let left ← timeLeft goLiveAt
    waitRounds config run goLiveAt (roundsFor run.policy left) left
    goLive config run

end ServerMigration.Scheduler
