import ServerMigration.Commander.Basic
import ServerMigration.Json.Codec

/-!
# Rehearsing a lifecycle

A commander over statuses that are plain texts, with commands, hooks and saves that do what a
script says, and a log of everything that was asked for.

## Main definitions

* `Job` : the entity.
* `StepScript` : what commands, hooks and saves do.
* `StepScript.answer` : the answers to the commander's questions.
-/

namespace ServerMigration.Rehearsal

/-- An entity that is nothing but its progress. -/
structure Job where
  /-- The current status. -/
  status : String
  /-- Whether the job sleeps. -/
  paused : Bool
  deriving DecidableEq, Repr, Inhabited

instance : Staged Job String Unit where
  status := Job.status
  isPaused := Job.paused
  setStatus _ s job := { job with status := s }
  setPaused _ paused job := { job with paused }

/-- What a command does on one run. -/
structure ScriptedRun where
  /-- The failures it collects first. -/
  errors : List (List String) := []
  /-- How it ends: plainly, with `sleep`, or with the name of an error. -/
  result : String := "ok"
  /-- The reason that goes with an error. -/
  reason : String := ""
  deriving Repr, Inhabited

instance : JsonCodec ScriptedRun where
  encode r := .object [("errors", encode r.errors), ("result", encode r.result),
    ("reason", encode r.reason)]
  decode json := do
    let record ← Record.ofJson ["errors", "result", "reason"] json
    return {
      errors := (← record.fieldOr "errors" none).getD []
      result := (← record.fieldOr "result" none).getD "ok"
      reason := (← record.fieldOr "reason" none).getD "" }

/-- A scripted command. -/
structure ScriptedCommand where
  /-- The command's name, if it is not derived from its status. -/
  name : Option String
  /-- What it does on its runs; the last one repeats. -/
  runs : List ScriptedRun
  deriving Repr, Inhabited

instance : JsonCodec ScriptedCommand where
  encode c := .object [("name", encode c.name), ("runs", encode c.runs)]
  decode json := do
    let record ← Record.ofJson ["name", "runs"] json
    return { name := ← record.fieldOr "name" none, runs := (← record.fieldOr "runs" none).getD [] }

/-- Failures by name, of which each use takes the first. -/
abbrev Failures : Type := Dict (List (Option String))

/-- What commands, hooks and saves do, and what has been asked for. -/
structure StepScript where
  /-- The commands by status. -/
  commands : Dict ScriptedCommand := []
  /-- The failures of hooks by event. -/
  hooks : Failures := []
  /-- The failures of transitions by new status. -/
  transitions : Failures := []
  /-- The failures of checkpoints by status. -/
  checkpoints : Failures := []
  /-- Whether there are hooks at all. -/
  hasHooks : Bool := true
  /-- Whether anything is saved at all. -/
  hasPersistence : Bool := true
  /-- What has been asked for, in order. -/
  events : List String := []
  deriving Inhabited

/-- The name of the command of a status. -/
def ScriptedCommand.nameAt (command : ScriptedCommand) (status : String) : String :=
  command.name.getD s!"Cmd-{status}"

/-- The command table of a script. -/
def StepScript.table (script : StepScript) : CommandTable String String :=
  ⟨script.commands.map fun (status, command) => (status, command.nameAt status)⟩

/-- The next failure under a name, and the failures that are left. -/
def takeFailure (failures : Failures) (name : String) : Option String × Failures :=
  match failures.get? name with
  | some (failure :: rest) => (failure, failures.insert name rest)
  | _ => (none, failures)

/-- The error that a script names. -/
def scriptedError (command : String) (run : ScriptedRun) : Option CommandError :=
  match run.result with
  | "precondition" => some (.precondition command run.reason)
  | "connection" => some (.remote (.connection "host" 1 run.reason))
  | "not_identified" => some (.mapping .notIdentified)
  | "api" => some (.cloud (.api 500 run.reason))
  | _ => none

/-- What a run of a command leaves behind. -/
def ScriptedRun.finish (run : ScriptedRun) (command : String) (job : Job) : CommandRun Job where
  entity := job
  errors := run.errors.foldl (fun errors pair =>
    StepErrors.record errors (pair.head?.getD "") (pair.getLast?.getD "")) []
  outcome := match scriptedError command run with
    | some error => .error error
    | none => .ok (if run.result = "sleep" then some .sleep else none)

/-- The first run of a command; the last one is never used up. -/
def takeRun : List ScriptedRun → ScriptedRun × List ScriptedRun
  | [] => ({}, [])
  | [run] => (run, [run])
  | run :: runs => (run, runs)

namespace StepScript

/-- Adds to the log. -/
def log (event : String) : StateM StepScript Unit :=
  modify fun script => { script with events := script.events ++ [event] }

/-- The status and pause flag of a job in the log. -/
def position (job : Job) : String :=
  s!"(at {job.status}, paused {job.paused})"

/-- Runs hooks. -/
def callHooks (event : String) : StateM StepScript (Except String Unit) := do
  if !(← get).hasHooks then return .ok ()
  log s!"hook {event}"
  let (failure, hooks) := takeFailure (← get).hooks event
  modify fun script => { script with hooks }
  return match failure with
    | some reason => .error reason
    | none => .ok ()

/-- Runs a command. -/
def perform (command : String) (job : Job) : StateM StepScript (CommandRun Job) := do
  log s!"run {command} at {job.status}"
  let scripted := ((← get).commands.get? job.status).getD ⟨none, []⟩
  let (run, runs) := takeRun scripted.runs
  modify fun script =>
    { script with commands := script.commands.insert job.status { scripted with runs } }
  return run.finish command job

/-- Saves after a command. -/
def checkpoint (job : Job) : StateM StepScript (Except PersistenceError Unit) := do
  if !(← get).hasPersistence then return .ok ()
  log s!"checkpoint {position job}"
  let (failure, checkpoints) := takeFailure (← get).checkpoints job.status
  modify fun script => { script with checkpoints }
  return match failure with
    | some reason => .error (.checkpointFailed "job" reason)
    | none => .ok ()

/-- Saves a transition. -/
def transition (old new : String) (job : Job) :
    StateM StepScript (Except PersistenceError Unit) := do
  if !(← get).hasPersistence then return .ok ()
  log s!"persist {old} -> {new} {position job}"
  let (failure, transitions) := takeFailure (← get).transitions new
  modify fun script => { script with transitions }
  return match failure with
    | some reason => .error (.transitionSaveFailed "job" reason)
    | none => .ok ()

/-- Answers a question of the commander. -/
def answer : (q : Commander.Ask String String Job) → StateM StepScript (Commander.Answer Unit q)
  | .clock => pure ()
  | .hooks phase status _ => callHooks (phase.eventName status)
  | .run command job => perform command job
  | .checkpoint job => checkpoint job
  | .transition old new job => transition old new job

/-- Runs a step of the commander. -/
def run {α : Type} (step : Commander.Step String String Job Unit α) (job : Job) :
    StateM StepScript (Except CommanderError α × Job) :=
  Program.run answer (step.run.run job)

end StepScript

end ServerMigration.Rehearsal
