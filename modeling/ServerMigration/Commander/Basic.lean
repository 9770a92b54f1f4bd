import ServerMigration.Commander.CommandTable
import ServerMigration.Commander.StepErrors
import ServerMigration.Lifecycle.HookPhase
import ServerMigration.Lifecycle.StatusLifecycle
import ServerMigration.Program

/-!
# The commander

The commander takes an entity through its lifecycle.  At every status it runs the command that is
bound to it, between hooks, and saves a checkpoint; then it moves the entity to the next status
and saves that transition.  It stops at the final status, when a command asks to sleep, and when
anything fails.  A status without a command is passed without any effect.

An entity that sleeps is paused.  Executing a paused entity does nothing; it goes on when it is
moved to the next status or when its status is repeated.

What a hook, a command or a save does is up to the surroundings: the commander is a program that
asks for them.

## Main definitions

* `Staged` : entities with a status and a pause flag.
* `Commander.Ask`, `Commander.Answer` : what the commander asks for.
* `Commander` : a lifecycle with a command table over it.
* `Commander.execute`, `Commander.incrementAndExecute`, `Commander.repeatAndExecute`.
* `Resume`, `Commander.drive` : the way that the commander takes.
-/

namespace ServerMigration

/-- Entities whose progress is a status; `T` are the times with which changes are stamped. -/
class Staged (E : Type) (S T : outParam Type) where
  /-- The current status. -/
  status : E → S
  /-- Whether the command of the current status asked to sleep. -/
  isPaused : E → Bool
  /-- Moves to a status at some time. -/
  setStatus : T → S → E → E
  /-- Sets the pause flag at some time. -/
  setPaused : T → Bool → E → E
  /-- What is set as the status is the status. -/
  status_setStatus : ∀ time s entity, status (setStatus time s entity) = s := by intros; rfl
  /-- Moving to a status leaves the pause flag alone. -/
  isPaused_setStatus :
    ∀ time s entity, isPaused (setStatus time s entity) = isPaused entity := by intros; rfl
  /-- Setting the pause flag leaves the status alone. -/
  status_setPaused :
    ∀ time paused entity, status (setPaused time paused entity) = status entity := by intros; rfl
  /-- What is set as the pause flag is the pause flag. -/
  isPaused_setPaused :
    ∀ time paused entity, isPaused (setPaused time paused entity) = paused := by intros; rfl

attribute [simp] Staged.status_setStatus Staged.isPaused_setStatus Staged.status_setPaused
  Staged.isPaused_setPaused

/-- Why a save was refused. -/
inductive PersistenceError
  /-- The entity could not be saved at its new status. -/
  | transitionSaveFailed (entity reason : String)
  /-- The entity could not be saved after a command. -/
  | checkpointFailed (entity reason : String)
  deriving DecidableEq, Repr, Inhabited

/-- The name of an error's kind. -/
def PersistenceError.kind : PersistenceError → String
  | transitionSaveFailed .. => "TransitionSaveFailed"
  | checkpointFailed .. => "CheckpointFailed"

/-- The text of an error. -/
def PersistenceError.message : PersistenceError → String
  | transitionSaveFailed entity reason => s!"Failed to save transition for {entity}: {reason}"
  | checkpointFailed entity reason => s!"Failed to checkpoint {entity}: {reason}"

/-- Why the commander stopped. -/
inductive CommanderError
  /-- The status is not in the lifecycle, or there is none behind it. -/
  | lifecycle (error : LifecycleError)
  /-- The command of a status failed. -/
  | commandFailed (status : String) (error : CommandError)
  /-- A hook around the command of a status failed. -/
  | hookFailed (status : String) (phase : HookPhase) (reason : String)
  /-- A save was refused. -/
  | persistence (error : PersistenceError)
  /-- Commands have led the entity back over and over, at last to this status. -/
  | restless (status : String)
  deriving DecidableEq, Repr, Inhabited

/-- The name of an error's kind. -/
def CommanderError.kind : CommanderError → String
  | lifecycle error => error.kind
  | commandFailed .. => "CommandFailed"
  | hookFailed .. => "HookFailed"
  | persistence error => error.kind
  | restless _ => "Restless"

/-- The text of an error. -/
def CommanderError.message : CommanderError → String
  | lifecycle error => error.message
  | commandFailed status error =>
    "Command for status '" ++ status ++ "' failed: " ++ error.message
  | hookFailed status phase reason =>
    phase.name ++ " hook for status '" ++ status ++ "' failed: " ++ reason
  | persistence error => error.message
  | restless status => "Commands led the entity back to status '" ++ status ++ "' over and over"

/-- Where the commander stopped. -/
inductive Outcome (S : Type)
  /-- A command asked to sleep at this status. -/
  | paused (status : S)
  /-- The final status is reached and its command, if any, has run. -/
  | completed (status : S)
  deriving DecidableEq, Repr, Inhabited

/-- How an entity goes on. -/
inductive Resume
  /-- From its current status. -/
  | execute
  /-- From the status behind its current one. -/
  | advance
  /-- From its current status, even if it sleeps there. -/
  | again
  deriving DecidableEq, Repr, Inhabited

/-- What the run of a command leaves behind. -/
structure CommandRun (E : Type) where
  /-- The entity after the run. -/
  entity : E
  /-- The failures that the command collected. -/
  errors : StepErrors
  /-- How the command ended. -/
  outcome : Except CommandError (Option Signal)

/-- A lifecycle and the commands bound to its statuses. -/
structure Commander (S C : Type) where
  /-- The lifecycle. -/
  lifecycle : StatusLifecycle S
  /-- The bound commands. -/
  commands : CommandTable S C
  /-- Every bound status is one of the lifecycle's. -/
  known : ∀ s ∈ commands.statuses, s ∈ lifecycle.statuses

namespace Commander

/-- What the commander asks for. -/
inductive Ask (S C E : Type)
  /-- The time. -/
  | clock
  /-- Run the hooks of a phase at a status. -/
  | hooks (phase : HookPhase) (status : S) (entity : E)
  /-- Run a command. -/
  | run (command : C) (entity : E)
  /-- Save the entity after a command. -/
  | checkpoint (entity : E)
  /-- Save the entity, which has moved from one status to the next. -/
  | transition (old new : S) (entity : E)

/-- The answers to what the commander asks for. -/
@[reducible] def Answer {S C E : Type} (T : Type) : Ask S C E → Type
  | .clock => T
  | .hooks .. => Except String Unit
  | .run .. => CommandRun E
  | .checkpoint _ => Except PersistenceError Unit
  | .transition .. => Except PersistenceError Unit

variable {S C E T : Type}

/-- Steps of the commander: they change the entity and may stop with an error. -/
abbrev Step (S C E T α : Type) : Type :=
  ExceptT CommanderError (StateT E (Program (Ask S C E) (Answer T))) α

/-- Puts a question. -/
def ask (q : Ask S C E) : Step S C E T (Answer T q) :=
  ExceptT.lift (StateT.lift (Program.request q))

/-- Stops with the error of a lookup in the lifecycle. -/
def ofLifecycle {α : Type} : Except LifecycleError α → Step S C E T α
  | .ok a => pure a
  | .error e => throw (.lifecycle e)

variable [DecidableEq S] [ToString S] [ToString C] [Staged E S T]

/-- The commander of a lifecycle and a table; every bound status has to be in the lifecycle. -/
def ofTable (lifecycle : StatusLifecycle S) (commands : CommandTable S C) :
    Except LifecycleError (Commander S C) :=
  match h : commands.statuses.find? fun s => !lifecycle.contains s with
  | some s => .error (.unknownStatus (toString s))
  | none => .ok ⟨lifecycle, commands, by
      intro s hs
      simpa [StatusLifecycle.contains] using List.find?_eq_none.1 h s hs⟩

/-- Moves the entity to a status. -/
def setStatus (s : S) : Step S C E T Unit := do
  let time ← ask .clock
  modify (Staged.setStatus time s)

/-- Sets the pause flag of the entity. -/
def setPaused (paused : Bool) : Step S C E T Unit := do
  let time ← ask .clock
  modify (Staged.setPaused time paused)

/-- Runs the hooks of a phase. -/
def callHooks (phase : HookPhase) (s : S) : Step S C E T Unit := do
  match ← ask (.hooks phase s (← get)) with
  | .ok () => pure ()
  | .error reason => throw (.hookFailed (toString s) phase reason)

/-- How a command ended, with the failures it collected: an error behind such failures becomes the
last of them. -/
def settle (command : String) (errors : StepErrors)
    (outcome : Except CommandError (Option Signal)) : Except CommandError (Option Signal) :=
  match outcome with
  | .ok signal => (errors.toExcept command).map fun () => signal
  | .error fatal =>
    if errors.isEmpty then .error fatal
    else ((errors.record "aborted" fatal.message).toExcept command).map fun () => none

/-- Pauses the entity if its command has ended well and asks to sleep. -/
def pauseOn : Except CommandError (Option Signal) → Step S C E T Unit
  | .ok (some .sleep) => setPaused true
  | _ => pure ()

/-- Runs the hooks behind a command; an entity whose hooks fail is not paused. -/
def callAfterHooks (s : S) : Step S C E T Unit := do
  match ← ask (.hooks .after s (← get)) with
  | .ok () => pure ()
  | .error reason =>
    setPaused false
    throw (.hookFailed (toString s) .after reason)

/-- Runs a command at a status: its hooks before, the command, a checkpoint, its hooks after.  A
checkpoint that is refused matters only if the command succeeded. -/
def perform (s : S) (command : C) : Step S C E T (Option Signal) := do
  callHooks .before s
  let run ← ask (.run command (← get))
  set run.entity
  let verdict := settle (toString command) run.errors run.outcome
  pauseOn verdict
  match verdict, ← ask (.checkpoint (← get)) with
  | .error error, _ => throw (.commandFailed (toString s) error)
  | .ok _, .error refusal => throw (.persistence refusal)
  | .ok signal, .ok () =>
    callAfterHooks s
    return signal

/-- Runs the command of a status, if it has one. -/
def runStatus (commander : Commander S C) (s : S) : Step S C E T (Option Signal) :=
  match commander.commands.get? s with
  | some command => perform s command
  | none => pure none

/-- Moves the entity to the next status and saves the transition; if that is refused the entity
stays as it was. -/
def moveOn (commander : Commander S C) : Step S C E T Unit := do
  let entity ← get
  let old := Staged.status entity
  let new ← ofLifecycle (commander.lifecycle.next old)
  setStatus new
  setPaused false
  match ← ask (.transition old new (← get)) with
  | .ok () => pure ()
  | .error error =>
    setStatus old
    setPaused (Staged.isPaused entity)
    throw (.persistence error)

/-- Runs the command of the current status and moves the entity on, unless it stops there. -/
def round (commander : Commander S C) : Step S C E T (Option (Outcome S)) := do
  let current := Staged.status (← get)
  let _ ← ofLifecycle (commander.lifecycle.position current)
  match ← runStatus commander current with
  | some .sleep => return some (.paused current)
  | none =>
    if commander.lifecycle.isTerminal current then return some (.completed current)
    moveOn commander
    return none

/-- Goes on until the entity stops, for so many rounds at most. -/
def rounds (commander : Commander S C) : Nat → Step S C E T (Outcome S)
  | 0 => do throw (.restless (toString (Staged.status (← get))))
  | left + 1 => do
    match ← round commander with
    | some outcome => return outcome
    | none => rounds commander left

/-- Takes the entity from its current status on, unless it is paused.  An entity whose status is
set by the commander alone stops within one round for every status. -/
def execute (commander : Commander S C) : Step S C E T (Outcome S) := do
  let entity ← get
  if Staged.isPaused entity then
    let current := Staged.status entity
    let _ ← ofLifecycle (commander.lifecycle.position current)
    return .paused current
  rounds commander commander.lifecycle.statuses.length

/-- Moves the entity to the next status and executes it. -/
def incrementAndExecute (commander : Commander S C) : Step S C E T (Outcome S) := do
  moveOn commander
  execute commander

/-- Wakes the entity and executes it, so that the current command runs again. -/
def repeatAndExecute (commander : Commander S C) : Step S C E T (Outcome S) := do
  setPaused false
  execute commander

/-- Takes the entity on in the given way. -/
def drive (commander : Commander S C) : Resume → Step S C E T (Outcome S)
  | .execute => commander.execute
  | .advance => commander.incrementAndExecute
  | .again => commander.repeatAndExecute

/-- The commander as text. -/
def describe (commander : Commander S C) : String :=
  let statuses := commander.lifecycle.statuses.map fun s => Text.literal (toString s)
  let positions := statuses.zipIdx.map fun (s, i) => s!"{s}: {i}"
  "Commander \x7b lifecycle: StatusLifecycle \x7b statuses: [" ++ ", ".intercalate statuses
    ++ "], positions: \x7b" ++ ", ".intercalate positions ++ "\x7d \x7d, commands: "
    ++ commander.commands.describe ++ " \x7d"

end Commander

end ServerMigration
