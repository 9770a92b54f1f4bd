import ServerMigration.Migration.Catalog
import ServerMigration.Migration.Hooks

/-!
# Driving a source

A crew drives sources through their lifecycle: it has commands for some of the statuses and carries
them out, with hooks around them, and the document of the source is saved in the store at every
checkpoint and every transition.  The crew of a migration runs the scripts of the blueprint as hooks
and has the steps of the catalog as its commands.

## Main definitions

* `Crew` : commands, and how they and their hooks are carried out.
* `Crew.answer`, `Crew.drive` : the answers to the commander's questions, and driving a source.
* `migrationCrew`, `migrationAnswer` : the crew of a migration.
* `MigrationDrive.run` : drives a source by a step of the commander.
-/

namespace ServerMigration

/-- Saves the document of a source for the commander. -/
def savedBy (refused : (entity reason : String) → PersistenceError) (source : Source) :
    Action (Except PersistenceError Unit) := do
  match ← Action.store (.saveSource source) with
  | .ok () => return .ok ()
  | .error error => return .error (refused source.label error.message)

/-- Commands for the statuses of a source, and how they and the hooks around them are carried
out. -/
structure Crew (C : Type) where
  /-- The commands bound to statuses. -/
  commands : CommandTable SourceStatus C
  /-- Every bound status is one of the lifecycle's. -/
  known : ∀ s ∈ commands.statuses, s ∈ SourceStatus.lifecycle.statuses
  /-- Runs the hooks of a phase at a status. -/
  hooks : HookPhase → SourceStatus → Source → Action (Except String Unit)
  /-- Runs a command. -/
  perform : C → Source → Action (CommandRun Source)

namespace Crew

variable {C : Type}

/-- The commander of the crew. -/
def commander (crew : Crew C) : Commander SourceStatus C where
  lifecycle := SourceStatus.lifecycle
  commands := crew.commands
  known := crew.known

/-- Answers a question of the commander. -/
def answer (crew : Crew C) :
    (q : Commander.Ask SourceStatus C Source) → Action (Commander.Answer Instant q)
  | .clock => Action.clock
  | .hooks phase status source => crew.hooks phase status source
  | .run command source => crew.perform command source
  | .checkpoint source => savedBy .checkpointFailed source
  | .transition _ _ source => savedBy .transitionSaveFailed source

/-- Drives a source. -/
def drive [ToString C] (crew : Crew C) (resume : Resume) (source : Source) :
    Action (Except CommanderError (Outcome SourceStatus) × Source) :=
  Program.reinterpret crew.answer (ExceptT.run (crew.commander.drive resume) |>.run source)

end Crew

/-- The crew of a migration. -/
def migrationCrew (provider : Provider) : Crew MigrationStep where
  commands := stepTable
  known := sourceCommander.known
  hooks phase status source := runScripts source phase status
  perform step source := step.perform provider source

/-- Answers a question of the commander of migrations. -/
def migrationAnswer (provider : Provider) :
    (q : Commander.Ask SourceStatus MigrationStep Source) → Action (Commander.Answer Instant q) :=
  (migrationCrew provider).answer

/-- A step of the commander of migrations. -/
abbrev MigrationDrive (α : Type) : Type :=
  Commander.Step SourceStatus MigrationStep Source Instant α

/-- Drives a source by a step of the commander. -/
def MigrationDrive.run {α : Type} (provider : Provider) (drive : MigrationDrive α)
    (source : Source) : Action (Except CommanderError α × Source) :=
  Program.reinterpret (migrationAnswer provider) (ExceptT.run drive |>.run source)

end ServerMigration
