import ServerMigration.Rehearsal.World
import ServerMigration.Scheduler.Runs

/-!
# A rehearsed scheduler

Every task runs on a line of time of its own, which begins when the task is started; the one that
comes to its end first is the first to be reported.

## Main definitions

* `Stage` : the surroundings of a scheduler.
* `Stage.answer` : the answers to its questions.
-/

namespace ServerMigration.Rehearsal

/-- The surroundings of a scheduler. -/
structure Stage where
  /-- The surroundings of the migration. -/
  world : World
  /-- How cloud operations are watched. -/
  provider : Provider
  /-- The tasks that have been started, with the times at which they end. -/
  running : List (Duration × TaskEnd) := []

namespace Stage

/-- The task that ends first, and the others. -/
def takeEarliest :
    List (Duration × TaskEnd) → Option ((Duration × TaskEnd) × List (Duration × TaskEnd))
  | [] => none
  | task :: tasks =>
    match takeEarliest tasks with
    | some (first, rest) =>
      if first.1 < task.1 then some (first, task :: rest) else some (task, first :: rest)
    | none => some (task, [])

/-- Runs a task on a line of time of its own. -/
def perform (stage : Stage) (task : HostTask) : Stage :=
  let begun := stage.world.elapsed
  let (report, world) := stage.world.run (task.run stage.provider)
  let ended := match report with
    | some report => .finished report
    | none => .aborted task "lost"
  { stage with
    world := { world with elapsed := begun }
    running := stage.running ++ [(world.elapsed, ended)] }

/-- Answers a question. -/
def answer : (q : Scheduler.Ask) → OptionT (StateM Stage) (Scheduler.Answer q)
  | .site q => do
    let stage ← get
    let (reply, world) := ((World.answer q).run).run stage.world
    set { stage with world }
    OptionT.mk (pure reply)
  | .start task => modify (·.perform task)
  | .await => do
    let stage ← get
    match takeEarliest stage.running with
    | none => failure
    | some ((time, ended), running) =>
      let elapsed := if stage.world.elapsed < time then time else stage.world.elapsed
      set { stage with running, world := { stage.world with elapsed } }
      return ended

/-- Runs a computation over a run. -/
def run {α : Type} (step : Scheduler.RunStep α) (stage : Stage) :
    Option (Except RunError α) × Stage :=
  (Program.run answer (ExceptT.run step)).run.run stage

end Stage

end ServerMigration.Rehearsal
