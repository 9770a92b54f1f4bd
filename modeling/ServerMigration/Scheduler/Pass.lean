import ServerMigration.Scheduler.Host

/-!
# Passes

A pass drives some sources, each in a task of its own.  Only so many tasks are under way at once;
the others wait, and whenever a task ends the next one is started.  In which order tasks end is up
to the surroundings, which also run them.

## Main definitions

* `Scheduler.Ask`, `Scheduler.Answer` : what a pass asks for.
* `Scheduler.pass` : a pass over some sources.
-/

namespace ServerMigration.Scheduler

/-- What the scheduler asks for. -/
inductive Ask
  /-- Something of the surroundings of a migration. -/
  | site (question : Site.Ask)
  /-- Start a task. -/
  | start (task : HostTask)
  /-- Wait until one of the started tasks has ended. -/
  | await

/-- The answers to what the scheduler asks for. -/
@[reducible] def Answer : Ask → Type
  | .site question => Site.Answer question
  | .start _ => Unit
  | .await => TaskEnd

/-- Computations of the scheduler. -/
abbrev Schedule (α : Type) : Type := Program Ask Answer α

/-- Deals with the surroundings of a migration. -/
def site {α : Type} (action : Action α) : Schedule α :=
  Program.reinterpret (fun q => Program.request (Ask.site q)) action

/-- Starts a task. -/
def start (task : HostTask) : Schedule Unit := Program.request (Ask.start task)

/-- Waits until one of the started tasks has ended. -/
def await : Schedule TaskEnd := Program.request Ask.await

/-- A pass under way. -/
structure Progress where
  /-- The sources whose tasks wait. -/
  pending : List Source
  /-- The number of tasks under way. -/
  inFlight : Nat := 0
  /-- The report so far, in the order in which tasks ended. -/
  report : PassReport := {}

namespace Progress

/-- The sources whose tasks the limit allows to start. -/
def admitted (limit : Nat) (progress : Progress) : List Source :=
  progress.pending.take (limit - progress.inFlight)

/-- The pass when their tasks are under way. -/
def refill (limit : Nat) (progress : Progress) : Progress :=
  let inFlight := progress.inFlight + (progress.admitted limit).length
  { pending := progress.pending.drop (limit - progress.inFlight)
    inFlight
    report := { progress.report with maxInFlight := max progress.report.maxInFlight inFlight } }

/-- The pass when a task has ended. -/
def finish (progress : Progress) (ended : TaskEnd) : Progress :=
  { progress with
    inFlight := progress.inFlight - 1
    report := { progress.report with hosts := progress.report.hosts ++ [ended.report] } }

/-- The number of tasks that have not ended. -/
def unfinished (progress : Progress) : Nat := progress.pending.length + progress.inFlight

@[simp] theorem unfinished_refill (limit : Nat) (progress : Progress) :
    (progress.refill limit).unfinished = progress.unfinished := by
  simp only [unfinished, refill, admitted, List.length_drop, List.length_take]
  omega

theorem unfinished_finish {progress : Progress} (ended : TaskEnd) (h : progress.inFlight ≠ 0) :
    (progress.finish ended).unfinished + 1 = progress.unfinished := by
  simp only [unfinished, finish]
  omega

end Progress

/-- Goes on with a pass: starts tasks while the limit allows it, and waits for one of those under
way to end, until there are none. -/
def passRounds (limit : Nat) (resume : Resume) (progress : Progress) : Schedule PassReport := do
  (progress.admitted limit).forM fun source => start ⟨source, resume⟩
  if _h : (progress.refill limit).inFlight = 0 then
    return (progress.refill limit).report
  else do
    let ended ← await
    passRounds limit resume ((progress.refill limit).finish ended)
termination_by progress.unfinished
decreasing_by
  rw [← progress.unfinished_refill limit, ← Progress.unfinished_finish ended _h]
  exact Nat.lt_succ_self _

/-- Drives some sources, at most `limit` of them at once, and reports in the order of their
names. -/
def pass (limit : Nat) (resume : Resume) (sources : List Source) : Schedule PassReport := do
  let report ← passRounds limit resume { pending := sources }
  return { report with hosts := HostReport.ordered report.hosts }

end ServerMigration.Scheduler
