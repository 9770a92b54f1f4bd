import ServerMigration.Proofs.Commander.Steps

/-!
# The entity along a run

While the commander drives an entity, the entity changes in three ways only: a command is run on
it, its status is set, or its pause flag is set.  Everything else finds it as it is, a save in
particular.  So whatever these three preserve holds of the entity at the end and of all that is
saved on the way.

## Main definitions

* `Commander.Path` : a run from one entity to another in such changes.
* `Commander.saves` : the entities that have been saved.

## Main results

* `Commander.path_of_runs_drive` : every way to drive an entity is such a path.
* `Commander.Path.invariant` : what holds along a path.
-/

namespace ServerMigration.Commander

open Program

variable {S C E T : Type} [Staged E S T] {entity after : E} {trace : Trace S C E T}

/-- `Path entity trace after` says that the answers of `trace` lead from `entity` to `after`: a look
at the clock sets the status or the pause flag, a command is run, and whatever else is asked is
asked of the entity as it is. -/
inductive Path : E → Trace S C E T → E → Prop
  | here (entity : E) : Path entity [] entity
  | setStatus {entity after : E} {rest : Trace S C E T} (time : T) (s : S)
      (path : Path (Staged.setStatus time s entity) rest after) :
      Path entity (⟨.clock, time⟩ :: rest) after
  | setPaused {entity after : E} {rest : Trace S C E T} (time : T) (paused : Bool)
      (path : Path (Staged.setPaused time paused entity) rest after) :
      Path entity (⟨.clock, time⟩ :: rest) after
  | hooks {entity after : E} {rest : Trace S C E T} {phase : HookPhase} {s : S}
      {answer : Except String Unit} (path : Path entity rest after) :
      Path entity (⟨.hooks phase s entity, answer⟩ :: rest) after
  | run {entity after : E} {rest : Trace S C E T} {command : C} {run : CommandRun E}
      (path : Path run.entity rest after) : Path entity (⟨.run command entity, run⟩ :: rest) after
  | checkpoint {entity after : E} {rest : Trace S C E T} {answer : Except PersistenceError Unit}
      (path : Path entity rest after) : Path entity (⟨.checkpoint entity, answer⟩ :: rest) after
  | transition {entity after : E} {rest : Trace S C E T} {old new : S}
      {answer : Except PersistenceError Unit} (path : Path entity rest after) :
      Path entity (⟨.transition old new entity, answer⟩ :: rest) after

theorem Path.append {middle : E} {first second : Trace S C E T} (hfirst : Path entity first middle)
    (hsecond : Path middle second after) : Path entity (first ++ second) after := by
  induction hfirst with
  | here _ => exact hsecond
  | setStatus time s _ ih => exact .setStatus time s (ih hsecond)
  | setPaused time paused _ ih => exact .setPaused time paused (ih hsecond)
  | hooks _ ih => exact .hooks (ih hsecond)
  | run _ ih => exact .run (ih hsecond)
  | checkpoint _ ih => exact .checkpoint (ih hsecond)
  | transition _ ih => exact .transition (ih hsecond)

/-! ### Every run is a path -/

private theorem Dozed.path {signal : Option Signal} {pause : Trace S C E T}
    (doze : Dozed signal entity pause after) : Path entity pause after := by
  cases doze with
  | awake => exact .here _
  | asleep _ time => exact .setPaused time true (.here _)

private theorem Performed.path [ToString S] [ToString C] {s : S} {command : C}
    {result : Except CommanderError (Option Signal)}
    (performed : Performed s command entity trace result after) : Path entity trace after := by
  cases performed with
  | beforeFailed reason => exact .hooks (.here _)
  | commandFailed verdict saved => exact .hooks (.run (.checkpoint (.here _)))
  | refused verdict doze refusal =>
    exact .append (.append (.hooks (.run (.here _))) doze.path) (.checkpoint (.here _))
  | afterFailed verdict doze reason time =>
    exact .append (.append (.hooks (.run (.here _))) doze.path)
      (.checkpoint (.hooks (.setPaused time false (.here _))))
  | ended verdict doze =>
    exact .append (.append (.hooks (.run (.here _))) doze.path) (.checkpoint (.hooks (.here _)))

variable [DecidableEq S] [ToString S] [ToString C] {commander : Commander S C}

omit [ToString C] in
private theorem Moved.path {result : Except CommanderError Unit}
    (move : Moved commander entity trace result after) : Path entity trace after := by
  cases move with
  | nowhere missing => exact .here _
  | saved found time time' =>
    exact .setStatus time _ (.setPaused time' false (.transition (.here _)))
  | refused found time time' back back' refusal =>
    exact .setStatus time _ (.setPaused time' false (.transition
      (.setStatus back _ (.setPaused back' _ (.here _)))))

private theorem Attended.path {result : Except CommanderError (Option Signal)}
    (attended : Attended commander entity trace result after) : Path entity trace after := by
  cases attended with
  | idle free => exact .here _
  | busy bound performed => exact performed.path

private theorem Rounded.path {result : Except CommanderError (Option (Outcome S))}
    (rounded : Rounded commander entity trace result after) : Path entity trace after := by
  cases rounded with
  | unknown missing => exact .here _
  | failed attended => exact attended.path
  | slept attended => exact attended.path
  | completed attended final => exact attended.path
  | held attended inner move => exact attended.path.append move.path
  | moved attended inner move => exact attended.path.append move.path

theorem path_of_runs_rounds {left : Nat} {result : Except CommanderError (Outcome S)}
    (h : Runs (rounds commander left) entity trace result after) : Path entity trace after := by
  induction left generalizing entity trace with
  | zero =>
    rw [rounds, runs_get_bind_iff] at h
    obtain ⟨rfl, rfl, rfl⟩ := runs_throw_iff.mp h
    exact .here _
  | succ left ih =>
    rcases runs_rounds_iff.mp h with
      ⟨error, hround, rfl⟩ | ⟨outcome, hround, rfl⟩ | ⟨middle, first, second, hround, hrest, rfl⟩
    · exact (rounded_of_runs hround).path
    · exact (rounded_of_runs hround).path
    · exact (rounded_of_runs hround).path.append (ih hrest)

theorem path_of_runs_execute {result : Except CommanderError (Outcome S)}
    (h : Runs (execute commander) entity trace result after) : Path entity trace after := by
  rcases runs_execute_cases h with ⟨-, rfl, rfl, -⟩ | ⟨-, hrounds⟩
  · exact .here _
  · exact path_of_runs_rounds hrounds

/-- **Every way to drive an entity is a path.** -/
theorem path_of_runs_drive {resume : Resume} {result : Except CommanderError (Outcome S)}
    (h : Runs (drive commander resume) entity trace result after) : Path entity trace after := by
  cases driven_of_runs h with
  | executed run => exact path_of_runs_execute run
  | repeated time run => exact .setPaused time false (path_of_runs_execute run)
  | held move => exact (moved_of_runs move).path
  | advanced move run => exact (moved_of_runs move).path.append (path_of_runs_execute run)

/-! ### What holds along a path -/

/-- The entity that a question saves. -/
def savedBy? : Exchange (Ask S C E) (Answer T) → Option E
  | ⟨.checkpoint entity, _⟩ => some entity
  | ⟨.transition _ _ entity, _⟩ => some entity
  | _ => none

/-- The entities that have been saved, in order. -/
def saves (trace : Trace S C E T) : List E := trace.filterMap savedBy?

omit [Staged E S T] [DecidableEq S] [ToString S] [ToString C] in
theorem saves_cons (exchange : Exchange (Ask S C E) (Answer T)) (rest : Trace S C E T) :
    saves (exchange :: rest) = (savedBy? exchange).toList ++ saves rest := by
  rw [saves, List.filterMap_cons]
  cases savedBy? exchange <;> rfl

omit [Staged E S T] [DecidableEq S] [ToString S] [ToString C] in
theorem saves_append (first second : Trace S C E T) :
    saves (first ++ second) = saves first ++ saves second :=
  List.filterMap_append

omit [DecidableEq S] [ToString S] [ToString C] in
/-- **What commands, statuses and pauses preserve holds along a path: of the entity at its end and
of every entity that is saved on it.** -/
theorem Path.invariant {P : E → Prop} (path : Path entity trace after)
    (hstatus : ∀ time s entity, P entity → P (Staged.setStatus time s entity))
    (hpaused : ∀ time paused entity, P entity → P (Staged.setPaused time paused entity))
    (hrun : ∀ command entity run,
      (⟨.run command entity, run⟩ : Exchange (Ask S C E) (Answer T)) ∈ trace →
      P entity → P run.entity)
    (h : P entity) : P after ∧ ∀ saved ∈ saves trace, P saved := by
  induction path with
  | here _ => exact ⟨h, fun _ hmem => absurd hmem List.not_mem_nil⟩
  | setStatus time s _ ih =>
    exact ih (fun c e r hmem => hrun c e r (List.mem_cons_of_mem _ hmem)) (hstatus _ _ _ h)
  | setPaused time paused _ ih =>
    exact ih (fun c e r hmem => hrun c e r (List.mem_cons_of_mem _ hmem)) (hpaused _ _ _ h)
  | hooks _ ih => exact ih (fun c e r hmem => hrun c e r (List.mem_cons_of_mem _ hmem)) h
  | run _ ih =>
    exact ih (fun c e r hmem => hrun c e r (List.mem_cons_of_mem _ hmem))
      (hrun _ _ _ List.mem_cons_self h)
  | checkpoint _ ih =>
    obtain ⟨hafter, hsaves⟩ := ih (fun c e r hmem => hrun c e r (List.mem_cons_of_mem _ hmem)) h
    exact ⟨hafter, fun saved hmem => (List.mem_cons.mp hmem).elim (· ▸ h) (hsaves saved)⟩
  | transition _ ih =>
    obtain ⟨hafter, hsaves⟩ := ih (fun c e r hmem => hrun c e r (List.mem_cons_of_mem _ hmem)) h
    exact ⟨hafter, fun saved hmem => (List.mem_cons.mp hmem).elim (· ▸ h) (hsaves saved)⟩

end ServerMigration.Commander
