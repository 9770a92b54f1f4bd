import ServerMigration.Commander.Basic
import ServerMigration.Proofs.Program.Runs

/-!
# What each step of the commander can do

For every step of the commander, the runs that it has: what is asked, with which answers, how the
step ends and what has become of the entity.  Whatever is proved about the commander rests on these
lists and not on the text of its steps.

## Main definitions

* `Commander.Dozed` : the pause of an entity whose command asked to sleep.
* `Commander.Performed` : the runs of a command with its hooks and its checkpoint.
* `Commander.Moved` : the runs of a move to the next status.
* `Commander.Attended`, `Commander.Rounded` : the runs of a status and of a round.
* `Commander.Driven` : the runs of a call.

## Main results

* `Commander.performed_of_runs`, `Commander.moved_of_runs`, `Commander.rounded_of_runs`,
  `Commander.driven_of_runs` : a step has no other runs.
-/

namespace ServerMigration.Commander

open Program

/-- What the commander has asked, with the answers. -/
abbrev Trace (S C E T : Type) : Type := List (Exchange (Ask S C E) (Answer T))

variable {S C E T α : Type} {entity after : E} {trace : Trace S C E T}

/-! ### Questions and lookups -/

theorem runs_ask_bind_iff {q : Ask S C E} {next : Answer T q → Step S C E T α}
    {result : Except CommanderError α} :
    Runs (ask q >>= next) entity trace result after ↔
      ∃ answer rest, trace = ⟨q, answer⟩ :: rest ∧ Runs (next answer) entity rest result after :=
  yields_ask_iff

theorem runs_ofLifecycle_bind_iff {β : Type} {looked : Except LifecycleError β}
    {next : β → Step S C E T α} {result : Except CommanderError α} :
    Runs (ofLifecycle looked >>= next) entity trace result after ↔
      (∃ error, looked = .error error ∧ trace = [] ∧ result = .error (.lifecycle error)
        ∧ after = entity) ∨
      ∃ found, looked = .ok found ∧ Runs (next found) entity trace result after := by
  cases looked with
  | error error => simp [ofLifecycle]
  | ok found => simp [ofLifecycle]

theorem settle_eq_ok_iff {command : String} {errors : StepErrors}
    {outcome : Except CommandError (Option Signal)} {signal : Option Signal} :
    settle command errors outcome = .ok signal ↔ errors = [] ∧ outcome = .ok signal := by
  cases outcome with
  | ok ended =>
    cases errors with
    | nil => simp [settle, StepErrors.toExcept, Except.map]
    | cons error errors => simp [settle, StepErrors.toExcept, Except.map]
  | error fatal =>
    cases errors with
    | nil => simp [settle]
    | cons error errors => simp [settle, StepErrors.toExcept, StepErrors.record, Except.map]

/-- A command that has ended well fails by what it has collected. -/
theorem settle_ok_eq_error_iff {command : String} {errors : StepErrors} {signal : Option Signal}
    {error : CommandError} :
    settle command errors (.ok signal) = .error error ↔
      errors ≠ [] ∧ error = .failed command errors.length errors.report := by
  cases errors with
  | nil => simp [settle, StepErrors.toExcept, Except.map]
  | cons first errors => simp [settle, StepErrors.toExcept, Except.map, eq_comm]

variable [Staged E S T]

theorem runs_setStatus_bind_iff {s : S} {next : Unit → Step S C E T α}
    {result : Except CommanderError α} :
    Runs (setStatus s >>= next) entity trace result after ↔
      ∃ time rest, trace = ⟨.clock, time⟩ :: rest
        ∧ Runs (next ()) (Staged.setStatus time s entity) rest result after := by
  rw [setStatus, bind_assoc, runs_ask_bind_iff]
  rfl

theorem runs_setPaused_bind_iff {paused : Bool} {next : Unit → Step S C E T α}
    {result : Except CommanderError α} :
    Runs (setPaused paused >>= next) entity trace result after ↔
      ∃ time rest, trace = ⟨.clock, time⟩ :: rest
        ∧ Runs (next ()) (Staged.setPaused time paused entity) rest result after := by
  rw [setPaused, bind_assoc, runs_ask_bind_iff]
  rfl

/-! ### Commands -/

/-- The pause of an entity whose command has ended with a signal: with `sleep` it is paused, and
otherwise left alone. -/
inductive Dozed : Option Signal → E → Trace S C E T → E → Prop
  | awake (entity : E) : Dozed none entity [] entity
  | asleep (entity : E) (time : T) :
      Dozed (some .sleep) entity [⟨.clock, time⟩] (Staged.setPaused time true entity)

theorem runs_pauseOn_error_bind_iff {error : CommandError} {next : Unit → Step S C E T α}
    {result : Except CommanderError α} :
    Runs (pauseOn (.error error) >>= next) entity trace result after ↔
      Runs (next ()) entity trace result after :=
  Iff.rfl

theorem runs_pauseOn_ok_bind_iff {signal : Option Signal} {next : Unit → Step S C E T α}
    {result : Except CommanderError α} :
    Runs (pauseOn (.ok signal) >>= next) entity trace result after ↔
      ∃ pause dozed rest, Dozed signal entity pause dozed ∧ trace = pause ++ rest
        ∧ Runs (next ()) dozed rest result after := by
  constructor
  · intro h
    match signal with
    | none => exact ⟨[], entity, trace, .awake entity, rfl, h⟩
    | some .sleep =>
      obtain ⟨time, rest, rfl, hnext⟩ := runs_setPaused_bind_iff.mp h
      exact ⟨_, _, rest, .asleep entity time, rfl, hnext⟩
  · rintro ⟨pause, dozed, rest, doze, rfl, hnext⟩
    cases doze with
    | awake => exact hnext
    | asleep _ time => exact runs_setPaused_bind_iff.mpr ⟨time, rest, rfl, hnext⟩

variable [ToString S]

omit [Staged E S T] in
theorem runs_callHooks_bind_iff {phase : HookPhase} {s : S} {next : Unit → Step S C E T α}
    {result : Except CommanderError α} :
    Runs (callHooks phase s >>= next) entity trace result after ↔
      (∃ reason, trace = [⟨.hooks phase s entity, .error reason⟩]
        ∧ result = .error (.hookFailed (toString s) phase reason) ∧ after = entity) ∨
      ∃ rest, trace = ⟨.hooks phase s entity, .ok ()⟩ :: rest
        ∧ Runs (next ()) entity rest result after := by
  rw [callHooks, bind_assoc, runs_get_bind_iff, bind_assoc, runs_ask_bind_iff]
  constructor
  · rintro ⟨answer, rest, rfl, hnext⟩
    cases answer with
    | ok _ => exact .inr ⟨rest, rfl, hnext⟩
    | error reason =>
      obtain ⟨rfl, rfl, rfl⟩ := runs_throw_bind_iff.mp hnext
      exact .inl ⟨reason, rfl, rfl, rfl⟩
  · rintro (⟨reason, rfl, rfl, rfl⟩ | ⟨rest, rfl, hnext⟩)
    · exact ⟨.error reason, [], rfl, runs_throw_bind_iff.mpr ⟨rfl, rfl, rfl⟩⟩
    · exact ⟨.ok (), rest, rfl, hnext⟩

theorem runs_callAfterHooks_bind_iff {s : S} {next : Unit → Step S C E T α}
    {result : Except CommanderError α} :
    Runs (callAfterHooks s >>= next) entity trace result after ↔
      (∃ reason time, trace = [⟨.hooks .after s entity, .error reason⟩, ⟨.clock, time⟩]
        ∧ result = .error (.hookFailed (toString s) .after reason)
        ∧ after = Staged.setPaused time false entity) ∨
      ∃ rest, trace = ⟨.hooks .after s entity, .ok ()⟩ :: rest
        ∧ Runs (next ()) entity rest result after := by
  rw [callAfterHooks, bind_assoc, runs_get_bind_iff, bind_assoc, runs_ask_bind_iff]
  constructor
  · rintro ⟨answer, rest, rfl, hnext⟩
    cases answer with
    | ok _ => exact .inr ⟨rest, rfl, hnext⟩
    | error reason =>
      rw [bind_assoc, runs_setPaused_bind_iff] at hnext
      obtain ⟨time, rest, rfl, hthrow⟩ := hnext
      obtain ⟨rfl, rfl, rfl⟩ := runs_throw_bind_iff.mp hthrow
      exact .inl ⟨reason, time, rfl, rfl, rfl⟩
  · rintro (⟨reason, time, rfl, rfl, rfl⟩ | ⟨rest, rfl, hnext⟩)
    · refine ⟨.error reason, _, rfl, ?_⟩
      rw [bind_assoc, runs_setPaused_bind_iff]
      exact ⟨time, [], rfl, runs_throw_bind_iff.mpr ⟨rfl, rfl, rfl⟩⟩
    · exact ⟨.ok (), rest, rfl, hnext⟩

variable [ToString C]

/-- What can come of a command at a status: what is asked, how it ends, and the entity behind it.
The save of a checkpoint finds the entity with its pause already set, and hooks behind the command
that fail take the pause back. -/
inductive Performed (s : S) (command : C) (entity : E) :
    Trace S C E T → Except CommanderError (Option Signal) → E → Prop
  /-- A hook before the command fails. -/
  | beforeFailed (reason : String) :
      Performed s command entity [⟨.hooks .before s entity, .error reason⟩]
        (.error (.hookFailed (toString s) .before reason)) entity
  /-- The command fails, or collects failures; its checkpoint may be refused too. -/
  | commandFailed {run : CommandRun E} {error : CommandError}
      (verdict : settle (toString command) run.errors run.outcome = .error error)
      (saved : Except PersistenceError Unit) :
      Performed s command entity
        [⟨.hooks .before s entity, .ok ()⟩, ⟨.run command entity, run⟩,
          ⟨.checkpoint run.entity, saved⟩]
        (.error (.commandFailed (toString s) error)) run.entity
  /-- The command succeeds, and its checkpoint is refused. -/
  | refused {run : CommandRun E} {signal : Option Signal} {pause : Trace S C E T} {dozed : E}
      (verdict : settle (toString command) run.errors run.outcome = .ok signal)
      (doze : Dozed signal run.entity pause dozed) (refusal : PersistenceError) :
      Performed s command entity
        ([⟨.hooks .before s entity, .ok ()⟩, ⟨.run command entity, run⟩] ++ pause
          ++ [⟨.checkpoint dozed, .error refusal⟩])
        (.error (.persistence refusal)) dozed
  /-- The command succeeds and is saved, and a hook behind it fails. -/
  | afterFailed {run : CommandRun E} {signal : Option Signal} {pause : Trace S C E T} {dozed : E}
      (verdict : settle (toString command) run.errors run.outcome = .ok signal)
      (doze : Dozed signal run.entity pause dozed) (reason : String) (time : T) :
      Performed s command entity
        ([⟨.hooks .before s entity, .ok ()⟩, ⟨.run command entity, run⟩] ++ pause
          ++ [⟨.checkpoint dozed, .ok ()⟩, ⟨.hooks .after s dozed, .error reason⟩,
            ⟨.clock, time⟩])
        (.error (.hookFailed (toString s) .after reason)) (Staged.setPaused time false dozed)
  /-- The command succeeds and is saved, and the hooks pass. -/
  | ended {run : CommandRun E} {signal : Option Signal} {pause : Trace S C E T} {dozed : E}
      (verdict : settle (toString command) run.errors run.outcome = .ok signal)
      (doze : Dozed signal run.entity pause dozed) :
      Performed s command entity
        ([⟨.hooks .before s entity, .ok ()⟩, ⟨.run command entity, run⟩] ++ pause
          ++ [⟨.checkpoint dozed, .ok ()⟩, ⟨.hooks .after s dozed, .ok ()⟩])
        (.ok signal) dozed

/-- **A command at a status runs in one of the five ways of `Performed`.** -/
theorem performed_of_runs {s : S} {command : C} {result : Except CommanderError (Option Signal)}
    (h : Runs (perform s command) entity trace result after) :
    Performed s command entity trace result after := by
  rw [perform, runs_callHooks_bind_iff] at h
  rcases h with ⟨reason, rfl, rfl, rfl⟩ | ⟨rest, rfl, hrest⟩
  · exact .beforeFailed reason
  rw [runs_get_bind_iff, runs_ask_bind_iff] at hrest
  obtain ⟨run, rest, rfl, hrun⟩ := hrest
  rw [runs_set_bind_iff] at hrun
  cases verdict : settle (toString command) run.errors run.outcome with
  | error error =>
    rw [verdict, runs_pauseOn_error_bind_iff, runs_get_bind_iff, runs_ask_bind_iff] at hrun
    obtain ⟨saved, rest, rfl, hend⟩ := hrun
    obtain ⟨rfl, rfl, rfl⟩ := runs_throw_iff.mp hend
    exact .commandFailed verdict saved
  | ok signal =>
    rw [verdict, runs_pauseOn_ok_bind_iff] at hrun
    obtain ⟨pause, dozed, rest, doze, rfl, hsave⟩ := hrun
    rw [runs_get_bind_iff, runs_ask_bind_iff] at hsave
    obtain ⟨saved, rest, rfl, hend⟩ := hsave
    cases saved with
    | error refusal =>
      obtain ⟨rfl, rfl, rfl⟩ := runs_throw_iff.mp hend
      exact .refused verdict doze refusal
    | ok _ =>
      rcases runs_callAfterHooks_bind_iff.mp hend with
        ⟨reason, time, rfl, rfl, rfl⟩ | ⟨rest, rfl, hpure⟩
      · exact .afterFailed verdict doze reason time
      · obtain ⟨rfl, rfl, rfl⟩ := runs_pure_iff.mp hpure
        exact .ended verdict doze

/-! ### Moves -/

variable [DecidableEq S]

/-- What can come of a move to the next status. -/
inductive Moved (commander : Commander S C) (entity : E) :
    Trace S C E T → Except CommanderError Unit → E → Prop
  /-- There is no next status. -/
  | nowhere {error : LifecycleError}
      (missing : commander.lifecycle.next (Staged.status entity) = .error error) :
      Moved commander entity [] (.error (.lifecycle error)) entity
  /-- The transition is saved. -/
  | saved {new : S} (found : commander.lifecycle.next (Staged.status entity) = .ok new)
      (time time' : T) :
      Moved commander entity
        [⟨.clock, time⟩, ⟨.clock, time'⟩,
          ⟨.transition (Staged.status entity) new
            (Staged.setPaused time' false (Staged.setStatus time new entity)), .ok ()⟩]
        (.ok ()) (Staged.setPaused time' false (Staged.setStatus time new entity))
  /-- The transition is refused; status and pause are put back. -/
  | refused {new : S} (found : commander.lifecycle.next (Staged.status entity) = .ok new)
      (time time' back back' : T) (refusal : PersistenceError) :
      Moved commander entity
        [⟨.clock, time⟩, ⟨.clock, time'⟩,
          ⟨.transition (Staged.status entity) new
            (Staged.setPaused time' false (Staged.setStatus time new entity)), .error refusal⟩,
          ⟨.clock, back⟩, ⟨.clock, back'⟩]
        (.error (.persistence refusal))
        (Staged.setPaused back' (Staged.isPaused entity) (Staged.setStatus back
          (Staged.status entity)
          (Staged.setPaused time' false (Staged.setStatus time new entity))))

omit [ToString C] in
/-- **A move runs in one of the three ways of `Moved`.** -/
theorem moved_of_runs {commander : Commander S C} {result : Except CommanderError Unit}
    (h : Runs (moveOn commander) entity trace result after) :
    Moved commander entity trace result after := by
  rw [moveOn, runs_get_bind_iff, runs_ofLifecycle_bind_iff] at h
  rcases h with ⟨error, missing, rfl, rfl, rfl⟩ | ⟨new, found, hset⟩
  · exact .nowhere missing
  rw [runs_setStatus_bind_iff] at hset
  obtain ⟨time, rest, rfl, hpause⟩ := hset
  rw [runs_setPaused_bind_iff] at hpause
  obtain ⟨time', rest, rfl, hsave⟩ := hpause
  rw [runs_get_bind_iff, runs_ask_bind_iff] at hsave
  obtain ⟨saved, rest, rfl, hend⟩ := hsave
  cases saved with
  | ok _ =>
    obtain ⟨rfl, rfl, rfl⟩ := runs_pure_iff.mp hend
    exact .saved found time time'
  | error refusal =>
    obtain ⟨back, rest, rfl, hunpause⟩ := runs_setStatus_bind_iff.mp hend
    obtain ⟨back', rest, rfl, hthrow⟩ := runs_setPaused_bind_iff.mp hunpause
    obtain ⟨rfl, rfl, rfl⟩ := runs_throw_iff.mp hthrow
    exact .refused found time time' back back' refusal

/-! ### Rounds -/

/-- What can come of the command of the current status, if it has one. -/
inductive Attended (commander : Commander S C) (entity : E) :
    Trace S C E T → Except CommanderError (Option Signal) → E → Prop
  /-- The status has no command. -/
  | idle (free : commander.commands.get? (Staged.status entity) = none) :
      Attended commander entity [] (.ok none) entity
  /-- Its command is run. -/
  | busy {command : C} {trace : Trace S C E T} {result : Except CommanderError (Option Signal)}
      {after : E} (bound : commander.commands.get? (Staged.status entity) = some command)
      (performed : Performed (Staged.status entity) command entity trace result after) :
      Attended commander entity trace result after

/-- What can come of a round. -/
inductive Rounded (commander : Commander S C) (entity : E) :
    Trace S C E T → Except CommanderError (Option (Outcome S)) → E → Prop
  /-- The status is none of the lifecycle's. -/
  | unknown {error : LifecycleError}
      (missing : commander.lifecycle.position (Staged.status entity) = .error error) :
      Rounded commander entity [] (.error (.lifecycle error)) entity
  /-- The command fails. -/
  | failed {trace : Trace S C E T} {error : CommanderError} {after : E}
      (attended : Attended commander entity trace (.error error) after) :
      Rounded commander entity trace (.error error) after
  /-- The command asks to sleep. -/
  | slept {trace : Trace S C E T} {after : E}
      (attended : Attended commander entity trace (.ok (some .sleep)) after) :
      Rounded commander entity trace (.ok (some (.paused (Staged.status entity)))) after
  /-- The final status is done. -/
  | completed {trace : Trace S C E T} {after : E}
      (attended : Attended commander entity trace (.ok none) after)
      (final : commander.lifecycle.isTerminal (Staged.status entity) = true) :
      Rounded commander entity trace (.ok (some (.completed (Staged.status entity)))) after
  /-- Another status is done, and the move behind it fails. -/
  | held {trace rest : Trace S C E T} {middle after : E} {error : CommanderError}
      (attended : Attended commander entity trace (.ok none) middle)
      (inner : commander.lifecycle.isTerminal (Staged.status entity) = false)
      (move : Moved commander middle rest (.error error) after) :
      Rounded commander entity (trace ++ rest) (.error error) after
  /-- Another status is done, and the entity has moved on. -/
  | moved {trace rest : Trace S C E T} {middle after : E}
      (attended : Attended commander entity trace (.ok none) middle)
      (inner : commander.lifecycle.isTerminal (Staged.status entity) = false)
      (move : Moved commander middle rest (.ok ()) after) :
      Rounded commander entity (trace ++ rest) (.ok none) after

theorem attended_of_runs {commander : Commander S C}
    {result : Except CommanderError (Option Signal)}
    (h : Runs (runStatus commander (Staged.status entity)) entity trace result after) :
    Attended commander entity trace result after := by
  unfold runStatus at h
  split at h
  · next command bound => exact .busy bound (performed_of_runs h)
  · next free =>
    obtain ⟨rfl, rfl, rfl⟩ := runs_pure_iff.mp h
    exact .idle free

/-- **A round runs in one of the six ways of `Rounded`.** -/
theorem rounded_of_runs {commander : Commander S C}
    {result : Except CommanderError (Option (Outcome S))}
    (h : Runs (round commander) entity trace result after) :
    Rounded commander entity trace result after := by
  rw [round, runs_get_bind_iff, runs_ofLifecycle_bind_iff] at h
  rcases h with ⟨error, missing, rfl, rfl, rfl⟩ | ⟨place, -, hround⟩
  · exact .unknown missing
  rcases runs_bind_iff.mp hround with
    ⟨error, hstatus, rfl⟩ | ⟨signal, middle, first, second, hstatus, hrest, rfl⟩
  · exact .failed (attended_of_runs hstatus)
  have attended := attended_of_runs hstatus
  -- Sleep comes before the end of the lifecycle: a final status may sleep too.
  match signal with
  | some .sleep =>
    obtain ⟨rfl, rfl, rfl⟩ := runs_pure_iff.mp hrest
    simpa using Rounded.slept attended
  | none =>
    simp only at hrest
    split at hrest
    · next final =>
      obtain ⟨rfl, rfl, rfl⟩ := runs_pure_iff.mp hrest
      simpa using Rounded.completed attended final
    · next inner =>
      rw [Bool.not_eq_true] at inner
      rcases runs_bind_iff.mp hrest with
        ⟨error, hmove, rfl⟩ | ⟨_, final, move, rest, hmove, hpure, rfl⟩
      · exact .held attended inner (moved_of_runs hmove)
      · obtain ⟨rfl, rfl, rfl⟩ := runs_pure_iff.mp hpure
        simpa using Rounded.moved attended inner (moved_of_runs hmove)

/-- What can come of so many rounds: none are left, or there is a round that stops the entity, or
one that moves it on and the rounds behind it. -/
theorem runs_rounds_iff {commander : Commander S C} {left : Nat}
    {result : Except CommanderError (Outcome S)} :
    Runs (rounds commander (left + 1)) entity trace result after ↔
      (∃ error, Runs (round commander) entity trace (.error error) after ∧ result = .error error) ∨
      (∃ outcome, Runs (round commander) entity trace (.ok (some outcome)) after
        ∧ result = .ok outcome) ∨
      ∃ middle first second, Runs (round commander) entity first (.ok none) middle
        ∧ Runs (rounds commander left) middle second result after ∧ trace = first ++ second := by
  rw [rounds, runs_bind_iff]
  refine or_congr_right ?_
  constructor
  · rintro ⟨stop, middle, first, second, hround, hrest, rfl⟩
    cases stop with
    | some outcome =>
      obtain ⟨rfl, rfl, rfl⟩ := runs_pure_iff.mp hrest
      exact .inl ⟨outcome, by simpa using hround, rfl⟩
    | none => exact .inr ⟨middle, first, second, hround, hrest, rfl⟩
  · rintro (⟨outcome, hround, rfl⟩ | ⟨middle, first, second, hround, hrest, rfl⟩)
    · exact ⟨some outcome, after, trace, [], hround, by simp, by simp⟩
    · exact ⟨none, middle, first, second, hround, hrest, rfl⟩

/-- What can come of an execution: nothing, if the entity is paused, and otherwise its rounds. -/
theorem runs_execute_cases {commander : Commander S C}
    {result : Except CommanderError (Outcome S)}
    (h : Runs (execute commander) entity trace result after) :
    (Staged.isPaused entity = true ∧ trace = [] ∧ after = entity
        ∧ ((∃ error, commander.lifecycle.position (Staged.status entity) = .error error
            ∧ result = .error (.lifecycle error))
          ∨ result = .ok (.paused (Staged.status entity)))) ∨
      (Staged.isPaused entity = false
        ∧ Runs (rounds commander commander.lifecycle.statuses.length) entity trace result after)
    := by
  rw [execute, runs_get_bind_iff] at h
  split at h
  · next paused =>
    refine .inl ⟨paused, ?_⟩
    rcases runs_ofLifecycle_bind_iff.mp h with ⟨error, missing, rfl, rfl, rfl⟩ | ⟨place, -, hpure⟩
    · exact ⟨rfl, rfl, .inl ⟨error, missing, rfl⟩⟩
    · obtain ⟨rfl, rfl, rfl⟩ := runs_pure_iff.mp hpure
      exact ⟨rfl, rfl, .inr rfl⟩
  · next awake => exact .inr ⟨by simpa using awake, h⟩

/-! ### Calls -/

/-- What can come of a call, by how the entity goes on. -/
inductive Driven (commander : Commander S C) (entity : E) :
    Resume → Trace S C E T → Except CommanderError (Outcome S) → E → Prop
  /-- It is executed. -/
  | executed {trace : Trace S C E T} {result : Except CommanderError (Outcome S)} {after : E}
      (run : Runs (execute commander) entity trace result after) :
      Driven commander entity .execute trace result after
  /-- It is woken and executed. -/
  | repeated (time : T) {rest : Trace S C E T} {result : Except CommanderError (Outcome S)}
      {after : E}
      (run : Runs (execute commander) (Staged.setPaused time false entity) rest result after) :
      Driven commander entity .again (⟨.clock, time⟩ :: rest) result after
  /-- It is to move on at once, and the move fails. -/
  | held {trace : Trace S C E T} {error : CommanderError} {after : E}
      (move : Runs (moveOn commander) entity trace (.error error) after) :
      Driven commander entity .advance trace (.error error) after
  /-- It has moved on at once, and is executed there. -/
  | advanced {trace rest : Trace S C E T} {middle after : E}
      {result : Except CommanderError (Outcome S)}
      (move : Runs (moveOn commander) entity trace (.ok ()) middle)
      (run : Runs (execute commander) middle rest result after) :
      Driven commander entity .advance (trace ++ rest) result after

/-- **A call runs in one of the four ways of `Driven`.** -/
theorem driven_of_runs {commander : Commander S C} {resume : Resume}
    {result : Except CommanderError (Outcome S)}
    (h : Runs (drive commander resume) entity trace result after) :
    Driven commander entity resume trace result after := by
  cases resume with
  | execute => exact .executed h
  | again =>
    rw [drive, repeatAndExecute, runs_setPaused_bind_iff] at h
    obtain ⟨time, rest, rfl, hexecute⟩ := h
    exact .repeated time hexecute
  | advance =>
    rw [drive, incrementAndExecute] at h
    rcases runs_bind_iff.mp h with
      ⟨error, hmove, rfl⟩ | ⟨_, middle, first, second, hmove, hexecute, rfl⟩
    · exact .held hmove
    · exact .advanced hmove hexecute

end ServerMigration.Commander
