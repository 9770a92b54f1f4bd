import ServerMigration.Proofs.Commander.Itinerary
import ServerMigration.Proofs.Commander.Path

/-!
# The entity and its last save

When the commander returns an entity, all of whose saves were accepted, the entity is the one that
was saved last, but for its pause flag in two cases.  Hooks behind a command that fail take a pause
back that has been saved already.  And an entity that is woken to repeat its status may stop before
anything is saved again.

## Main definitions

* `Commander.Obliging` : surroundings that accept every save, with commands of which it is known
  which ask to sleep.
* `Commander.Filed` : how the entity relates to its last save.

## Main results

* `Commander.filed_of_runs_execute` : how it relates to it when an execution has ended.
* `Commander.filed_of_runs_drive` : the same of every way to drive an entity.
-/

namespace ServerMigration.Commander

open Program

variable {S C E T : Type}

/-- The error with which a computation has stopped, if it has. -/
def failure? {ε α : Type} : Except ε α → Option ε
  | .ok _ => none
  | .error error => some error

theorem failure?_eq_some_iff {ε α : Type} {result : Except ε α} {error : ε} :
    failure? result = some error ↔ result = .error error := by
  cases result <;> simp [failure?]

/-- No hook behind a command has failed. -/
def Undisturbed (failure : Option CommanderError) : Prop :=
  ∀ s reason, failure ≠ some (.hookFailed s .after reason)

theorem undisturbed_none : Undisturbed none := fun _ _ h => nomatch h

variable [Staged E S T]

/-- A save is accepted; a command leaves the pause alone and, if it ends without an error, asks to
sleep if `sleeps` says so. -/
def Obliging (sleeps : C → Bool) : Exchange (Ask S C E) (Answer T) → Prop
  | ⟨.run command entity, run⟩ => Staged.isPaused run.entity = Staged.isPaused entity
      ∧ ∀ signal, run.outcome = .ok signal → signal.isSome = sleeps command
  | ⟨.checkpoint _, answer⟩ => answer = .ok ()
  | ⟨.transition .., answer⟩ => answer = .ok ()
  | _ => True

variable [DecidableEq S] [ToString S] [ToString C]

/-- How the entity relates to its last save when a computation that began with `entity` has
ended. -/
inductive Filed (commander : Commander S C) (sleeps : C → Bool) (entity : E)
    (trace : Trace S C E T) : Option CommanderError → E → Prop
  /-- Nothing has been saved, and nothing has changed. -/
  | untouched {failure : Option CommanderError} (unsaved : saves trace = [])
      (calm : Undisturbed failure) : Filed commander sleeps entity trace failure entity
  /-- The entity is as it was saved last. -/
  | current {failure : Option CommanderError} {after : E}
      (last : (saves trace).getLast? = some after) (calm : Undisturbed failure) :
      Filed commander sleeps entity trace failure after
  /-- A hook behind the command of a status has failed, and the pause, saved if the command asks to
  sleep, is taken back. -/
  | woken {s : S} {command : C} {saved : E} {reason : String} (time : T)
      (bound : commander.commands.get? s = some command)
      (last : (saves trace).getLast? = some saved)
      (flag : Staged.isPaused saved = sleeps command) :
      Filed commander sleeps entity trace (some (.hookFailed (toString s) .after reason))
        (Staged.setPaused time false saved)

variable {commander : Commander S C} {sleeps : C → Bool} {entity after : E}
  {trace : Trace S C E T}

/-- The run of a command: before it nothing is saved, and its checkpoint saves what is returned,
unless hooks behind it fail. -/
theorem filed_of_performed {s : S} {command : C} {result : Except CommanderError (Option Signal)}
    (performed : Performed s command entity trace result after)
    (bound : commander.commands.get? s = some command) (awake : Staged.isPaused entity = false)
    (obliging : ∀ exchange ∈ trace, Obliging sleeps exchange) :
    Filed commander sleeps entity trace (failure? result) after := by
  cases performed with
  | beforeFailed reason => exact .untouched rfl fun _ _ h => by cases h
  | commandFailed verdict saved => exact .current rfl fun _ _ h => by cases h
  | @refused run signal pause _ verdict doze refusal =>
    have haccepted := obliging ⟨.checkpoint after, .error refusal⟩ (by simp)
    cases haccepted
  | @afterFailed run signal pause dozed verdict doze reason time =>
    obtain ⟨hpaused, hsleeps⟩ := obliging ⟨.run command entity, run⟩ (by simp)
    obtain ⟨-, hflag, -⟩ := doze.stage (hpaused.trans awake)
    refine .woken time bound ?_ (hflag.trans (hsleeps signal (settle_eq_ok_iff.mp verdict).2))
    cases doze <;> rfl
  | ended verdict doze =>
    refine .current ?_ undisturbed_none
    cases doze <;> rfl

theorem filed_of_attended {result : Except CommanderError (Option Signal)}
    (attended : Attended commander entity trace result after)
    (awake : Staged.isPaused entity = false)
    (obliging : ∀ exchange ∈ trace, Obliging sleeps exchange) :
    Filed commander sleeps entity trace (failure? result) after := by
  cases attended with
  | idle free => exact .untouched rfl undisturbed_none
  | busy bound performed => exact filed_of_performed performed bound awake obliging

omit [ToString C] in
/-- An entity that is as it was saved last is so whatever was saved before. -/
theorem Filed.prepend {middle : E} {first second : Trace S C E T}
    {failure : Option CommanderError} (filed : Filed commander sleeps middle second failure after)
    (hfirst : (saves first).getLast? = some middle) :
    Filed commander sleeps entity (first ++ second) failure after := by
  cases filed with
  | untouched unsaved calm =>
    refine .current ?_ calm
    rw [saves_append, unsaved, List.append_nil, hfirst]
  | current last calm =>
    refine .current ?_ calm
    rw [saves_append, List.getLast?_append, last, Option.some_or]
  | woken time bound last flag =>
    refine .woken time bound ?_ flag
    rw [saves_append, List.getLast?_append, last, Option.some_or]

omit [ToString C] in
/-- A move that succeeds ends with a save. -/
theorem Moved.saves_of_ok (move : Moved commander entity trace (.ok ()) after) :
    (saves trace).getLast? = some after := by
  cases move with
  | saved found time time' => rfl

omit [ToString C] in
/-- A move fails only because there is no next status. -/
theorem Moved.nowhere_of_error {error : CommanderError}
    (move : Moved commander entity trace (.error error) after)
    (obliging : ∀ exchange ∈ trace, Obliging sleeps exchange) :
    trace = [] ∧ after = entity ∧ Undisturbed (some error) := by
  cases move with
  | nowhere missing => exact ⟨rfl, rfl, fun _ _ h => by cases h⟩
  | refused found time time' back back' refusal =>
    have haccepted := obliging ⟨.transition _ _ _, .error refusal⟩ (by simp; exact ⟨rfl, rfl, rfl⟩)
    cases haccepted

/-- A round that stops. -/
theorem filed_of_stopped_round {result : Except CommanderError (Option (Outcome S))}
    (rounded : Rounded commander entity trace result after) (stopped : result ≠ .ok none)
    (awake : Staged.isPaused entity = false)
    (obliging : ∀ exchange ∈ trace, Obliging sleeps exchange) :
    Filed commander sleeps entity trace (failure? result) after := by
  cases rounded with
  | unknown missing => exact .untouched rfl fun _ _ h => by cases h
  | failed attended => exact filed_of_attended attended awake obliging
  | slept attended => exact filed_of_attended attended awake obliging
  | completed attended final => exact filed_of_attended attended awake obliging
  | moved attended inner move => exact absurd rfl stopped
  | held attended inner move =>
    obtain ⟨hfirst, hsecond⟩ := List.forall_mem_append.mp obliging
    obtain ⟨rfl, rfl, calm⟩ := move.nowhere_of_error hsecond
    rw [List.append_nil]
    -- The command has ended well, so no hook behind it has failed.
    cases filed_of_attended attended awake hfirst with
    | untouched unsaved _ => exact .untouched unsaved calm
    | current last _ => exact .current last calm

theorem filed_of_runs_rounds {left : Nat} {result : Except CommanderError (Outcome S)}
    (h : Runs (rounds commander left) entity trace result after)
    (awake : Staged.isPaused entity = false)
    (obliging : ∀ exchange ∈ trace, Obliging sleeps exchange) :
    Filed commander sleeps entity trace (failure? result) after := by
  induction left generalizing entity trace with
  | zero =>
    rw [rounds, runs_get_bind_iff] at h
    obtain ⟨rfl, rfl, rfl⟩ := runs_throw_iff.mp h
    exact .untouched rfl fun _ _ h => by cases h
  | succ left ih =>
    rcases runs_rounds_iff.mp h with
      ⟨error, hround, rfl⟩ | ⟨outcome, hround, rfl⟩ | ⟨middle, first, second, hround, hrest, rfl⟩
    · exact filed_of_stopped_round (rounded_of_runs hround) (by simp) awake obliging
    · exact filed_of_stopped_round (rounded_of_runs hround) (by simp) awake obliging
    · obtain ⟨-, hsecond⟩ := List.forall_mem_append.mp obliging
      cases rounded_of_runs hround with
      | moved attended inner move =>
        -- The move ends with a save, so what was saved in the round before it does not matter.
        refine (ih hrest move.onward.2.1 hsecond).prepend ?_
        rw [saves_append, List.getLast?_append, move.saves_of_ok, Option.some_or]

/-- **When an execution ends the entity is as it was saved last, unless hooks behind a command have
failed.** -/
theorem filed_of_runs_execute {result : Except CommanderError (Outcome S)}
    (h : Runs (execute commander) entity trace result after)
    (obliging : ∀ exchange ∈ trace, Obliging sleeps exchange) :
    Filed commander sleeps entity trace (failure? result) after := by
  rcases runs_execute_cases h with
    ⟨-, rfl, rfl, ⟨error, -, rfl⟩ | rfl⟩ | ⟨awake, hrounds⟩
  · exact .untouched rfl fun _ _ h => by cases h
  · exact .untouched rfl undisturbed_none
  · exact filed_of_runs_rounds hrounds awake obliging

/-- **However an entity is driven, it is in the end as it was saved last, unless hooks behind a
command have failed, or it was to repeat its status and has stopped before it was saved.** -/
theorem filed_of_runs_drive {resume : Resume} {result : Except CommanderError (Outcome S)}
    (h : Runs (drive commander resume) entity trace result after)
    (obliging : ∀ exchange ∈ trace, Obliging sleeps exchange) :
    Filed commander sleeps entity trace (failure? result) after
        ∧ (resume = .again → saves trace ≠ [])
      ∨ resume = .again ∧ saves trace = [] ∧ Undisturbed (failure? result)
        ∧ ∃ time, after = Staged.setPaused time false entity := by
  cases driven_of_runs h with
  | executed run => exact .inl ⟨filed_of_runs_execute run obliging, by simp⟩
  | @repeated time rest _ _ run =>
    have hfiled := filed_of_runs_execute run (List.forall_mem_cons.mp obliging).2
    generalize failure? result = failure at hfiled ⊢
    have saved_of_last {saved : E} (last : (saves rest).getLast? = some saved) :
        saves rest ≠ [] := by
      intro hnil
      rw [hnil] at last
      cases last
    cases hfiled with
    | untouched unsaved calm => exact .inr ⟨rfl, unsaved, calm, time, rfl⟩
    | current last calm => exact .inl ⟨.current last calm, fun _ => saved_of_last last⟩
    | woken time' bound last flag =>
      exact .inl ⟨.woken time' bound last flag, fun _ => saved_of_last last⟩
  | held move =>
    obtain ⟨rfl, rfl, calm⟩ := (moved_of_runs move).nowhere_of_error obliging
    exact .inl ⟨.untouched rfl calm, by simp⟩
  | advanced move run =>
    have hfiled := filed_of_runs_execute run (List.forall_mem_append.mp obliging).2
    exact .inl ⟨hfiled.prepend (moved_of_runs move).saves_of_ok, by simp⟩

end ServerMigration.Commander
