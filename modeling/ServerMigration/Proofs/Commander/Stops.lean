import ServerMigration.Proofs.Commander.Pause

/-!
# Where a call leaves an entity

When every save is accepted, the result of a call tells at which status it has left the entity and
whether it sleeps there: it sleeps at the status that the call names, it is awake at the final one,
or the call has failed and the entity is awake.  If hooks pass too, an awake entity whose command
asks to sleep stops where it is: it falls asleep exactly if the command has collected no failures
and ended without one.

## Main definitions

* `Commander.SaveAccepted`, `Commander.HooksPass` : a save that is accepted, and hooks that pass.
* `Commander.StageTold` : status and pause are as the result of a call tells.
* `Commander.Settled` : what comes of an entity whose command asks to sleep.

## Main results

* `Commander.stageTold_of_runs_drive` : the result of a call tells status and pause.
* `Commander.settled_of_runs_execute` : an entity whose command asks to sleep stops where it is.
-/

namespace ServerMigration.Commander

open Program

variable {S C E T : Type}

/-- A save is accepted. -/
def SaveAccepted : Exchange (Ask S C E) (Answer T) → Prop
  | ⟨.checkpoint _, answer⟩ => answer = .ok ()
  | ⟨.transition .., answer⟩ => answer = .ok ()
  | _ => True

variable [Staged E S T] {entity after : E} {trace : Trace S C E T}

theorem not_rejectedAsleep_of_accepted (accepted : ∀ exchange ∈ trace, SaveAccepted exchange) :
    ¬RejectedAsleep (events trace) := by
  rintro ⟨before, s, c, refusal, hevents⟩
  have hmem : Event.checkpoint s (.error refusal) ∈ events trace := by simp [hevents]
  obtain ⟨⟨q, answer⟩, hexchange, hevent⟩ := List.mem_filterMap.mp hmem
  have haccepted := accepted _ hexchange
  cases q with
  | checkpoint entity =>
    cases haccepted
    cases hevent
  | _ => cases hevent

/-- Status and pause of the entity are as the result of a call tells. -/
def StageTold (commander : Commander S C) (result : Except CommanderError (Outcome S))
    (after : E) : Prop :=
  match result with
  | .ok (.paused s) => Staged.status after = s ∧ Staged.isPaused after = true
  | .ok (.completed s) =>
    Staged.status after = s ∧ Staged.isPaused after = false ∧ commander.lifecycle.last = s
  | .error _ => Staged.isPaused after = false

variable [DecidableEq S] [ToString S] [ToString C] {commander : Commander S C}
  {result : Except CommanderError (Outcome S)}

theorem stageTold_of_runs_execute (known : Staged.status entity ∈ commander.lifecycle.statuses)
    (keeps : KeepsStage trace) (accepted : ∀ exchange ∈ trace, SaveAccepted exchange)
    (h : Runs (execute commander) entity trace result after) :
    StageTold commander result after := by
  obtain ⟨earlier, later, cut⟩ := List.append_of_mem known
  rcases itinerary_of_runs_execute cut keeps h with ⟨asleep, rfl, rfl, rfl⟩ | itinerary
  · exact ⟨rfl, asleep⟩
  match result with
  | .ok (.paused s) =>
    obtain ⟨hpaused, hstop, -⟩ := itinerary.paused_of_paused
    exact ⟨hstop, hpaused⟩
  | .ok (.completed s) =>
    obtain ⟨hawake, hstop, hlast, -⟩ := itinerary.awake_of_completed
    rw [List.getLast?_eq_some_getLast (List.cons_ne_nil _ _), Option.some.injEq] at hlast
    exact ⟨hstop, hawake, (StatusLifecycle.last_of_cut cut).trans hlast⟩
  | .error error =>
    have hnot := not_rejectedAsleep_of_accepted accepted
    rwa [← itinerary.paused_iff_of_error, Bool.not_eq_true] at hnot

omit [ToString C] in
/-- A move whose save is accepted fails only where there is no next status. -/
theorem Moved.missing_of_accepted {error : CommanderError}
    (move : Moved commander entity trace (.error error) after)
    (accepted : ∀ exchange ∈ trace, SaveAccepted exchange) :
    ∃ missing, commander.lifecycle.next (Staged.status entity) = .error missing := by
  cases move with
  | nowhere missing => exact ⟨_, missing⟩
  | refused found time time' back back' refusal =>
    have haccepted := accepted ⟨.transition _ _ _, .error refusal⟩ (by simp; exact ⟨rfl, rfl, rfl⟩)
    cases haccepted

/-- **When every save is accepted, the result of a call tells at which status the entity is left,
and whether it sleeps there.**  An entity that is to move on at once has to have a status to move
on to. -/
theorem stageTold_of_runs_drive {resume : Resume}
    (known : Staged.status entity ∈ commander.lifecycle.statuses)
    (onward : resume = .advance → ∃ new,
      commander.lifecycle.next (Staged.status entity) = .ok new)
    (keeps : KeepsStage trace) (accepted : ∀ exchange ∈ trace, SaveAccepted exchange)
    (h : Runs (drive commander resume) entity trace result after) :
    StageTold commander result after := by
  cases driven_of_runs h with
  | executed run => exact stageTold_of_runs_execute known keeps accepted run
  | repeated time run =>
    exact stageTold_of_runs_execute (by rwa [Staged.status_setPaused]) keeps.tail
      (List.forall_mem_cons.mp accepted).2 run
  | held move =>
    obtain ⟨missing, hmissing⟩ := (moved_of_runs move).missing_of_accepted accepted
    obtain ⟨new, hnew⟩ := onward rfl
    cases hmissing.symm.trans hnew
  | advanced move run =>
    exact stageTold_of_runs_execute (StatusLifecycle.mem_of_next (moved_of_runs move).onward.1)
      keeps.right (List.forall_mem_append.mp accepted).2 run

/-! ### A command that asks to sleep -/

omit [Staged E S T] [DecidableEq S] [ToString S] [ToString C] in
/-- Hooks pass. -/
def HooksPass : Exchange (Ask S C E) (Answer T) → Prop
  | ⟨.hooks .., answer⟩ => answer = .ok ()
  | _ => True

/-- What comes of an entity whose command asks to sleep if it ends without an error, when hooks pass
and saves are accepted: the entity falls asleep, or its command has failed. -/
inductive Settled (s : S) (command : C) (entity : E) (run : CommandRun E) :
    Trace S C E T → Except CommanderError (Outcome S) → E → Prop
  | asleep (calm : run.errors = []) (ended : run.outcome = .ok (some .sleep)) (time : T) :
      Settled s command entity run
        [⟨.hooks .before s entity, .ok ()⟩, ⟨.run command entity, run⟩, ⟨.clock, time⟩,
          ⟨.checkpoint (Staged.setPaused time true run.entity), .ok ()⟩,
          ⟨.hooks .after s (Staged.setPaused time true run.entity), .ok ()⟩]
        (.ok (.paused s)) (Staged.setPaused time true run.entity)
  | failed {error : CommandError}
      (verdict : settle (toString command) run.errors run.outcome = .error error) :
      Settled s command entity run
        [⟨.hooks .before s entity, .ok ()⟩, ⟨.run command entity, run⟩,
          ⟨.checkpoint run.entity, .ok ()⟩]
        (.error (.commandFailed (toString s) error)) run.entity

variable {s : S} {command : C}

omit [DecidableEq S] in
/-- A command that asks to sleep puts the entity to sleep, or fails. -/
theorem Performed.settled {result : Except CommanderError (Option Signal)}
    (performed : Performed s command entity trace result after)
    (pass : ∀ exchange ∈ trace, HooksPass exchange)
    (accepted : ∀ exchange ∈ trace, SaveAccepted exchange)
    (sleeps : ∀ run signal, (⟨.run command entity, run⟩ : Exchange _ (Answer T)) ∈ trace →
      run.outcome = .ok signal → signal = some .sleep) :
    ∃ run, match result with
      | .ok signal => signal = some .sleep
          ∧ Settled s command entity run trace (.ok (.paused s)) after
      | .error error => Settled s command entity run trace (.error error) after := by
  cases performed with
  | beforeFailed reason => cases pass ⟨.hooks .before s entity, .error reason⟩ (by simp)
  | @commandFailed run error verdict saved =>
    cases accepted ⟨.checkpoint run.entity, saved⟩ (by simp)
    exact ⟨run, .failed verdict⟩
  | @refused _ _ _ dozed verdict doze refusal =>
    cases accepted ⟨.checkpoint after, .error refusal⟩ (by simp)
  | @afterFailed _ _ _ dozed verdict doze reason time =>
    cases pass ⟨.hooks .after s dozed, .error reason⟩ (by simp)
  | @ended run signal pause _ verdict doze =>
    obtain ⟨calm, ended⟩ := settle_eq_ok_iff.mp verdict
    cases sleeps run signal (by simp) ended
    cases doze with
    | asleep _ time => exact ⟨run, rfl, .asleep calm ended time⟩

/-- **An awake entity whose command asks to sleep stops where it is.** -/
theorem settled_of_runs_execute (known : Staged.status entity ∈ commander.lifecycle.statuses)
    (bound : commander.commands.get? (Staged.status entity) = some command)
    (awake : Staged.isPaused entity = false) (pass : ∀ exchange ∈ trace, HooksPass exchange)
    (accepted : ∀ exchange ∈ trace, SaveAccepted exchange)
    (sleeps : ∀ run signal, (⟨.run command entity, run⟩ : Exchange _ (Answer T)) ∈ trace →
      run.outcome = .ok signal → signal = some .sleep)
    (h : Runs (execute commander) entity trace result after) :
    ∃ run, Settled (Staged.status entity) command entity run trace result after := by
  -- What comes of the command's status decides the first round, and no other one follows.
  have settled {part : Trace S C E T} {result : Except CommanderError (Option Signal)} {middle : E}
      (attended : Attended commander entity part result middle) (hsub : part ⊆ trace) :
      ∃ run, match result with
        | .ok signal => signal = some .sleep
          ∧ Settled (Staged.status entity) command entity run part
            (.ok (.paused (Staged.status entity))) middle
        | .error error =>
          Settled (Staged.status entity) command entity run part (.error error) middle := by
    cases attended with
    | idle free => cases free.symm.trans bound
    | busy bound' performed =>
      cases bound.symm.trans bound'
      exact performed.settled (fun _ h => pass _ (hsub h)) (fun _ h => accepted _ (hsub h))
        fun run signal hmem => sleeps run signal (hsub hmem)
  rcases runs_execute_cases h with ⟨asleep, -⟩ | ⟨-, hrounds⟩
  · cases awake.symm.trans asleep
  obtain ⟨left, hleft⟩ := Nat.exists_eq_succ_of_ne_zero
    (Nat.ne_zero_of_lt (List.length_pos_of_mem known))
  rw [hleft] at hrounds
  rcases runs_rounds_iff.mp hrounds with
    ⟨error, hround, rfl⟩ | ⟨outcome, hround, rfl⟩ | ⟨middle, first, second, hround, -, rfl⟩
  · cases rounded_of_runs hround with
    | unknown missing =>
      obtain ⟨earlier, later, cut⟩ := List.append_of_mem known
      cases (StatusLifecycle.position_of_cut cut).symm.trans missing
    | failed attended => exact settled attended (List.Subset.refl _)
    | held attended =>
      obtain ⟨run, hsame, -⟩ := settled attended (List.subset_append_left ..)
      cases hsame
  · cases rounded_of_runs hround with
    | slept attended =>
      obtain ⟨run, -, settled⟩ := settled attended (List.Subset.refl _)
      exact ⟨run, settled⟩
    | completed attended =>
      obtain ⟨run, hsame, -⟩ := settled attended (List.Subset.refl _)
      cases hsame
  · cases rounded_of_runs hround with
    | moved attended =>
      obtain ⟨run, hsame, -⟩ := settled attended fun _ h =>
        List.mem_append_left _ (List.mem_append_left _ h)
      cases hsame

end ServerMigration.Commander
