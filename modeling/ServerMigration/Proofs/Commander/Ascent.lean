import ServerMigration.Proofs.Commander.Stops
import ServerMigration.Proofs.Commander.Path

/-!
# How an entity climbs its lifecycle

While every save is accepted an entity goes forward only, status by status.  So whatever is saved of
it stands at the status where its drive began or further on, and each save at the status of the one
before or further on.  That holds of a drive that is cut off as well.

## Main definitions

* `Commander.Climb` : the statuses of an entity and of its saves on the way forward.

## Main results

* `Commander.climb_of_runs_drive` : every way to drive an entity is such a climb.
* `Commander.Climb.eq_of_last` : a climb that has saved last where it began has moved nowhere.
-/

namespace ServerMigration.Commander

open Program

variable {S C E T : Type} [DecidableEq S] [ToString S]

/-- `Climb lifecycle s statuses t` says that an entity comes from `s` to `t` by moves to the next
status, and is saved at `statuses` on its way. -/
inductive Climb (lifecycle : StatusLifecycle S) : S → List S → S → Prop
  /-- It stays. -/
  | here (s : S) : Climb lifecycle s [] s
  /-- It is saved where it is. -/
  | saved {s t : S} {statuses : List S} (onward : Climb lifecycle s statuses t) :
      Climb lifecycle s (s :: statuses) t
  /-- It moves to the next status. -/
  | moved {s t u : S} {statuses : List S} (found : lifecycle.next s = .ok t)
      (onward : Climb lifecycle t statuses u) : Climb lifecycle s statuses u

namespace Climb

variable {lifecycle : StatusLifecycle S} {s t u : S} {first second : List S}

theorem append (hfirst : Climb lifecycle s first t) (hsecond : Climb lifecycle t second u) :
    Climb lifecycle s (first ++ second) u := by
  induction hfirst with
  | here _ => exact hsecond
  | saved _ ih => exact .saved (ih hsecond)
  | moved found _ ih => exact .moved found (ih hsecond)

/-- A climb may be cut off behind any save. -/
theorem of_append (climb : Climb lifecycle s (first ++ second) u) :
    ∃ t, Climb lifecycle s first t := by
  generalize hall : first ++ second = all at climb
  induction climb generalizing first with
  | here s =>
    obtain ⟨rfl, -⟩ := List.append_eq_nil_iff.mp hall
    exact ⟨s, .here s⟩
  | @saved s _ statuses _ ih =>
    cases first with
    | nil => exact ⟨s, .here s⟩
    | cons head first =>
      obtain ⟨rfl, rfl⟩ := List.cons.inj hall
      obtain ⟨t, climb⟩ := ih rfl
      exact ⟨t, .saved climb⟩
  | moved found _ ih =>
    obtain ⟨t, climb⟩ := ih hall
    exact ⟨t, .moved found climb⟩

variable {rank : S → Nat}

/-- Every save stands where the climb began or further on. -/
theorem rank_le_of_mem (climb : Climb lifecycle s first u)
    (rises : ∀ s t, lifecycle.next s = .ok t → rank s < rank t) (hmem : t ∈ first) :
    rank s ≤ rank t := by
  induction climb with
  | here _ => exact absurd hmem List.not_mem_nil
  | saved _ ih =>
    rcases List.mem_cons.mp hmem with rfl | hmem
    · exact Nat.le_refl _
    · exact ih hmem
  | moved found _ ih => exact Nat.le_trans (Nat.le_of_lt (rises _ _ found)) (ih hmem)

/-- **A climb that has saved last where it began has moved nowhere before.** -/
theorem eq_of_last (climb : Climb lifecycle s first u)
    (rises : ∀ s t, lifecycle.next s = .ok t → rank s < rank t) (last : first.getLast? = some s)
    (hmem : t ∈ first) : t = s := by
  induction climb with
  | here _ => exact absurd hmem List.not_mem_nil
  | @saved s _ statuses _ ih =>
    rcases List.mem_cons.mp hmem with rfl | hmem
    · rfl
    · refine ih ?_ hmem
      obtain ⟨next, statuses, rfl⟩ := List.exists_cons_of_ne_nil (List.ne_nil_of_mem hmem)
      rwa [List.getLast?_cons_cons] at last
  | @moved s next _ statuses found onward _ =>
    -- All that is saved behind the move stands further on, the last save too.
    have hlast := onward.rank_le_of_mem rises (List.mem_of_getLast? last)
    exact absurd hlast (Nat.not_le_of_lt (rises s next found))

end Climb

variable [ToString C] [Staged E S T] {commander : Commander S C} {entity after : E}
  {trace : Trace S C E T}

/-- The statuses at which an entity has been saved, in order. -/
def savedAt (trace : Trace S C E T) : List S := (saves trace).map Staged.status

omit [DecidableEq S] [ToString S] [ToString C] in
theorem savedAt_append (first second : Trace S C E T) :
    savedAt (first ++ second) = savedAt first ++ savedAt second := by
  rw [savedAt, saves_append, List.map_append]
  rfl

omit [DecidableEq S] [ToString S] [ToString C] in
/-- A command that succeeds is saved at the status of the entity, paused or not. -/
private theorem savedAt_of_succeeded {command : C} {run : CommandRun E} {signal : Option Signal}
    {pause rest : Trace S C E T} {dozed : E} (doze : Dozed signal run.entity pause dozed)
    (hrest : saves rest = [dozed])
    (keeps : KeepsStage ([⟨.hooks .before (Staged.status entity) entity, .ok ()⟩,
      ⟨.run command entity, run⟩] ++ pause ++ rest)) :
    Staged.status dozed = Staged.status entity
      ∧ savedAt ([⟨.hooks .before (Staged.status entity) entity, .ok ()⟩,
          ⟨.run command entity, run⟩] ++ pause ++ rest) = [Staged.status entity] := by
  obtain ⟨hstatus, -⟩ := keeps command entity run (by simp)
  have hdozed : Staged.status dozed = Staged.status run.entity ∧ (saves pause : List E) = [] := by
    cases doze with
    | awake => exact ⟨rfl, rfl⟩
    | asleep _ time => exact ⟨by simp, rfl⟩
  refine ⟨hdozed.1.trans hstatus, ?_⟩
  rw [savedAt, saves_append, saves_append, hdozed.2, hrest, ← hstatus, ← hdozed.1]
  rfl

omit [DecidableEq S] in
/-- The run of a command saves the entity at its status, if it saves it at all. -/
private theorem savedAt_of_performed {command : C}
    {result : Except CommanderError (Option Signal)}
    (performed : Performed (Staged.status entity) command entity trace result after)
    (keeps : KeepsStage trace) :
    Staged.status after = Staged.status entity
      ∧ (savedAt trace = [] ∨ savedAt trace = [Staged.status entity]) := by
  cases performed with
  | beforeFailed reason => exact ⟨rfl, .inl rfl⟩
  | @commandFailed run error verdict saved =>
    obtain ⟨hstatus, -⟩ := keeps command entity run (by simp)
    refine ⟨hstatus, .inr ?_⟩
    rw [← hstatus]
    rfl
  | refused verdict doze refusal =>
    obtain ⟨hdozed, hsaved⟩ := savedAt_of_succeeded doze rfl keeps
    exact ⟨hdozed, .inr hsaved⟩
  | afterFailed verdict doze reason time =>
    obtain ⟨hdozed, hsaved⟩ := savedAt_of_succeeded doze rfl keeps
    exact ⟨by rwa [Staged.status_setPaused], .inr hsaved⟩
  | ended verdict doze =>
    obtain ⟨hdozed, hsaved⟩ := savedAt_of_succeeded doze rfl keeps
    exact ⟨hdozed, .inr hsaved⟩

/-- At its status an entity is saved once at most. -/
theorem climb_of_attended {result : Except CommanderError (Option Signal)}
    (attended : Attended commander entity trace result after) (keeps : KeepsStage trace) :
    Climb commander.lifecycle (Staged.status entity) (savedAt trace) (Staged.status after) := by
  cases attended with
  | idle free => exact .here _
  | busy bound performed =>
    obtain ⟨hstatus, hsaved | hsaved⟩ := savedAt_of_performed performed keeps
    · rw [hstatus, hsaved]
      exact .here _
    · rw [hstatus, hsaved]
      exact .saved (.here _)

omit [ToString C] in
/-- A move that is accepted is saved at the next status; there is no other that is saved. -/
theorem climb_of_moved {result : Except CommanderError Unit}
    (move : Moved commander entity trace result after)
    (accepted : ∀ exchange ∈ trace, SaveAccepted exchange) :
    Climb commander.lifecycle (Staged.status entity) (savedAt trace) (Staged.status after) := by
  cases move with
  | nowhere missing => exact .here _
  | @saved new found time time' =>
    have hnew : Staged.status (Staged.setPaused time' false (Staged.setStatus time new entity))
        = new := by simp
    have hsaved : savedAt ([⟨.clock, time⟩, ⟨.clock, time'⟩,
        ⟨.transition (Staged.status entity) new
          (Staged.setPaused time' false (Staged.setStatus time new entity)), .ok ()⟩]
        : Trace S C E T)
        = [Staged.status (Staged.setPaused time' false (Staged.setStatus time new entity))] := rfl
    rw [hsaved, hnew]
    exact .moved found (.saved (.here _))
  | refused found time time' back back' refusal =>
    have haccepted := accepted ⟨.transition _ _ _, .error refusal⟩ (by simp; exact ⟨rfl, rfl, rfl⟩)
    cases haccepted

theorem climb_of_rounded {result : Except CommanderError (Option (Outcome S))}
    (rounded : Rounded commander entity trace result after) (keeps : KeepsStage trace)
    (accepted : ∀ exchange ∈ trace, SaveAccepted exchange) :
    Climb commander.lifecycle (Staged.status entity) (savedAt trace) (Staged.status after) := by
  cases rounded with
  | unknown missing => exact .here _
  | failed attended | slept attended | completed attended final =>
    exact climb_of_attended attended keeps
  | held attended inner move | moved attended inner move =>
    rw [savedAt_append]
    exact (climb_of_attended attended keeps.left).append
      (climb_of_moved move (List.forall_mem_append.mp accepted).2)

theorem climb_of_runs_rounds {left : Nat} {result : Except CommanderError (Outcome S)}
    (h : Runs (rounds commander left) entity trace result after) (keeps : KeepsStage trace)
    (accepted : ∀ exchange ∈ trace, SaveAccepted exchange) :
    Climb commander.lifecycle (Staged.status entity) (savedAt trace) (Staged.status after) := by
  induction left generalizing entity trace with
  | zero =>
    rw [rounds, runs_get_bind_iff] at h
    obtain ⟨rfl, rfl, rfl⟩ := runs_throw_iff.mp h
    exact .here _
  | succ left ih =>
    rcases runs_rounds_iff.mp h with
      ⟨error, hround, rfl⟩ | ⟨outcome, hround, rfl⟩ | ⟨middle, first, second, hround, hrest, rfl⟩
    · exact climb_of_rounded (rounded_of_runs hround) keeps accepted
    · exact climb_of_rounded (rounded_of_runs hround) keeps accepted
    · obtain ⟨hfirst, hsecond⟩ := List.forall_mem_append.mp accepted
      rw [savedAt_append]
      exact (climb_of_rounded (rounded_of_runs hround) keeps.left hfirst).append
        (ih hrest keeps.right hsecond)

theorem climb_of_runs_execute {result : Except CommanderError (Outcome S)}
    (h : Runs (execute commander) entity trace result after) (keeps : KeepsStage trace)
    (accepted : ∀ exchange ∈ trace, SaveAccepted exchange) :
    Climb commander.lifecycle (Staged.status entity) (savedAt trace) (Staged.status after) := by
  rcases runs_execute_cases h with ⟨-, rfl, rfl, -⟩ | ⟨-, hrounds⟩
  · exact .here _
  · exact climb_of_runs_rounds hrounds keeps accepted

/-- **While every save is accepted, every way to drive an entity is a climb.** -/
theorem climb_of_runs_drive {resume : Resume} {result : Except CommanderError (Outcome S)}
    (h : Runs (drive commander resume) entity trace result after) (keeps : KeepsStage trace)
    (accepted : ∀ exchange ∈ trace, SaveAccepted exchange) :
    Climb commander.lifecycle (Staged.status entity) (savedAt trace) (Staged.status after) := by
  cases driven_of_runs h with
  | executed run => exact climb_of_runs_execute run keeps accepted
  | repeated time run =>
    have climb := climb_of_runs_execute run keeps.tail (List.forall_mem_cons.mp accepted).2
    rwa [Staged.status_setPaused] at climb
  | held move => exact climb_of_moved (moved_of_runs move) accepted
  | advanced move run =>
    obtain ⟨hfirst, hsecond⟩ := List.forall_mem_append.mp accepted
    rw [savedAt_append]
    exact (climb_of_moved (moved_of_runs move) hfirst).append
      (climb_of_runs_execute run keeps.right hsecond)

end ServerMigration.Commander
