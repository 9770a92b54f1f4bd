import ServerMigration.Proofs.Commander.Steps

/-!
# What holds at every status

Something may hold of an entity at each status that the commander brings it to, because the command
of every status achieves what is needed for the next one.  Then every command that is run finds it
to hold, in every call and however the call ends.

## Main definitions

* `Commander.Contract` : what holds at every status, and what commands achieve.
* `Commander.Keeps` : a command that keeps to the contract.
* `Commander.Finds` : a command that is run where the contract holds.

## Main results

* `Commander.Contract.of_runs_drive` : the contract holds in and after every call.
-/

namespace ServerMigration.Commander

open Program

variable {S C E T : Type} [Staged E S T] [DecidableEq S] [ToString S]

/-- `Holds` is to hold of an entity at every status, and `achieved` of a command is what it has done
when it has succeeded.  A pause does not matter to either; an entity moves on from a status whose
command has achieved its part; and an entity that is put back is what it was. -/
structure Contract (commander : Commander S C) (T : Type) [Staged E S T] (Holds : E → Prop)
    (achieved : C → E → Prop) : Prop where
  holds_setPaused : ∀ (time : T) (paused : Bool) (entity : E),
    Holds entity → Holds (Staged.setPaused time paused entity)
  achieved_setPaused : ∀ (command : C) (time : T) (paused : Bool) (entity : E),
    achieved command entity → achieved command (Staged.setPaused time paused entity)
  onward : ∀ (time : T) (new : S) (entity : E), Holds entity →
    (∀ command, commander.commands.get? (Staged.status entity) = some command →
      achieved command entity) →
    commander.lifecycle.next (Staged.status entity) = .ok new →
    Holds (Staged.setStatus time new entity)
  back : ∀ (time time' back : T) (new : S) (entity : E), Holds entity →
    Holds (Staged.setStatus back (Staged.status entity)
      (Staged.setPaused time' false (Staged.setStatus time new entity)))

omit [DecidableEq S] [ToString S] in
/-- A command keeps to the contract: it preserves what holds, leaves the status alone, and achieves
its part if it succeeds. -/
def Keeps (Holds : E → Prop) (achieved : C → E → Prop) : Exchange (Ask S C E) (Answer T) → Prop
  | ⟨.run command entity, run⟩ => Holds entity → Holds run.entity
      ∧ Staged.status run.entity = Staged.status entity
      ∧ ∀ signal, run.outcome = .ok signal → achieved command run.entity
  | _ => True

/-- A command that is run is that of the entity's status, and finds the contract to hold. -/
def Finds (commander : Commander S C) (Holds : E → Prop) : Exchange (Ask S C E) (Answer T) → Prop
  | ⟨.run command entity, _⟩ =>
      Holds entity ∧ commander.commands.get? (Staged.status entity) = some command
  | _ => True

namespace Contract

variable {commander : Commander S C} {Holds : E → Prop} {achieved : C → E → Prop}
  {entity after : E} {trace : Trace S C E T}

/-- A pause does not matter. -/
private theorem of_dozed (contract : Contract commander T Holds achieved)
    {signal : Option Signal} {pause : Trace S C E T} (doze : Dozed signal entity pause after)
    (holds : Holds entity) :
    Holds after ∧ Staged.status after = Staged.status entity
      ∧ (∀ exchange ∈ pause, Finds commander Holds exchange)
      ∧ ∀ command, achieved command entity → achieved command after := by
  cases doze with
  | awake => exact ⟨holds, rfl, by simp, fun _ h => h⟩
  | asleep _ time =>
    refine ⟨contract.holds_setPaused time true _ holds, Staged.status_setPaused .., ?_, ?_⟩
    · simp [Finds]
    · exact fun command h => contract.achieved_setPaused command time true _ h

variable [ToString C]

private theorem of_performed (contract : Contract commander T Holds achieved) {command : C}
    {result : Except CommanderError (Option Signal)}
    (performed : Performed (Staged.status entity) command entity trace result after)
    (bound : commander.commands.get? (Staged.status entity) = some command) (holds : Holds entity)
    (keeps : ∀ exchange ∈ trace, Keeps Holds achieved exchange) :
    Holds after ∧ Staged.status after = Staged.status entity
      ∧ (∀ exchange ∈ trace, Finds commander Holds exchange)
      ∧ ∀ signal, result = .ok signal → achieved command after := by
  -- The run of the command, if there is one, and what is known of the entity behind it.
  have kept (run : CommandRun E) (hmem : (⟨.run command entity, run⟩ :
      Exchange (Ask S C E) (Answer T)) ∈ trace) := keeps _ hmem holds
  cases performed with
  | beforeFailed reason => exact ⟨holds, rfl, by simp [Finds], by simp⟩
  | @commandFailed run error verdict saved =>
    obtain ⟨hafter, hstatus, -⟩ := kept run (by simp)
    exact ⟨hafter, hstatus, by simp [Finds, holds, bound], by simp⟩
  | @refused run signal pause _ verdict doze refusal =>
    obtain ⟨hafter, hstatus, -⟩ := kept run (by simp)
    obtain ⟨hdozed, hstatus', hpause, -⟩ := contract.of_dozed doze hafter
    refine ⟨hdozed, hstatus'.trans hstatus, ?_, by simp⟩
    simpa [Finds, holds, bound, or_imp, forall_and] using hpause
  | @afterFailed run signal pause dozed verdict doze reason time =>
    obtain ⟨hafter, hstatus, -⟩ := kept run (by simp)
    obtain ⟨hdozed, hstatus', hpause, -⟩ := contract.of_dozed doze hafter
    refine ⟨contract.holds_setPaused time false _ hdozed, ?_, ?_, by simp⟩
    · rw [Staged.status_setPaused, hstatus', hstatus]
    · simpa [Finds, holds, bound, or_imp, forall_and] using hpause
  | @ended run signal pause _ verdict doze =>
    obtain ⟨hafter, hstatus, hachieved⟩ := kept run (by simp)
    obtain ⟨hdozed, hstatus', hpause, hkept⟩ := contract.of_dozed doze hafter
    refine ⟨hdozed, hstatus'.trans hstatus, ?_, fun _ _ => ?_⟩
    · simpa [Finds, holds, bound, or_imp, forall_and] using hpause
    · exact hkept command (hachieved signal (settle_eq_ok_iff.mp verdict).2)

private theorem of_attended (contract : Contract commander T Holds achieved)
    {result : Except CommanderError (Option Signal)}
    (attended : Attended commander entity trace result after) (holds : Holds entity)
    (keeps : ∀ exchange ∈ trace, Keeps Holds achieved exchange) :
    Holds after ∧ (∀ exchange ∈ trace, Finds commander Holds exchange)
      ∧ ∀ signal, result = .ok signal → ∀ command,
        commander.commands.get? (Staged.status after) = some command → achieved command after := by
  cases attended with
  | idle free =>
    refine ⟨holds, by simp, fun _ _ command bound => ?_⟩
    cases free.symm.trans bound
  | busy bound performed =>
    obtain ⟨hafter, hstatus, hfinds, hachieved⟩ := contract.of_performed performed bound holds keeps
    refine ⟨hafter, hfinds, fun signal hok command bound' => ?_⟩
    rw [hstatus] at bound'
    cases bound.symm.trans bound'
    exact hachieved signal hok

omit [ToString C] in
private theorem of_moved (contract : Contract commander T Holds achieved)
    {result : Except CommanderError Unit} (move : Moved commander entity trace result after)
    (holds : Holds entity)
    (done : ∀ command, commander.commands.get? (Staged.status entity) = some command →
      achieved command entity) :
    Holds after ∧ ∀ exchange ∈ trace, Finds commander Holds exchange := by
  cases move with
  | nowhere missing => exact ⟨holds, by simp⟩
  | saved found time time' =>
    refine ⟨contract.holds_setPaused time' false _ ?_, by simp [Finds]⟩
    exact contract.onward time _ entity holds done found
  | refused found time time' back back' refusal =>
    refine ⟨contract.holds_setPaused back' _ _ ?_, by simp [Finds]⟩
    exact contract.back time time' back _ entity holds

private theorem of_rounded (contract : Contract commander T Holds achieved)
    {result : Except CommanderError (Option (Outcome S))}
    (rounded : Rounded commander entity trace result after) (holds : Holds entity)
    (keeps : ∀ exchange ∈ trace, Keeps Holds achieved exchange) :
    Holds after ∧ ∀ exchange ∈ trace, Finds commander Holds exchange := by
  cases rounded with
  | unknown missing => exact ⟨holds, by simp⟩
  | failed attended => exact (contract.of_attended attended holds keeps).imp_right And.left
  | slept attended => exact (contract.of_attended attended holds keeps).imp_right And.left
  | completed attended final => exact (contract.of_attended attended holds keeps).imp_right And.left
  | held attended inner move =>
    obtain ⟨hmiddle, hfinds, hdone⟩ := contract.of_attended attended holds
      (List.forall_mem_append.mp keeps).1
    obtain ⟨hafter, hfinds'⟩ := contract.of_moved move hmiddle (hdone none rfl)
    exact ⟨hafter, List.forall_mem_append.mpr ⟨hfinds, hfinds'⟩⟩
  | moved attended inner move =>
    obtain ⟨hmiddle, hfinds, hdone⟩ := contract.of_attended attended holds
      (List.forall_mem_append.mp keeps).1
    obtain ⟨hafter, hfinds'⟩ := contract.of_moved move hmiddle (hdone none rfl)
    exact ⟨hafter, List.forall_mem_append.mpr ⟨hfinds, hfinds'⟩⟩

theorem of_runs_rounds (contract : Contract commander T Holds achieved) {left : Nat}
    {result : Except CommanderError (Outcome S)}
    (h : Runs (rounds commander left) entity trace result after) (holds : Holds entity)
    (keeps : ∀ exchange ∈ trace, Keeps Holds achieved exchange) :
    Holds after ∧ ∀ exchange ∈ trace, Finds commander Holds exchange := by
  induction left generalizing entity trace with
  | zero =>
    rw [rounds, runs_get_bind_iff] at h
    obtain ⟨rfl, rfl, rfl⟩ := runs_throw_iff.mp h
    exact ⟨holds, by simp⟩
  | succ left ih =>
    rcases runs_rounds_iff.mp h with
      ⟨error, hround, rfl⟩ | ⟨outcome, hround, rfl⟩ | ⟨middle, first, second, hround, hrest, rfl⟩
    · exact contract.of_rounded (rounded_of_runs hround) holds keeps
    · exact contract.of_rounded (rounded_of_runs hround) holds keeps
    · obtain ⟨hfirst, hsecond⟩ := List.forall_mem_append.mp keeps
      obtain ⟨hmiddle, hfinds⟩ := contract.of_rounded (rounded_of_runs hround) holds hfirst
      obtain ⟨hafter, hfinds'⟩ := ih hrest hmiddle hsecond
      exact ⟨hafter, List.forall_mem_append.mpr ⟨hfinds, hfinds'⟩⟩

theorem of_runs_execute (contract : Contract commander T Holds achieved)
    {result : Except CommanderError (Outcome S)}
    (h : Runs (execute commander) entity trace result after) (holds : Holds entity)
    (keeps : ∀ exchange ∈ trace, Keeps Holds achieved exchange) :
    Holds after ∧ ∀ exchange ∈ trace, Finds commander Holds exchange := by
  rcases runs_execute_cases h with ⟨-, rfl, rfl, -⟩ | ⟨-, hrounds⟩
  · exact ⟨holds, by simp⟩
  · exact contract.of_runs_rounds hrounds holds keeps

/-- **If commands keep to a contract, and it holds of an entity when a call begins, it holds when
the call has ended, and every command that is run finds it to hold.**  An entity that is to move on
at once has to have what its status achieves. -/
theorem of_runs_drive (contract : Contract commander T Holds achieved) {resume : Resume}
    {result : Except CommanderError (Outcome S)}
    (h : Runs (drive commander resume) entity trace result after) (holds : Holds entity)
    (done : resume = .advance → ∀ command,
      commander.commands.get? (Staged.status entity) = some command → achieved command entity)
    (keeps : ∀ exchange ∈ trace, Keeps Holds achieved exchange) :
    Holds after ∧ ∀ exchange ∈ trace, Finds commander Holds exchange := by
  cases driven_of_runs h with
  | executed run => exact contract.of_runs_execute run holds keeps
  | repeated time run =>
    obtain ⟨hafter, hfinds⟩ := contract.of_runs_execute run
      (contract.holds_setPaused time false _ holds) (List.forall_mem_cons.mp keeps).2
    exact ⟨hafter, List.forall_mem_cons.mpr ⟨trivial, hfinds⟩⟩
  | held move => exact contract.of_moved (moved_of_runs move) holds (done rfl)
  | advanced move run =>
    obtain ⟨hfirst, hsecond⟩ := List.forall_mem_append.mp keeps
    obtain ⟨hmiddle, hfinds⟩ := contract.of_moved (moved_of_runs move) holds (done rfl)
    obtain ⟨hafter, hfinds'⟩ := contract.of_runs_execute run hmiddle hsecond
    exact ⟨hafter, List.forall_mem_append.mpr ⟨hfinds, hfinds'⟩⟩

end Contract

end ServerMigration.Commander
