import ServerMigration.Proofs.Commander.Steps
import ServerMigration.Proofs.Lifecycle.Places
import ServerMigration.Rehearsal.Steps

/-!
# The way of an entity through its lifecycle

An entity that is awake is taken from its status on, status by status.  What the surroundings
notice of it is a sequence of events that the lifecycle and the command table prescribe: the hooks,
the run, the checkpoint and the hooks of every status that has a command, and the transition to the
next status.  The first failure ends it.

That holds as long as the commands leave status and pause of the entity to the commander.

## Main definitions

* `Commander.Event`, `Commander.events` : what the surroundings notice of a run.
* `Commander.KeepsStage` : the commands of a run leave status and pause alone.
* `Commander.Visit`, `Commander.Stay`, `Commander.Itinerary` : the prescribed events of a command,
  of a status and of a stretch of the lifecycle.

## Main results

* `Commander.itinerary_of_runs_rounds`, `Commander.itinerary_of_runs_execute` : rounds and
  executions follow the itinerary.
* `Commander.execute_follows_itinerary` : so does an execution, without running a command twice,
  skipping a status or running ahead of a transition.
-/

namespace ServerMigration.Commander

open Program

variable {S C E T : Type}

/-! ### Events -/

/-- What the surroundings notice of the commander. -/
inductive Event (S C : Type)
  /-- The hooks of a phase have been called. -/
  | hooks (phase : HookPhase) (status : S) (answer : Except String Unit)
  /-- A command has been run, with the failures it collected and its outcome. -/
  | command (status : S) (command : C) (errors : StepErrors)
      (outcome : Except CommandError (Option Signal))
  /-- The entity has been saved after a command. -/
  | checkpoint (status : S) (answer : Except PersistenceError Unit)
  /-- The entity has been saved at its next status. -/
  | transition (old new : S) (answer : Except PersistenceError Unit)

/-- The statuses at which commands have been run. -/
def ranAt (happened : List (Event S C)) : List S :=
  happened.filterMap fun
    | .command s .. => some s
    | _ => none

/-- The moves that have been put to the store, accepted or not. -/
def moves (happened : List (Event S C)) : List (S × S) :=
  happened.filterMap fun
    | .transition old new _ => some (old, new)
    | _ => none

section

variable [Staged E S T]

/-- The event of an answered question; a look at the clock is none. -/
def Event.ofExchange : Exchange (Ask S C E) (Answer T) → Option (Event S C)
  | ⟨.clock, _⟩ => none
  | ⟨.hooks phase s _, answer⟩ => some (.hooks phase s answer)
  | ⟨.run c entity, run⟩ => some (.command (Staged.status entity) c run.errors run.outcome)
  | ⟨.checkpoint entity, answer⟩ => some (.checkpoint (Staged.status entity) answer)
  | ⟨.transition old new _, answer⟩ => some (.transition old new answer)

/-- The events of a run, in order. -/
def events (trace : Trace S C E T) : List (Event S C) := trace.filterMap Event.ofExchange

theorem events_append (first second : Trace S C E T) :
    events (first ++ second) = events first ++ events second :=
  List.filterMap_append

theorem events_cons (exchange : Exchange (Ask S C E) (Answer T)) (rest : Trace S C E T) :
    events (exchange :: rest) = (Event.ofExchange exchange).toList ++ events rest := by
  rw [events, List.filterMap_cons]
  cases Event.ofExchange exchange <;> rfl

@[simp] theorem events_nil : events ([] : Trace S C E T) = ([] : List (Event S C)) := rfl

/-- The commands that have been run have left status and pause of the entity as they were. -/
def KeepsStage (trace : Trace S C E T) : Prop :=
  ∀ command entity run, (⟨.run command entity, run⟩ : Exchange (Ask S C E) (Answer T)) ∈ trace →
    Staged.status run.entity = Staged.status entity
      ∧ Staged.isPaused run.entity = Staged.isPaused entity

theorem KeepsStage.tail {exchange : Exchange (Ask S C E) (Answer T)} {rest : Trace S C E T}
    (keeps : KeepsStage (exchange :: rest)) : KeepsStage rest :=
  fun command entity run hmem => keeps command entity run (List.mem_cons_of_mem exchange hmem)

theorem KeepsStage.left {first second : Trace S C E T} (keeps : KeepsStage (first ++ second)) :
    KeepsStage first :=
  fun command entity run hmem => keeps command entity run (List.mem_append_left second hmem)

theorem KeepsStage.right {first second : Trace S C E T} (keeps : KeepsStage (first ++ second)) :
    KeepsStage second :=
  fun command entity run hmem => keeps command entity run (List.mem_append_right first hmem)

end

/-! ### What is prescribed -/

/-- The events of a command at a status, the result, and whether the entity is paused by them. -/
inductive Visit [ToString S] [ToString C] (s : S) (command : C) :
    List (Event S C) → Except CommanderError (Option Signal) → Bool → Prop
  /-- A hook before the command fails. -/
  | beforeFailed (reason : String) :
      Visit s command [.hooks .before s (.error reason)]
        (.error (.hookFailed (toString s) .before reason)) false
  /-- The command fails or collects failures; whether its checkpoint is accepted does not
  matter. -/
  | commandFailed {errors : StepErrors} {outcome : Except CommandError (Option Signal)}
      {error : CommandError} (verdict : settle (toString command) errors outcome = .error error)
      (saved : Except PersistenceError Unit) :
      Visit s command
        [.hooks .before s (.ok ()), .command s command errors outcome, .checkpoint s saved]
        (.error (.commandFailed (toString s) error)) false
  /-- The command succeeds, and its checkpoint is rejected. -/
  | rejected (signal : Option Signal) (refusal : PersistenceError) :
      Visit s command
        [.hooks .before s (.ok ()), .command s command [] (.ok signal),
          .checkpoint s (.error refusal)]
        (.error (.persistence refusal)) signal.isSome
  /-- A hook behind the command fails. -/
  | afterFailed (signal : Option Signal) (reason : String) :
      Visit s command
        [.hooks .before s (.ok ()), .command s command [] (.ok signal), .checkpoint s (.ok ()),
          .hooks .after s (.error reason)]
        (.error (.hookFailed (toString s) .after reason)) false
  /-- Everything succeeds. -/
  | ended (signal : Option Signal) :
      Visit s command
        [.hooks .before s (.ok ()), .command s command [] (.ok signal), .checkpoint s (.ok ()),
          .hooks .after s (.ok ())]
        (.ok signal) signal.isSome

variable [DecidableEq S] [ToString S] [ToString C]

/-- The events at a status: those of its command, or none if it has no command. -/
inductive Stay (commander : Commander S C) (s : S) :
    List (Event S C) → Except CommanderError (Option Signal) → Bool → Prop
  /-- The status has no command. -/
  | idle (free : commander.commands.get? s = none) : Stay commander s [] (.ok none) false
  /-- Its command is run. -/
  | busy {command : C} {happened : List (Event S C)}
      {result : Except CommanderError (Option Signal)} {paused : Bool}
      (bound : commander.commands.get? s = some command)
      (visit : Visit s command happened result paused) :
      Stay commander s happened result paused

/-- `Itinerary commander stretch happened stop result paused` says that an entity at the head of
`stretch`, the end of a lifecycle, goes through the events `happened`, stops at `stop` with
`result`, and is `paused` there. -/
inductive Itinerary (commander : Commander S C) :
    List S → List (Event S C) → S → Except CommanderError (Outcome S) → Bool → Prop
  /-- The command of the status fails. -/
  | failed {s : S} {later : List S} {happened : List (Event S C)} {error : CommanderError}
      {paused : Bool} (stay : Stay commander s happened (.error error) paused) :
      Itinerary commander (s :: later) happened s (.error error) paused
  /-- The command of the status asks to sleep. -/
  | slept {s : S} {later : List S} {happened : List (Event S C)} {paused : Bool}
      (stay : Stay commander s happened (.ok (some .sleep)) paused) :
      Itinerary commander (s :: later) happened s (.ok (.paused s)) paused
  /-- The final status is done. -/
  | completed {s : S} {happened : List (Event S C)} {paused : Bool}
      (stay : Stay commander s happened (.ok none) paused) :
      Itinerary commander [s] happened s (.ok (.completed s)) paused
  /-- The status is done, and the transition to the next one is rejected. -/
  | held {s t : S} {later : List S} {happened : List (Event S C)} {paused : Bool}
      (stay : Stay commander s happened (.ok none) paused) (refusal : PersistenceError) :
      Itinerary commander (s :: t :: later) (happened ++ [.transition s t (.error refusal)]) s
        (.error (.persistence refusal)) paused
  /-- The status is done, and so it goes on from the next one. -/
  | moved {s t stop : S} {later : List S} {happened rest : List (Event S C)}
      {result : Except CommanderError (Outcome S)} {paused paused' : Bool}
      (stay : Stay commander s happened (.ok none) paused)
      (onward : Itinerary commander (t :: later) rest stop result paused') :
      Itinerary commander (s :: t :: later) (happened ++ .transition s t (.ok ()) :: rest) stop
        result paused'

/-! ### What is prescribed is what happens -/

section

variable [Staged E S T] {commander : Commander S C} {entity after : E} {trace : Trace S C E T}

omit [DecidableEq S] [ToString S] [ToString C] in
/-- A pause touches neither the status nor the surroundings, and is there if the command asked for
it. -/
theorem Dozed.stage {signal : Option Signal} {pause : Trace S C E T}
    (doze : Dozed signal entity pause after) (awake : Staged.isPaused entity = false) :
    Staged.status after = Staged.status entity ∧ Staged.isPaused after = signal.isSome
      ∧ (events pause : List (Event S C)) = [] := by
  cases doze with
  | awake => exact ⟨rfl, awake, rfl⟩
  | asleep _ time => exact ⟨by simp, by simp, rfl⟩

omit [DecidableEq S] [ToString S] in
/-- A command that succeeds is noticed as such, and leaves the entity at its status, asleep if it
asked for that. -/
private theorem stage_of_succeeded {command : C} {run : CommandRun E} {signal : Option Signal}
    {pause : Trace S C E T} {dozed : E} (awake : Staged.isPaused entity = false)
    (keeps : KeepsStage trace)
    (ran : (⟨.run command entity, run⟩ : Exchange (Ask S C E) (Answer T)) ∈ trace)
    (verdict : settle (toString command) run.errors run.outcome = .ok signal)
    (doze : Dozed signal run.entity pause dozed) :
    Staged.status dozed = Staged.status entity ∧ Staged.isPaused dozed = signal.isSome
      ∧ events ([⟨.hooks .before (Staged.status entity) entity, .ok ()⟩,
            ⟨.run command entity, run⟩] ++ pause)
        = [.hooks .before (Staged.status entity) (.ok ()),
            .command (Staged.status entity) command [] (.ok signal)] := by
  obtain ⟨hstatus, hpaused⟩ := keeps command entity run ran
  obtain ⟨hdozed, hflag, hquiet⟩ := doze.stage (hpaused.trans awake)
  obtain ⟨herrors, houtcome⟩ := settle_eq_ok_iff.mp verdict
  refine ⟨hdozed.trans hstatus, hflag, ?_⟩
  rw [events_append, hquiet, ← herrors, ← houtcome]
  rfl

omit [DecidableEq S] in
theorem visit_of_performed {command : C} {result : Except CommanderError (Option Signal)}
    (performed : Performed (Staged.status entity) command entity trace result after)
    (awake : Staged.isPaused entity = false) (keeps : KeepsStage trace) :
    Staged.status after = Staged.status entity
      ∧ Visit (Staged.status entity) command (events trace) result (Staged.isPaused after) := by
  cases performed with
  | beforeFailed reason =>
    refine ⟨rfl, ?_⟩
    rw [awake]
    exact .beforeFailed reason
  | @commandFailed run error verdict saved =>
    obtain ⟨hstatus, hpaused⟩ := keeps command entity run (by simp)
    refine ⟨hstatus, ?_⟩
    rw [hpaused, awake]
    have visit : Visit (Staged.status entity) command _ _ _ := .commandFailed verdict saved
    simpa [events_cons, Event.ofExchange, hstatus] using visit
  | @refused run signal pause _ verdict doze refusal =>
    obtain ⟨hstatus, hflag, hevents⟩ := stage_of_succeeded awake keeps (by simp) verdict doze
    refine ⟨hstatus, ?_⟩
    rw [events_append, hevents, hflag, events_cons, Event.ofExchange, hstatus]
    exact .rejected signal refusal
  | @afterFailed run signal pause dozed verdict doze reason time =>
    obtain ⟨hstatus, -, hevents⟩ := stage_of_succeeded awake keeps (by simp) verdict doze
    rw [Staged.status_setPaused, Staged.isPaused_setPaused]
    refine ⟨hstatus, ?_⟩
    rw [events_append, hevents, events_cons, Event.ofExchange, hstatus]
    exact .afterFailed signal reason
  | @ended run signal pause _ verdict doze =>
    obtain ⟨hstatus, hflag, hevents⟩ := stage_of_succeeded awake keeps (by simp) verdict doze
    refine ⟨hstatus, ?_⟩
    rw [events_append, hevents, hflag, events_cons, Event.ofExchange, hstatus]
    exact .ended signal

theorem stay_of_attended {result : Except CommanderError (Option Signal)}
    (attended : Attended commander entity trace result after)
    (awake : Staged.isPaused entity = false) (keeps : KeepsStage trace) :
    Staged.status after = Staged.status entity
      ∧ Stay commander (Staged.status entity) (events trace) result (Staged.isPaused after) := by
  cases attended with
  | idle free =>
    refine ⟨rfl, ?_⟩
    rw [awake]
    exact .idle free
  | busy bound performed =>
    obtain ⟨hstatus, visit⟩ := visit_of_performed performed awake keeps
    exact ⟨hstatus, .busy bound visit⟩

omit [ToString C] in
/-- What a move that succeeds does. -/
theorem Moved.onward (move : Moved commander entity trace (.ok ()) after) :
    commander.lifecycle.next (Staged.status entity) = .ok (Staged.status after)
      ∧ Staged.isPaused after = false
      ∧ (events trace : List (Event S C))
        = [.transition (Staged.status entity) (Staged.status after) (.ok ())] := by
  cases move with
  | saved found time time' =>
    rw [Staged.status_setPaused, Staged.status_setStatus, Staged.isPaused_setPaused]
    exact ⟨found, rfl, rfl⟩

omit [ToString C] in
/-- What a move that fails does: status and pause are what they were. -/
theorem Moved.back {error : CommanderError}
    (move : Moved commander entity trace (.error error) after) :
    Staged.status after = Staged.status entity ∧ Staged.isPaused after = Staged.isPaused entity
      ∧ ((events trace : List (Event S C)) = [] ∧ (∃ missing,
            commander.lifecycle.next (Staged.status entity) = .error missing)
        ∨ ∃ new refusal, commander.lifecycle.next (Staged.status entity) = .ok new
            ∧ error = .persistence refusal
            ∧ events trace = [.transition (Staged.status entity) new (.error refusal)]) := by
  cases move with
  | nowhere missing => exact ⟨rfl, rfl, .inl ⟨rfl, _, missing⟩⟩
  | refused found time time' back back' refusal =>
    rw [Staged.status_setPaused, Staged.status_setStatus, Staged.isPaused_setPaused]
    exact ⟨rfl, rfl, .inr ⟨_, refusal, found, rfl, rfl⟩⟩

/-- A round that fails ends the itinerary. -/
theorem itinerary_of_failed_round {earlier later : List S} {error : CommanderError}
    (cut : commander.lifecycle.statuses = earlier ++ Staged.status entity :: later)
    (awake : Staged.isPaused entity = false) (keeps : KeepsStage trace)
    (rounded : Rounded commander entity trace (.error error) after) :
    Itinerary commander (Staged.status entity :: later) (events trace) (Staged.status after)
      (.error error) (Staged.isPaused after) := by
  cases rounded with
  | unknown missing =>
    rw [StatusLifecycle.position_of_cut cut] at missing
    cases missing
  | failed attended =>
    obtain ⟨hstatus, stay⟩ := stay_of_attended attended awake keeps
    rw [hstatus]
    exact .failed stay
  | @held first second middle _ _ attended inner move =>
    obtain ⟨hstatus, stay⟩ := stay_of_attended attended awake keeps.left
    rw [StatusLifecycle.isTerminal_of_cut cut] at inner
    cases later with
    | nil => cases inner
    | cons t later =>
      obtain ⟨hback, hpaused, ⟨-, _, missing⟩ | ⟨new, refusal, found, rfl, hevents⟩⟩ := move.back
      · rw [hstatus, StatusLifecycle.next_of_cut cut] at missing
        cases missing
      · rw [hstatus, StatusLifecycle.next_of_cut cut] at found
        cases found
        rw [events_append, hevents, hback, hpaused, hstatus]
        exact .held stay refusal

/-- A round that stops ends the itinerary. -/
theorem itinerary_of_stopped_round {earlier later : List S} {outcome : Outcome S}
    (cut : commander.lifecycle.statuses = earlier ++ Staged.status entity :: later)
    (awake : Staged.isPaused entity = false) (keeps : KeepsStage trace)
    (rounded : Rounded commander entity trace (.ok (some outcome)) after) :
    Itinerary commander (Staged.status entity :: later) (events trace) (Staged.status after)
      (.ok outcome) (Staged.isPaused after) := by
  cases rounded with
  | slept attended =>
    obtain ⟨hstatus, stay⟩ := stay_of_attended attended awake keeps
    rw [hstatus]
    exact .slept stay
  | completed attended final =>
    obtain ⟨hstatus, stay⟩ := stay_of_attended attended awake keeps
    rw [StatusLifecycle.isTerminal_of_cut cut, List.isEmpty_iff] at final
    rw [hstatus, final]
    exact .completed stay

/-- A round that goes on leads to the next status, and the entity is awake there. -/
theorem stay_of_moved_round {earlier later : List S}
    (cut : commander.lifecycle.statuses = earlier ++ Staged.status entity :: later)
    (awake : Staged.isPaused entity = false) (keeps : KeepsStage trace)
    (rounded : Rounded commander entity trace (.ok none) after) :
    Staged.isPaused after = false ∧ ∃ rest happened paused,
      later = Staged.status after :: rest
        ∧ events trace
          = happened ++ [.transition (Staged.status entity) (Staged.status after) (.ok ())]
        ∧ Stay commander (Staged.status entity) happened (.ok none) paused := by
  cases rounded with
  | @moved first second middle _ attended inner move =>
    obtain ⟨hstatus, stay⟩ := stay_of_attended attended awake keeps.left
    rw [StatusLifecycle.isTerminal_of_cut cut] at inner
    cases later with
    | nil => cases inner
    | cons t later =>
      obtain ⟨found, hawake, hevents⟩ := move.onward
      rw [hstatus, StatusLifecycle.next_of_cut cut, Except.ok.injEq] at found
      refine ⟨hawake, later, events first, _, by rw [found], ?_, stay⟩
      rw [events_append, hevents, hstatus]

/-- **Rounds follow the itinerary, and there is at most one for each status that is left.** -/
theorem itinerary_of_runs_rounds {earlier later : List S} {left : Nat}
    {result : Except CommanderError (Outcome S)}
    (cut : commander.lifecycle.statuses = earlier ++ Staged.status entity :: later)
    (enough : later.length < left) (awake : Staged.isPaused entity = false)
    (keeps : KeepsStage trace) (h : Runs (rounds commander left) entity trace result after) :
    Itinerary commander (Staged.status entity :: later) (events trace) (Staged.status after) result
        (Staged.isPaused after)
      ∧ Runs (rounds commander (later.length + 1)) entity trace result after := by
  -- The induction is on the rounds: every round but the last uses up one of the statuses left.
  induction left generalizing earlier later entity trace with
  | zero => exact absurd enough (Nat.not_lt_zero _)
  | succ left ih =>
    rcases runs_rounds_iff.mp h with
      ⟨error, hround, rfl⟩ | ⟨outcome, hround, rfl⟩ | ⟨middle, first, second, hround, hrest, rfl⟩
    · refine ⟨itinerary_of_failed_round cut awake keeps (rounded_of_runs hround), ?_⟩
      exact runs_rounds_iff.mpr (.inl ⟨error, hround, rfl⟩)
    · refine ⟨itinerary_of_stopped_round cut awake keeps (rounded_of_runs hround), ?_⟩
      exact runs_rounds_iff.mpr (.inr (.inl ⟨outcome, hround, rfl⟩))
    · obtain ⟨hawake, rest, happened, paused, rfl, hevents, stay⟩ :=
        stay_of_moved_round cut awake keeps.left (rounded_of_runs hround)
      have cut' : commander.lifecycle.statuses
          = (earlier ++ [Staged.status entity]) ++ Staged.status middle :: rest := by
        simpa using cut
      obtain ⟨onward, hruns⟩ := ih cut' (Nat.lt_of_succ_lt_succ enough) hawake keeps.right hrest
      refine ⟨?_, runs_rounds_iff.mpr (.inr (.inr ⟨middle, first, second, hround, hruns, rfl⟩))⟩
      have moved := Itinerary.moved stay onward
      simpa [events_append, hevents] using moved

/-- An execution leaves an entity that sleeps as it is, and takes one that is awake along the
itinerary from its place. -/
theorem itinerary_of_runs_execute {earlier later : List S}
    {result : Except CommanderError (Outcome S)}
    (cut : commander.lifecycle.statuses = earlier ++ Staged.status entity :: later)
    (keeps : KeepsStage trace) (h : Runs (execute commander) entity trace result after) :
    (Staged.isPaused entity = true ∧ trace = [] ∧ after = entity
        ∧ result = .ok (.paused (Staged.status entity))) ∨
      Itinerary commander (Staged.status entity :: later) (events trace) (Staged.status after)
        result (Staged.isPaused after) := by
  rcases runs_execute_cases h with
    ⟨asleep, rfl, rfl, ⟨error, missing, -⟩ | rfl⟩ | ⟨awake, hrounds⟩
  · rw [StatusLifecycle.position_of_cut cut] at missing
    cases missing
  · exact .inl ⟨asleep, rfl, rfl, rfl⟩
  · have enough : later.length < commander.lifecycle.statuses.length := by
      rw [cut, List.length_append, List.length_cons]
      omega
    exact .inr (itinerary_of_runs_rounds cut enough awake keeps hrounds).1

end

/-! ### What an itinerary rules out -/

variable {commander : Commander S C}

/-- During a stay nothing moves, and no command but that of the status is run, once. -/
private theorem Stay.quiet {s : S} {happened : List (Event S C)}
    {result : Except CommanderError (Option Signal)} {paused : Bool}
    (stay : Stay commander s happened result paused) :
    moves happened = [] ∧ (ranAt happened).Sublist [s] := by
  cases stay with
  | idle free => exact ⟨rfl, List.nil_sublist _⟩
  | busy bound visit => cases visit <;> simp [moves, ranAt]

private theorem Stay.command_here {s t : S} {happened : List (Event S C)}
    {result : Except CommanderError (Option Signal)} {paused : Bool}
    (stay : Stay commander s happened result paused) {c : C} {errors : StepErrors}
    {outcome : Except CommandError (Option Signal)}
    (hmem : Event.command t c errors outcome ∈ happened) : t = s := by
  cases stay with
  | idle free => cases hmem
  | busy bound visit =>
    cases visit <;> simp at hmem <;> exact hmem.1

theorem Itinerary.ranAt_sublist {stretch : List S} {happened : List (Event S C)} {stop : S}
    {result : Except CommanderError (Outcome S)} {paused : Bool}
    (itinerary : Itinerary commander stretch happened stop result paused) :
    (ranAt happened).Sublist stretch := by
  induction itinerary with
  | failed stay => exact stay.quiet.2.trans (by simp)
  | slept stay => exact stay.quiet.2.trans (by simp)
  | completed stay => exact stay.quiet.2
  | held stay refusal =>
    rw [ranAt, List.filterMap_append]
    simpa [ranAt] using stay.quiet.2.trans (by simp)
  | moved stay onward ih =>
    rw [ranAt, List.filterMap_append]
    exact stay.quiet.2.append ih

theorem Itinerary.moves_prefix {stretch : List S} {happened : List (Event S C)} {stop : S}
    {result : Except CommanderError (Outcome S)} {paused : Bool}
    (itinerary : Itinerary commander stretch happened stop result paused) :
    moves happened <+: stretch.zip stretch.tail := by
  induction itinerary with
  | failed stay => simp [stay.quiet.1]
  | slept stay => simp [stay.quiet.1]
  | completed stay => simp [stay.quiet.1]
  | held stay refusal =>
    have hquiet := stay.quiet.1
    rw [moves, List.filterMap_append, ← moves, hquiet]
    simp
  | moved stay onward ih =>
    have hquiet := stay.quiet.1
    rw [moves, List.filterMap_append, ← moves, hquiet]
    simpa [moves] using ih

/-- A command is run at the status where the itinerary begins, or behind an accepted transition to
its status. -/
theorem Itinerary.command_after_transition {stretch : List S} {s stop : S}
    {happened before rest : List (Event S C)} {c : C} {errors : StepErrors}
    {outcome : Except CommandError (Option Signal)} {result : Except CommanderError (Outcome S)}
    {paused : Bool} (itinerary : Itinerary commander stretch happened stop result paused)
    (split : happened = before ++ .command s c errors outcome :: rest) :
    stretch.head? = some s ∨ ∃ old, Event.transition old s (.ok ()) ∈ before := by
  have hmem : Event.command s c errors outcome ∈ happened := by simp [split]
  induction itinerary generalizing before with
  | failed stay => exact .inl (by rw [stay.command_here hmem, List.head?_cons])
  | slept stay => exact .inl (by rw [stay.command_here hmem, List.head?_cons])
  | completed stay => exact .inl (by rw [stay.command_here hmem, List.head?_cons])
  | held stay refusal =>
    have hstay := (List.mem_append.mp hmem).resolve_right (by simp)
    exact .inl (by rw [stay.command_here hstay, List.head?_cons])
  | @moved start t stop later happened onwards result _ _ stay onward ih =>
    -- The command stands behind the transition, where the rest of the itinerary begins, or before
    -- it, in the stay.
    rcases List.append_eq_append_iff.mp split with
      ⟨between, rfl, hrest⟩ | ⟨between, rfl, hrest⟩
    · cases between with
      | nil => cases hrest
      | cons event between =>
        obtain ⟨rfl, rfl⟩ := List.cons.inj hrest
        rcases ih rfl (by simp) with hhead | ⟨old, hold⟩
        · refine .inr ⟨start, ?_⟩
          rw [List.head?_cons, Option.some.injEq] at hhead
          simp [hhead]
        · exact .inr ⟨old, by simp [hold]⟩
    · cases between with
      | nil => cases hrest
      | cons event between =>
        obtain ⟨rfl, -⟩ := List.cons.inj hrest
        have hstay : Event.command s c errors outcome
            ∈ before ++ .command s c errors outcome :: between := by simp
        exact .inl (by rw [stay.command_here hstay, List.head?_cons])

/-! ### Executions -/

/-- **An execution follows the itinerary from the place of the entity.**  It runs no command twice,
skips no status, runs no command ahead of the transition to its status, and takes at most one round
for each status that is left. -/
theorem execute_follows_itinerary [Staged E S T] {entity after : E} {trace : Trace S C E T}
    {i : Nat} {result : Except CommanderError (Outcome S)}
    (place : commander.lifecycle.position (Staged.status entity) = .ok i)
    (awake : Staged.isPaused entity = false) (keeps : KeepsStage trace)
    (h : Runs (execute commander) entity trace result after) :
    Itinerary commander (commander.lifecycle.statuses.drop i) (events trace) (Staged.status after)
        result (Staged.isPaused after)
      ∧ (ranAt (events trace)).Nodup
      ∧ moves (events trace) <+: (commander.lifecycle.statuses.drop i).zip
          (commander.lifecycle.statuses.drop (i + 1))
      ∧ (∀ before s c errors outcome rest,
          events trace = before ++ .command s c errors outcome :: rest →
          s = Staged.status entity ∨ ∃ old, Event.transition old s (.ok ()) ∈ before)
      ∧ Runs (rounds commander (commander.lifecycle.statuses.length - i)) entity trace result
          after := by
  rw [StatusLifecycle.position_eq_ok_iff, List.getElem?_eq_some_iff] at place
  obtain ⟨hi, hplace⟩ := place
  have hdrop : commander.lifecycle.statuses.drop i
      = Staged.status entity :: commander.lifecycle.statuses.drop (i + 1) := by
    rw [List.drop_eq_getElem_cons hi, hplace]
  have cut : commander.lifecycle.statuses = commander.lifecycle.statuses.take i
      ++ Staged.status entity :: commander.lifecycle.statuses.drop (i + 1) := by
    rw [← hdrop, List.take_append_drop]
  have hlength : (commander.lifecycle.statuses.drop (i + 1)).length + 1
      = commander.lifecycle.statuses.length - i := by
    rw [List.length_drop]
    omega
  rcases runs_execute_cases h with ⟨hpaused, -⟩ | ⟨-, hrounds⟩
  · rw [awake] at hpaused
    cases hpaused
  obtain ⟨itinerary, hruns⟩ :=
    itinerary_of_runs_rounds cut (by omega) awake keeps hrounds
  rw [← hdrop] at itinerary
  refine ⟨itinerary, ?_, ?_, ?_, ?_⟩
  · exact (itinerary.ranAt_sublist.trans (List.drop_sublist ..)).nodup commander.lifecycle.nodup
  · have hmoves := itinerary.moves_prefix
    rwa [List.tail_drop] at hmoves
  · intro before s c errors outcome rest split
    rcases itinerary.command_after_transition split with hhead | htransition
    · rw [hdrop, List.head?_cons, Option.some.injEq] at hhead
      exact .inl hhead.symm
    · exact .inr htransition
  · rwa [hlength] at hruns

/-- A lifecycle of two statuses, of which the first has a command. -/
def loadAndShip : Commander String String where
  lifecycle := ⟨["load", "ship"], by decide, by decide⟩
  commands := ⟨[("load", "Load")]⟩
  known := by decide

/-- A job that waits to be loaded. -/
def waitingJob : Rehearsal.Job := ⟨"load", false⟩

/-- A job is loaded and shipped without a failure. -/
def shipment : Trace String String Rehearsal.Job Unit :=
  [⟨.hooks .before "load" waitingJob, .ok ()⟩, ⟨.run "Load" waitingJob, ⟨waitingJob, [], .ok none⟩⟩,
    ⟨.checkpoint waitingJob, .ok ()⟩, ⟨.hooks .after "load" waitingJob, .ok ()⟩, ⟨.clock, ()⟩,
    ⟨.clock, ()⟩, ⟨.transition "load" "ship" ⟨"ship", false⟩, .ok ()⟩]

theorem shipment_keepsStage : KeepsStage shipment := by
  intro command entity run hmem
  simp [shipment] at hmem
  obtain ⟨⟨rfl, rfl⟩, rfl⟩ := hmem
  exact ⟨rfl, rfl⟩

theorem shipment_follows_itinerary :
    loadAndShip.lifecycle.position (Staged.status waitingJob) = .ok 0
      ∧ Staged.isPaused waitingJob = false ∧ KeepsStage shipment
      ∧ Runs (execute loadAndShip) waitingJob shipment (.ok (.completed "ship")) ⟨"ship", false⟩
      ∧ Itinerary loadAndShip ["load", "ship"] (events shipment) "ship" (.ok (.completed "ship"))
          false := by
  have hruns : Runs (execute loadAndShip) waitingJob shipment (.ok (.completed "ship"))
      ⟨"ship", false⟩ :=
    .ask _ (.ask _ (.ask _ (.ask _ (.ask _ (.ask _ (.ask _ (.done _)))))))
  exact ⟨rfl, rfl, shipment_keepsStage, hruns,
    (execute_follows_itinerary (i := 0) rfl rfl shipment_keepsStage hruns).1⟩

end ServerMigration.Commander
