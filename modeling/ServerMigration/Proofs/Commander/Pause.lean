import ServerMigration.Proofs.Commander.Itinerary

/-!
# The pause when a call ends

Whether an entity is paused when the commander returns it can be told from the result, but for one
case: a command asks to sleep and the checkpoint behind it is rejected.  Then the call fails and
leaves the entity paused, though hooks behind the command that fail take the pause back.

## Main definitions

* `Commander.PauseTold` : the result of a call tells whether the entity is paused.
* `Commander.RejectedAsleep` : the checkpoint of a command that asked to sleep is rejected at last.

## Main results

* `Commander.pauseTold_iff` : the result tells, unless such a checkpoint is rejected.
* `Commander.drive_not_pauseTold` : there is a call of that kind.
-/

namespace ServerMigration.Commander

open Program

variable {S C E T : Type}

/-- The last that happens is that the checkpoint of a command which asked to sleep is rejected. -/
def RejectedAsleep (happened : List (Event S C)) : Prop :=
  ∃ before s c refusal, happened
    = before ++ [.command s c [] (.ok (some .sleep)), .checkpoint s (.error refusal)]

theorem rejectedAsleep_iff_reverse {happened : List (Event S C)} :
    RejectedAsleep happened ↔ ∃ before s c refusal, happened.reverse
      = .checkpoint s (.error refusal) :: .command s c [] (.ok (some .sleep)) :: before := by
  constructor
  · rintro ⟨before, s, c, refusal, rfl⟩
    exact ⟨before.reverse, s, c, refusal, by simp⟩
  · rintro ⟨before, s, c, refusal, hreverse⟩
    refine ⟨before.reverse, s, c, refusal, ?_⟩
    rw [← List.reverse_reverse happened, hreverse]
    simp

theorem not_rejectedAsleep_nil : ¬RejectedAsleep ([] : List (Event S C)) := by
  simp [RejectedAsleep]

/-- What happens before a transition does not matter. -/
theorem rejectedAsleep_append_transition {happened rest : List (Event S C)} {old new : S}
    {answer : Except PersistenceError Unit} :
    RejectedAsleep (happened ++ .transition old new answer :: rest) ↔ RejectedAsleep rest := by
  -- From behind, the two events that decide come first, and a transition is neither of them.
  rw [rejectedAsleep_iff_reverse, rejectedAsleep_iff_reverse]
  rw [List.reverse_append, List.reverse_cons, List.append_assoc]
  constructor
  · rintro ⟨before, s, c, refusal, hreverse⟩
    match hrest : rest.reverse with
    | [] => simp [hrest] at hreverse
    | [last] => simp [hrest] at hreverse
    | last :: previous :: before' =>
      rw [hrest, List.cons_append, List.cons_append] at hreverse
      obtain ⟨rfl, htail⟩ := List.cons.inj hreverse
      obtain ⟨rfl, -⟩ := List.cons.inj htail
      exact ⟨before', s, c, refusal, rfl⟩
  · rintro ⟨before, s, c, refusal, hreverse⟩
    exact ⟨_, s, c, refusal, by rw [hreverse]; rfl⟩

variable [DecidableEq S] [ToString S] [ToString C] {commander : Commander S C}

/-! ### Along an itinerary -/

/-- A stay that ends well leaves the entity paused if it was asked to. -/
private theorem Stay.paused_of_ok {s : S} {happened : List (Event S C)} {signal : Option Signal}
    {paused : Bool} (stay : Stay commander s happened (.ok signal) paused) :
    paused = signal.isSome ∧ ¬RejectedAsleep happened := by
  cases stay with
  | idle free => exact ⟨rfl, not_rejectedAsleep_nil⟩
  | busy bound visit =>
    cases visit with
    | ended signal => exact ⟨rfl, by simp [rejectedAsleep_iff_reverse]⟩

/-- A stay that fails leaves the entity paused only if its last checkpoint is rejected while it
sleeps. -/
private theorem Stay.paused_iff_of_error {s : S} {happened : List (Event S C)}
    {error : CommanderError} {paused : Bool}
    (stay : Stay commander s happened (.error error) paused) :
    paused = true ↔ RejectedAsleep happened := by
  rw [rejectedAsleep_iff_reverse]
  cases stay with
  | busy bound visit =>
    cases visit with
    | beforeFailed reason => simp
    | commandFailed verdict saved =>
      simp only [Bool.false_eq_true, false_iff]
      rintro ⟨before, s, c, refusal, hreverse⟩
      simp at hreverse
      obtain ⟨-, ⟨-, -, rfl, rfl⟩, -⟩ := hreverse
      -- A command that asked to sleep and collected no failure has not failed.
      rw [settle_eq_ok_iff.mpr ⟨rfl, rfl⟩] at verdict
      cases verdict
    | rejected signal refusal =>
      match signal with
      | none => simp
      | some .sleep => simp
    | afterFailed signal reason => simp

theorem Itinerary.paused_of_paused {stretch : List S} {happened : List (Event S C)} {s stop : S}
    {paused : Bool}
    (itinerary : Itinerary commander stretch happened stop (.ok (.paused s)) paused) :
    paused = true ∧ stop = s ∧ ¬RejectedAsleep happened := by
  generalize hresult : (Except.ok (.paused s) : Except CommanderError (Outcome S)) = result
    at itinerary
  induction itinerary with
  | slept stay =>
    cases hresult
    obtain ⟨hpaused, hnot⟩ := stay.paused_of_ok
    exact ⟨hpaused, rfl, hnot⟩
  | moved stay onward ih =>
    rw [rejectedAsleep_append_transition]
    exact ih hresult
  | _ => cases hresult

theorem Itinerary.awake_of_completed {stretch : List S} {happened : List (Event S C)} {s stop : S}
    {paused : Bool}
    (itinerary : Itinerary commander stretch happened stop (.ok (.completed s)) paused) :
    paused = false ∧ stop = s ∧ stretch.getLast? = some s ∧ ¬RejectedAsleep happened := by
  generalize hresult : (Except.ok (.completed s) : Except CommanderError (Outcome S)) = result
    at itinerary
  induction itinerary with
  | completed stay =>
    cases hresult
    obtain ⟨hpaused, hnot⟩ := stay.paused_of_ok
    exact ⟨hpaused, rfl, rfl, hnot⟩
  | moved stay onward ih =>
    rw [rejectedAsleep_append_transition, List.getLast?_cons_cons]
    exact ih hresult
  | _ => cases hresult

theorem Itinerary.paused_iff_of_error {stretch : List S} {happened : List (Event S C)} {stop : S}
    {error : CommanderError} {paused : Bool}
    (itinerary : Itinerary commander stretch happened stop (.error error) paused) :
    paused = true ↔ RejectedAsleep happened := by
  generalize hresult : (Except.error error : Except CommanderError (Outcome S)) = result
    at itinerary
  induction itinerary with
  | failed stay => exact stay.paused_iff_of_error
  | held stay refusal =>
    obtain ⟨rfl, hnot⟩ := stay.paused_of_ok
    rw [rejectedAsleep_append_transition]
    simp [not_rejectedAsleep_nil]
  | moved stay onward ih =>
    rw [rejectedAsleep_append_transition]
    exact ih hresult
  | _ => cases hresult

/-! ### Calls -/

variable [Staged E S T] {entity after : E} {trace : Trace S C E T}

/-- The result of a call tells whether the entity is paused: it is if a command asked to sleep at
its status, and it is not if the final status is done or the call has failed.  But a call that was
to move the entity on at once, and failed to, leaves status and pause as they were. -/
def PauseTold (commander : Commander S C) (resume : Resume) (entity : E) (trace : Trace S C E T)
    (result : Except CommanderError (Outcome S)) (after : E) : Prop :=
  match result with
  | .ok (.paused s) => Staged.isPaused after = true ∧ Staged.status after = s
  | .ok (.completed s) => Staged.isPaused after = false ∧ commander.lifecycle.last = s
  | .error error =>
    let heldAtOnce := resume = .advance ∧ Runs (moveOn commander) entity trace (.error error) after
    (heldAtOnce → Staged.status after = Staged.status entity
      ∧ Staged.isPaused after = Staged.isPaused entity)
    ∧ (¬heldAtOnce → Staged.isPaused after = false)

/-- An execution tells whether the entity is paused, unless such a checkpoint is rejected. -/
private theorem pauseTold_iff_of_runs_execute {resume : Resume} {start : E}
    {whole : Trace S C E T} {result : Except CommanderError (Outcome S)}
    (known : Staged.status entity ∈ commander.lifecycle.statuses) (keeps : KeepsStage trace)
    (h : Runs (execute commander) entity trace result after)
    (started : resume = .advance → ∀ error,
      ¬Runs (moveOn commander) start whole (.error error) after) :
    PauseTold commander resume start whole result after ↔ ¬RejectedAsleep (events trace) := by
  obtain ⟨earlier, later, cut⟩ := List.append_of_mem known
  rcases itinerary_of_runs_execute cut keeps h with ⟨asleep, rfl, rfl, rfl⟩ | itinerary
  · exact iff_of_true ⟨asleep, rfl⟩ not_rejectedAsleep_nil
  match result with
  | .ok (.paused s) =>
    obtain ⟨hpaused, hstatus, hnot⟩ := itinerary.paused_of_paused
    exact iff_of_true ⟨hpaused, hstatus⟩ hnot
  | .ok (.completed s) =>
    obtain ⟨hawake, -, hlast, hnot⟩ := itinerary.awake_of_completed
    rw [List.getLast?_eq_some_getLast (List.cons_ne_nil _ _), Option.some.injEq] at hlast
    exact iff_of_true ⟨hawake, (StatusLifecycle.last_of_cut cut).trans hlast⟩ hnot
  | .error error =>
    rw [← itinerary.paused_iff_of_error, Bool.not_eq_true]
    constructor
    · rintro ⟨-, hawake⟩
      exact hawake fun ⟨hadvance, hheld⟩ => started hadvance error hheld
    · intro hawake
      exact ⟨fun ⟨hadvance, hheld⟩ => absurd hheld (started hadvance error), fun _ => hawake⟩

/-- **The result of a call tells whether the entity is paused, unless the last that happens is that
the checkpoint of a command which asked to sleep is rejected.** -/
theorem pauseTold_iff {resume : Resume} {result : Except CommanderError (Outcome S)}
    (known : Staged.status entity ∈ commander.lifecycle.statuses) (keeps : KeepsStage trace)
    (h : Runs (drive commander resume) entity trace result after) :
    PauseTold commander resume entity trace result after ↔ ¬RejectedAsleep (events trace) := by
  cases driven_of_runs h with
  | executed run => exact pauseTold_iff_of_runs_execute known keeps run (by simp)
  | repeated time run =>
    rw [events_cons, Event.ofExchange, Option.toList_none, List.nil_append]
    exact pauseTold_iff_of_runs_execute (by rwa [Staged.status_setPaused]) keeps.tail run (by simp)
  | held move =>
    obtain ⟨hstatus, hpaused, hevents⟩ := (moved_of_runs move).back
    refine iff_of_true ⟨fun _ => ⟨hstatus, hpaused⟩, fun hnot => absurd ⟨rfl, move⟩ hnot⟩ ?_
    rcases hevents with ⟨hevents, -⟩ | ⟨new, refusal, -, -, hevents⟩
    · rw [hevents]
      exact not_rejectedAsleep_nil
    · rw [hevents, ← List.nil_append [_], rejectedAsleep_append_transition]
      exact not_rejectedAsleep_nil
  | advanced move run =>
    obtain ⟨found, -, hevents⟩ := (moved_of_runs move).onward
    rw [events_append, hevents, ← List.nil_append [_], List.append_assoc, List.singleton_append,
      rejectedAsleep_append_transition]
    have known' := StatusLifecycle.mem_of_next found
    refine pauseTold_iff_of_runs_execute known' keeps.right run ?_
    -- The move has succeeded, so the same questions and answers do not make it fail.
    intro _ error hheld
    have hback := (moved_of_runs hheld).back.2.2
    rw [events_append, hevents] at hback
    rcases hback with ⟨hnil, -⟩ | ⟨new, refusal, -, -, hcons⟩
    · cases hnil
    · cases hcons

theorem shipment_pauseTold :
    Staged.status waitingJob ∈ loadAndShip.lifecycle.statuses ∧ KeepsStage shipment
      ∧ Runs (drive loadAndShip .execute) waitingJob shipment (.ok (.completed "ship"))
          ⟨"ship", false⟩
      ∧ PauseTold loadAndShip .execute waitingJob shipment (.ok (.completed "ship"))
          ⟨"ship", false⟩ := by
  have known : Staged.status waitingJob ∈ loadAndShip.lifecycle.statuses := by decide
  have hruns : Runs (drive loadAndShip .execute) waitingJob shipment (.ok (.completed "ship"))
      ⟨"ship", false⟩ :=
    .ask _ (.ask _ (.ask _ (.ask _ (.ask _ (.ask _ (.ask _ (.done _)))))))
  refine ⟨known, shipment_keepsStage, hruns, (pauseTold_iff known shipment_keepsStage hruns).mpr ?_⟩
  change ¬RejectedAsleep ([_, _, _, _] ++ .transition _ _ _ :: [])
  rw [rejectedAsleep_append_transition]
  exact not_rejectedAsleep_nil

/-- A job falls asleep while it is loaded, and its checkpoint is rejected. -/
def lostSleep : Trace String String Rehearsal.Job Unit :=
  [⟨.hooks .before "load" waitingJob, .ok ()⟩,
    ⟨.run "Load" waitingJob, ⟨waitingJob, [], .ok (some .sleep)⟩⟩, ⟨.clock, ()⟩,
    ⟨.checkpoint ⟨"load", true⟩, .error (.checkpointFailed "job" "disk full")⟩]

/-- **There is a call that fails and leaves the entity paused.** -/
theorem drive_not_pauseTold :
    ∃ (result : Except CommanderError (Outcome String)) (after : Rehearsal.Job),
      Staged.status waitingJob ∈ loadAndShip.lifecycle.statuses ∧ KeepsStage lostSleep
        ∧ Runs (drive loadAndShip .execute) waitingJob lostSleep result after
        ∧ ¬PauseTold loadAndShip .execute waitingJob lostSleep result after := by
  refine ⟨.error (.persistence (.checkpointFailed "job" "disk full")), ⟨"load", true⟩, by decide,
    ?_, .ask _ (.ask _ (.ask _ (.ask _ (.done _)))), ?_⟩
  · intro command entity run hmem
    simp [lostSleep] at hmem
    obtain ⟨⟨rfl, rfl⟩, rfl⟩ := hmem
    exact ⟨rfl, rfl⟩
  · rintro ⟨-, hawake⟩
    have hpaused := hawake fun hheld => by cases hheld.1
    cases hpaused

end ServerMigration.Commander
