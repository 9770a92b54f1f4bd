import ServerMigration.Proofs.Migration.Document
import ServerMigration.Proofs.StableSort
import ServerMigration.Scheduler.Runs

/-!
# Which tasks a pass has under way

A pass starts the tasks of its sources in their order, has no more of them under way than its limit
allows, waits only while some are, and reports on each of them once.  In which order they end
decides neither what is reported nor how.

The surroundings of a pass are given by the end that each task comes to, be it its own or that it is
aborted; whenever the pass waits, some task under way ends.

## Main definitions

* `Scheduler.EndOf` : the ends a task may come to.
* `Scheduler.Served` : the surroundings of a pass.
* `Scheduler.Stage`, `Scheduler.Follows` : what a pass has to do next.
* `Scheduler.Stage.Sound` : what holds at every moment of a pass.

## Main results

* `Scheduler.follows_pass` : a pass does what it has to.
* `Scheduler.sound_of_reaches` : so the invariant holds at every moment.
* `Scheduler.drive_conducts` : what comes of it.
-/

namespace ServerMigration

open Program

/-- A task drives its source, saves the document with the failure, if any, and reports. -/
theorem HostTask.yields_runBy {C : Type} [ToString C] {crew : Crew C} {task : HostTask}
    {trace : SiteTrace} {report : HostReport} (h : (task.runBy crew).Yields trace report) :
    ∃ result after first answer, (crew.drive task.resume task.source).Yields first (result, after)
      ∧ trace = first ++ [⟨.store (.saveSource
          { after with lastError := (HostOutcome.ofResult after result).lastError }), answer⟩]
      ∧ report = ⟨after.id, after.name, .ofResult after result⟩ := by
  obtain ⟨⟨result, after⟩, first, second, hdrive, hrest, rfl⟩ := yields_bind_iff.mp h
  obtain ⟨answer, rest, rfl, hdone⟩ := yields_ask_iff.mp hrest
  obtain ⟨rfl, rfl⟩ := yields_done_iff.mp hdone
  exact ⟨result, after, first, answer, hdrive, rfl, rfl⟩

namespace Scheduler

/-- What a pass has asked, with the answers. -/
abbrev PassTrace : Type := List (Exchange Ask Answer)

/-! ### Surroundings -/

/-- The ends that a task may come to: it is aborted at any time, or it reports what it has come
to. -/
inductive EndOf (provider : Provider) (task : HostTask) : TaskEnd → Prop
  /-- It is aborted. -/
  | aborted (reason : String) : EndOf provider task (.aborted task reason)
  /-- It reports. -/
  | finished {trace : SiteTrace} {report : HostReport}
      (h : (task.run provider).Yields trace report) : EndOf provider task (.finished report)

/-- `Served ends flight trace left` says that the surroundings have answered as in `trace` while the
tasks of `flight` were under way at first and those of `left` are in the end: a task that is
started is under way, and some task under way ends when the pass waits, with the end that `ends`
gives it. -/
inductive Served (ends : HostTask → TaskEnd) : List HostTask → PassTrace → List HostTask → Prop
  | rest (flight : List HostTask) : Served ends flight [] flight
  | start {flight left : List HostTask} {trace : PassTrace} {task : HostTask}
      (onward : Served ends (flight ++ [task]) trace left) :
      Served ends flight (⟨.start task, ()⟩ :: trace) left
  | await {flight others left : List HostTask} {trace : PassTrace} {task : HostTask}
      (among : flight.Perm (task :: others)) (onward : Served ends others trace left) :
      Served ends flight (⟨.await, ends task⟩ :: trace) left

/-- The tasks of some sources, which all go on in the same way. -/
def tasksOf (resume : Resume) (sources : List Source) : List HostTask :=
  sources.map fun source => ⟨source, resume⟩

/-- The tasks that have been started, in order. -/
def startedIn (trace : PassTrace) : List HostTask :=
  trace.filterMap fun
    | ⟨.start task, _⟩ => some task
    | _ => none

/-- How many tasks have ended. -/
def endedIn (trace : PassTrace) : Nat :=
  trace.countP fun
    | ⟨.await, _⟩ => true
    | _ => false

theorem endedIn_await (ended : TaskEnd) (trace : PassTrace) :
    endedIn (⟨.await, ended⟩ :: trace) = endedIn trace + 1 :=
  List.countP_cons_of_pos rfl

/-! ### What a pass has to do -/

/-- A moment of a pass. -/
structure Stage where
  /-- The tasks that wait, in order. -/
  waiting : List HostTask
  /-- The tasks under way. -/
  flight : List HostTask
  /-- The reports of the tasks that have ended, in that order. -/
  ended : List HostReport
  /-- The most tasks that were under way at once. -/
  peak : Nat

/-- `Follows limit stage schedule` says that from that moment on the schedule does what a pass has
to do: it starts the first task that waits while the limit allows it, waits for an end while tasks
are under way and no other can be started, and then ends with its report. -/
def Follows (limit : Nat) : Stage → Schedule PassReport → Prop
  | stage, .done report =>
    stage.waiting = [] ∧ stage.flight = []
      ∧ report = ⟨HostReport.ordered stage.ended, stage.peak⟩
  | stage, .ask (.start task) next =>
    stage.flight.length < limit ∧ ∃ waiting, stage.waiting = task :: waiting
      ∧ Follows limit ⟨waiting, stage.flight ++ [task], stage.ended,
          max stage.peak (stage.flight.length + 1)⟩ (next ())
  | stage, .ask .await next =>
    stage.flight ≠ [] ∧ (stage.waiting = [] ∨ stage.flight.length = limit)
      ∧ ∀ task others ended, stage.flight.Perm (task :: others) →
          Follows limit ⟨stage.waiting, others, stage.ended ++ [ended.report], stage.peak⟩
            (next ended)
  | _, .ask (.site _) _ => False

/-! ### A pass does what it has to -/

/-- The moment when some more tasks have been started. -/
def Stage.launch (stage : Stage) (tasks waiting : List HostTask) : Stage where
  waiting := waiting
  flight := stage.flight ++ tasks
  ended := stage.ended
  peak := max stage.peak (stage.flight.length + tasks.length)

theorem Stage.launch_nil {stage : Stage} (high : stage.flight.length ≤ stage.peak) :
    stage.launch [] stage.waiting = stage := by
  have hpeak : max stage.peak stage.flight.length = stage.peak := Nat.max_eq_left high
  simp only [launch, List.append_nil, List.length_nil, Nat.add_zero, hpeak]

theorem Stage.launch_cons (stage : Stage) (task : HostTask) (tasks waiting : List HostTask) :
    stage.launch (task :: tasks) waiting =
      (stage.launch [task] (tasks ++ waiting)).launch tasks waiting := by
  simp only [launch, List.append_assoc, List.singleton_append, List.length_append,
    List.length_cons, List.length_nil, Stage.mk.injEq, true_and]
  omega

theorem follows_starts {limit : Nat} {resume : Resume} {sources : List Source} {stage : Stage}
    {waiting : List HostTask} {next : Schedule PassReport}
    (hwaiting : stage.waiting = tasksOf resume sources ++ waiting)
    (room : stage.flight.length + sources.length ≤ limit)
    (high : stage.flight.length ≤ stage.peak)
    (hnext : Follows limit (stage.launch (tasksOf resume sources) waiting) next) :
    Follows limit stage
      (sources.forM (fun source => start ⟨source, resume⟩) >>= fun _ => next) := by
  induction sources generalizing stage with
  | nil =>
    rw [tasksOf, List.map_nil, List.nil_append] at hwaiting
    rw [← hwaiting, tasksOf, List.map_nil, Stage.launch_nil high] at hnext
    exact hnext
  | cons source sources ih =>
    rw [List.length_cons] at room
    rw [tasksOf, List.map_cons, ← tasksOf, Stage.launch_cons] at hnext
    refine ⟨by omega, tasksOf resume sources ++ waiting, hwaiting, ?_⟩
    refine ih rfl ?_ ?_ hnext
    · rw [List.length_append, List.length_singleton]
      omega
    · rw [List.length_append, List.length_singleton]
      exact Nat.le_max_right ..

@[simp] theorem length_tasksOf (resume : Resume) (sources : List Source) :
    (tasksOf resume sources).length = sources.length :=
  List.length_map ..

/-- The progress of a pass is its moment with the tasks under way counted. -/
structure Progress.Tallies (progress : Progress) (resume : Resume) (stage : Stage) : Prop where
  /-- The tasks of the sources that are pending wait. -/
  waiting : stage.waiting = tasksOf resume progress.pending
  /-- So many tasks are under way. -/
  flight : stage.flight.length = progress.inFlight
  /-- What is reported so far. -/
  report : progress.report = ⟨stage.ended, stage.peak⟩
  /-- Those under way count for the peak. -/
  high : stage.flight.length ≤ stage.peak

section

variable {progress : Progress} {resume : Resume} {stage : Stage}

/-- The first tasks that wait are those that are admitted. -/
theorem Progress.Tallies.split (tallies : progress.Tallies resume stage) (limit : Nat) :
    stage.waiting = tasksOf resume (progress.admitted limit)
      ++ tasksOf resume (progress.refill limit).pending := by
  rw [tallies.waiting, tasksOf, tasksOf, tasksOf, ← List.map_append]
  exact congrArg _ (List.take_append_drop ..).symm

/-- Starting the tasks for which there is room. -/
theorem Progress.Tallies.refill (tallies : progress.Tallies resume stage) (limit : Nat) :
    (progress.refill limit).Tallies resume (stage.launch (tasksOf resume (progress.admitted limit))
      (tasksOf resume (progress.refill limit).pending)) := by
  have hroom : stage.flight.length + (progress.admitted limit).length
      = (progress.refill limit).inFlight := by
    rw [tallies.flight]
    rfl
  have hflight : (stage.flight ++ tasksOf resume (progress.admitted limit)).length
      = (progress.refill limit).inFlight := by
    rw [List.length_append, length_tasksOf, hroom]
  refine ⟨rfl, hflight, ?_, ?_⟩
  · rw [Stage.launch, length_tasksOf, hroom]
    simp only [Progress.refill, tallies.report]
  · rw [Stage.launch, hflight, length_tasksOf, hroom]
    exact Nat.le_max_right ..

/-- The end of a task that is under way. -/
theorem Progress.Tallies.finish {task : HostTask} {others : List HostTask}
    (tallies : progress.Tallies resume stage) (among : stage.flight.Perm (task :: others))
    (ended : TaskEnd) :
    (progress.finish ended).Tallies resume
      ⟨stage.waiting, others, stage.ended ++ [ended.report], stage.peak⟩ := by
  have hlength := among.length_eq
  have hflight := tallies.flight
  have hhigh := tallies.high
  rw [List.length_cons] at hlength
  refine ⟨tallies.waiting, ?_, ?_, ?_⟩
  · show others.length = progress.inFlight - 1
    omega
  · simp only [Progress.finish, tallies.report]
  · show others.length ≤ stage.peak
    omega

/-- A refilled pass has as many tasks under way as its limit allows, or none that waits. -/
theorem Progress.refill_full {limit : Nat} (bounded : progress.inFlight ≤ limit) :
    (progress.refill limit).inFlight ≤ limit
      ∧ ((progress.refill limit).pending = [] ∨ (progress.refill limit).inFlight = limit) := by
  simp only [refill, admitted, List.length_take, List.drop_eq_nil_iff]
  omega

end

/-- From any moment on the rounds of a pass do what it has to. -/
theorem follows_passRounds {limit : Nat} {resume : Resume} (positive : 1 ≤ limit)
    (progress : Progress) {stage : Stage} (tallies : progress.Tallies resume stage)
    (bounded : progress.inFlight ≤ limit) :
    Follows limit stage (passRounds limit resume progress >>= fun report =>
      pure { report with hosts := HostReport.ordered report.hosts }) := by
  -- The induction is on the tasks that have not ended, one of which ends in every round.
  induction progress using passRounds.induct limit generalizing stage with
  | case1 progress ih =>
    obtain ⟨bounded', full⟩ := progress.refill_full bounded
    have hroom : stage.flight.length + (progress.admitted limit).length ≤ limit := by
      rw [tallies.flight]
      exact bounded'
    rw [passRounds, Program.bind_assoc]
    refine follows_starts (tallies.split limit) hroom tallies.high ?_
    have launched := tallies.refill limit
    generalize stage.launch _ _ = stage at launched ⊢
    split
    · next hnone =>
      have hpending : (progress.refill limit).pending = [] :=
        full.resolve_right (by omega)
      have hflight : stage.flight = [] :=
        List.length_eq_zero_iff.mp (launched.flight.trans hnone)
      rw [launched.report]
      refine ⟨?_, hflight, rfl⟩
      rw [launched.waiting, hpending]
      rfl
    · next hsome =>
      refine ⟨?_, ?_, fun task others ended among => ?_⟩
      · intro hnil
        have hflight := launched.flight
        rw [hnil, List.length_nil] at hflight
        exact hsome hflight.symm
      · refine full.imp (fun hpending => ?_) launched.flight.trans
        rw [launched.waiting, hpending]
        rfl
      · refine ih hsome ended (launched.finish among ended) ?_
        show (progress.refill limit).inFlight - 1 ≤ limit
        omega

/-- **A pass does what it has to.** -/
theorem follows_pass {limit : Nat} (positive : 1 ≤ limit) (resume : Resume)
    (sources : List Source) :
    Follows limit ⟨tasksOf resume sources, [], [], 0⟩ (pass limit resume sources) :=
  follows_passRounds positive { pending := sources } ⟨rfl, rfl, rfl, Nat.le_refl _⟩ (Nat.zero_le _)

/-! ### What holds at every moment -/

/-- What holds at every moment of a pass over `tasks`: no task is lost or reported twice, the limit
is kept, and the peak is as high as it can be once a task has ended. -/
structure Stage.Sound (ends : HostTask → TaskEnd) (limit : Nat) (tasks : List HostTask)
    (stage : Stage) : Prop where
  /-- The tasks that have ended, those under way and those that wait are the tasks of the pass. -/
  conserved :
    (stage.ended ++ (stage.flight ++ stage.waiting).map fun task => (ends task).report).Perm
      (tasks.map fun task => (ends task).report)
  /-- No more tasks are under way than the limit allows. -/
  bounded : stage.flight.length ≤ limit
  /-- Those under way count for the peak. -/
  high : stage.flight.length ≤ stage.peak
  /-- The peak is no higher than the limit and the number of tasks. -/
  low : stage.peak ≤ min limit tasks.length
  /-- It has been reached before a task has ended. -/
  reached : stage.ended = [] ∨ stage.peak = min limit tasks.length

variable {ends : HostTask → TaskEnd} {limit : Nat} {tasks : List HostTask} {stage : Stage}

theorem Stage.Sound.count (sound : stage.Sound ends limit tasks) :
    stage.ended.length + stage.flight.length + stage.waiting.length = tasks.length := by
  have hlength := sound.conserved.length_eq
  simp only [List.length_append, List.length_map] at hlength
  omega

theorem sound_init (ends : HostTask → TaskEnd) (limit : Nat) (tasks : List HostTask) :
    Stage.Sound ends limit tasks ⟨tasks, [], [], 0⟩ where
  conserved := .refl _
  bounded := Nat.zero_le _
  high := Nat.le_refl _
  low := Nat.zero_le _
  reached := .inl rfl

/-- Starting a task. -/
theorem Stage.Sound.start {task : HostTask} {waiting : List HostTask}
    (sound : stage.Sound ends limit tasks) (room : stage.flight.length < limit)
    (hwaiting : stage.waiting = task :: waiting) :
    Stage.Sound ends limit tasks ⟨waiting, stage.flight ++ [task], stage.ended,
      max stage.peak (stage.flight.length + 1)⟩ := by
  have hcount := sound.count
  have hlow := sound.low
  rw [hwaiting, List.length_cons] at hcount
  refine ⟨?_, ?_, ?_, ?_, ?_⟩
  · have hconserved := sound.conserved
    rw [hwaiting] at hconserved
    simpa using hconserved
  · rw [List.length_append, List.length_singleton]
    exact room
  · rw [List.length_append, List.length_singleton]
    exact Nat.le_max_right ..
  · show max stage.peak (stage.flight.length + 1) ≤ min limit tasks.length
    omega
  · refine sound.reached.imp_right fun hpeak => ?_
    show max stage.peak (stage.flight.length + 1) = min limit tasks.length
    omega

/-- The end of a task while the pass waits. -/
theorem Stage.Sound.land {task : HostTask} {others : List HostTask}
    (sound : stage.Sound ends limit tasks)
    (full : stage.waiting = [] ∨ stage.flight.length = limit)
    (among : stage.flight.Perm (task :: others)) :
    Stage.Sound ends limit tasks ⟨stage.waiting, others, stage.ended ++ [(ends task).report],
      stage.peak⟩ := by
  have hcount := sound.count
  have hlow := sound.low
  have hhigh := sound.high
  have hbounded := sound.bounded
  have hlength := among.length_eq
  rw [List.length_cons] at hlength
  refine ⟨?_, ?_, ?_, hlow, .inr ?_⟩
  · refine List.Perm.trans ?_ sound.conserved
    rw [List.append_assoc]
    refine List.Perm.append_left _ ?_
    exact ((among.append_right stage.waiting).map fun task => (ends task).report).symm
  · show others.length ≤ limit
    omega
  · show others.length ≤ stage.peak
    omega
  · show stage.peak = min limit tasks.length
    rcases sound.reached with hnone | hpeak
    -- No task has ended before, so the peak is the number of those under way now.
    · rw [hnone, List.length_nil] at hcount
      rcases full with hwaiting | hlimit
      · rw [hwaiting, List.length_nil] at hcount
        omega
      · omega
    · exact hpeak

/-- **A pass that does what it has to is sound at every moment, and it has started its tasks in
their order.** -/
theorem sound_of_reaches {schedule rest : Schedule PassReport} {trace : PassTrace}
    {left : List HostTask} (reaches : schedule.Reaches trace rest)
    (follows : Follows limit stage schedule) (served : Served ends stage.flight trace left)
    (sound : stage.Sound ends limit tasks) :
    ∃ stage' : Stage, stage'.flight = left ∧ Follows limit stage' rest
      ∧ stage'.Sound ends limit tasks
      ∧ startedIn trace ++ stage'.waiting = stage.waiting
      ∧ stage.ended.length + endedIn trace = stage'.ended.length := by
  -- The induction is on what has been asked.  `Follows` names the stage behind each question, and
  -- `Served` the task that an answer is about.
  induction reaches generalizing stage with
  | here schedule =>
    cases served with
    | rest flight => exact ⟨stage, rfl, follows, sound, rfl, rfl⟩
  | ask answer _ ih =>
    cases served with
    | start onward =>
      obtain ⟨room, waiting, hwaiting, hnext⟩ := follows
      obtain ⟨stage', hleft, hrest, hsound, hstarted, hended⟩ :=
        ih hnext onward (sound.start room hwaiting)
      refine ⟨stage', hleft, hrest, hsound, ?_, hended⟩
      rw [hwaiting]
      exact congrArg (List.cons _) hstarted
    | await among onward =>
      obtain ⟨-, full, hnext⟩ := follows
      obtain ⟨stage', hleft, hrest, hsound, hstarted, hended⟩ :=
        ih (hnext _ _ _ among) onward (sound.land full among)
      refine ⟨stage', hleft, hrest, hsound, hstarted, ?_⟩
      rw [endedIn_await, ← hended, List.length_append, List.length_singleton]
      omega

/-- A schedule that does what it has to can be brought to its end. -/
theorem exists_end_of_follows {schedule : Schedule PassReport} (ends : HostTask → TaskEnd)
    (follows : Follows limit stage schedule) :
    ∃ trace report, schedule.Yields trace report ∧ Served ends stage.flight trace [] := by
  induction schedule generalizing stage with
  | done report =>
    obtain ⟨-, hflight, -⟩ := follows
    exact ⟨[], report, .done report, hflight ▸ .rest _⟩
  | ask question next ih =>
    cases question with
    | site question => exact follows.elim
    | start task =>
      obtain ⟨-, waiting, -, hnext⟩ := follows
      obtain ⟨trace, report, hyields, hserved⟩ := ih () hnext
      exact ⟨_, report, .ask () hyields, .start hserved⟩
    | await =>
      obtain ⟨hflight, -, hnext⟩ := follows
      obtain ⟨task, others, hcons⟩ := List.exists_cons_of_ne_nil hflight
      have among : stage.flight.Perm (task :: others) := .of_eq hcons
      obtain ⟨trace, report, hyields, hserved⟩ := ih (ends task) (hnext _ _ _ among)
      exact ⟨_, report, .ask _ hyields, .await among hserved⟩

/-! ### The reports -/

/-- **A report is about the source of its task, however the task ends.** -/
theorem EndOf.identity {provider : Provider} {task : HostTask} {ended : TaskEnd}
    (h : EndOf provider task ended) :
    ended.report.sourceId = task.source.id ∧ ended.report.name = task.source.name := by
  cases h with
  | aborted reason => exact ⟨rfl, rfl⟩
  | @finished trace report hrun =>
    obtain ⟨result, after, first, answer, hdrive, -, rfl⟩ := HostTask.yields_runBy hrun
    obtain ⟨outer, houter, expands⟩ := yields_reinterpret_iff.mp hdrive
    have hsame := (sameIdentity_of_runs_drive houter expands).1
    exact ⟨hsame.id_eq, hsame.name_eq⟩

theorem toNat_admissionLimit (config : SchedulerConfig) (requested : UInt64) :
    (config.admissionLimit requested).toNat
      = max 1 (min requested.toNat (max 1 config.maxSimultaneousMigrations.toNat)) := by
  -- `max` and `min` of machine words compare them, which is to compare their values.
  have hmax : ∀ a b : UInt64, (max a b).toNat = max a.toNat b.toNat := by
    intro a b
    show (if a ≤ b then b else a).toNat = _
    split
    · next hle =>
      rw [UInt64.le_iff_toNat_le] at hle
      omega
    · next hnot =>
      rw [UInt64.le_iff_toNat_le] at hnot
      omega
  have hmin : ∀ a b : UInt64, (min a b).toNat = min a.toNat b.toNat := by
    intro a b
    show (if a ≤ b then a else b).toNat = _
    split
    · next hle =>
      rw [UInt64.le_iff_toNat_le] at hle
      omega
    · next hnot =>
      rw [UInt64.le_iff_toNat_le] at hnot
      omega
  rw [SchedulerConfig.admissionLimit, hmax, hmin, hmax]
  rfl

/-- A pass that has come to its end has started all its tasks, all of them have ended, and it
reports on all of them. -/
theorem reported_of_yields {schedule : Schedule PassReport} {trace : PassTrace}
    {left : List HostTask} {report : PassReport}
    (follows : Follows limit ⟨tasks, [], [], 0⟩ schedule) (h : schedule.Yields trace report)
    (served : Served ends [] trace left) :
    left = [] ∧ startedIn trace = tasks ∧ endedIn trace = tasks.length
      ∧ report.maxInFlight = min limit tasks.length
      ∧ ∃ ended : List HostReport, ended.Perm (tasks.map fun task => (ends task).report)
        ∧ report.hosts = HostReport.ordered ended := by
  obtain ⟨stage, hleft, ⟨hwaiting, hflight, rfl⟩, sound, hstarted, hended⟩ :=
    sound_of_reaches (yields_iff_reaches.mp h) follows served (sound_init ends limit tasks)
  have hcount := sound.count
  have hconserved := sound.conserved
  rw [hflight, hwaiting, List.length_nil] at hcount
  rw [hflight, hwaiting, List.append_nil, List.map_nil, List.append_nil] at hconserved
  refine ⟨hleft ▸ hflight, ?_, ?_, ?_, stage.ended, hconserved, rfl⟩
  · have hall : startedIn trace ++ stage.waiting = tasks := hstarted
    rw [hwaiting, List.append_nil] at hall
    exact hall
  · have hall : 0 + endedIn trace = stage.ended.length := hended
    omega
  · rcases sound.reached with hnone | hpeak
    · have hlow := sound.low
      rw [hnone, List.length_nil] at hcount
      show stage.peak = min limit tasks.length
      omega
    · exact hpeak

/-- The sources that are reported on are those of the tasks, whatever the tasks come to. -/
theorem identities_of_ends {provider : Provider} {resume : Resume} {sources : List Source}
    (possible : ∀ source ∈ sources, EndOf provider ⟨source, resume⟩ (ends ⟨source, resume⟩)) :
    (sources.map fun source => (ends ⟨source, resume⟩).report).map
        (fun host => (host.sourceId, host.name))
      = sources.map fun source => (source.id, source.name) := by
  rw [List.map_map]
  refine List.map_congr_left fun source hmem => ?_
  obtain ⟨hid, hname⟩ := (possible source hmem).identity
  exact Prod.ext hid hname

/-- What a pass over sources with distinct names has come to at its end: it reports on each of them
once, in the order of their names. -/
theorem conducted_of_yields {provider : Provider} {resume : Resume} {sources : List Source}
    {schedule : Schedule PassReport} {trace : PassTrace} {flight : List HostTask}
    {report : PassReport} (distinct : (sources.map (·.name)).Nodup)
    (possible : ∀ source ∈ sources, EndOf provider ⟨source, resume⟩ (ends ⟨source, resume⟩))
    (follows : Follows limit ⟨tasksOf resume sources, [], [], 0⟩ schedule)
    (h : schedule.Yields trace report) (served : Served ends [] trace flight) :
    flight = [] ∧ startedIn trace = tasksOf resume sources ∧ endedIn trace = sources.length
      ∧ report.hosts.Perm (sources.map fun source => (ends ⟨source, resume⟩).report)
      ∧ (report.hosts.map fun host => (host.sourceId, host.name)).Perm
          (sources.map fun source => (source.id, source.name))
      ∧ report.hosts.Pairwise (fun a b => a.name < b.name)
      ∧ report.maxInFlight = min limit sources.length := by
  obtain ⟨hflight, hstarted, hended, hpeak, ended, hperm, hhosts⟩ :=
    reported_of_yields follows h served
  have hreports : (tasksOf resume sources).map (fun task => (ends task).report)
      = sources.map fun source => (ends ⟨source, resume⟩).report := List.map_map ..
  rw [hreports] at hperm
  rw [length_tasksOf] at hended hpeak
  have hordered : report.hosts.Perm
      (sources.map fun source => (ends ⟨source, resume⟩).report) := by
    rw [hhosts]
    exact (stableSort_perm _ ended).trans hperm
  have hpairs := hordered.map fun host => (host.sourceId, host.name)
  rw [identities_of_ends possible] at hpairs
  refine ⟨hflight, hstarted, hended, hordered, hpairs, ?_, hpeak⟩
  -- The names of the reports are those of the sources, so no two of them are the same.
  have hnames : (sources.map fun source => (ends ⟨source, resume⟩).report).map HostReport.name
      = sources.map (·.name) := by
    rw [List.map_map]
    exact List.map_congr_left fun source hmem => (possible source hmem).identity.2
  have hdistinct : (ended.map HostReport.name).Nodup := by
    rw [(hperm.map HostReport.name).nodup_iff, hnames]
    exact distinct
  rw [hhosts]
  exact stableSort_pairwise_lt hdistinct

/-- **A pass over sources with distinct names starts each of them once and in their order, never has
more of them under way than its limit allows, never waits without a task under way, and reports on
each of them once, in the order of their names.  The report does not depend on the order in which
the tasks end.** -/
theorem drive_conducts {provider : Provider} {ends : HostTask → TaskEnd} {resume : Resume}
    {sources : List Source} (config : SchedulerConfig) (run : MigrationRun)
    (distinct : (sources.map (·.name)).Nodup)
    (possible : ∀ source ∈ sources, EndOf provider ⟨source, resume⟩ (ends ⟨source, resume⟩)) :
    let limit := (config.admissionLimit run.policy.simultaneousMigrations).toNat
    let schedule := drive config run resume sources
    (1 ≤ limit ∧ limit ≤ max 1 config.maxSimultaneousMigrations.toNat)
      ∧ (∀ trace flight rest, schedule.Reaches trace rest → Served ends [] trace flight →
          flight.length ≤ limit ∧ startedIn trace <+: tasksOf resume sources
            ∧ ((∃ report, rest = .done report) ∨ (∃ task next, rest = .ask (.start task) next)
              ∨ flight ≠ [] ∧ ∃ next, rest = .ask .await next))
      ∧ (∀ trace flight report, schedule.Yields trace report → Served ends [] trace flight →
          flight = [] ∧ startedIn trace = tasksOf resume sources ∧ endedIn trace = sources.length
            ∧ report.hosts.Perm (sources.map fun source => (ends ⟨source, resume⟩).report)
            ∧ (report.hosts.map fun host => (host.sourceId, host.name)).Perm
                (sources.map fun source => (source.id, source.name))
            ∧ report.hosts.Pairwise (fun a b => a.name < b.name)
            ∧ report.maxInFlight = min limit sources.length)
      ∧ ∃ report, (∃ trace, schedule.Yields trace report ∧ Served ends [] trace [])
          ∧ ∀ trace flight other, schedule.Yields trace other → Served ends [] trace flight →
              other = report := by
  intro limit schedule
  have hlimit : limit = max 1 (min run.policy.simultaneousMigrations.toNat
      (max 1 config.maxSimultaneousMigrations.toNat)) := toNat_admissionLimit _ _
  have positive : 1 ≤ limit := by omega
  have follows : Follows limit ⟨tasksOf resume sources, [], [], 0⟩ schedule :=
    follows_pass positive resume sources
  have hall := fun trace flight report (hyields : schedule.Yields trace report)
      (hserved : Served ends [] trace flight) =>
    conducted_of_yields distinct possible follows hyields hserved
  refine ⟨⟨positive, by omega⟩, ?_, hall, ?_⟩
  · intro trace flight rest hreaches hserved
    obtain ⟨stage, rfl, hrest, sound, hstarted, -⟩ :=
      sound_of_reaches hreaches follows hserved (sound_init ends limit _)
    refine ⟨sound.bounded, ⟨_, hstarted⟩, ?_⟩
    cases rest with
    | done report => exact .inl ⟨report, rfl⟩
    | ask question next =>
      cases question with
      | site question => exact hrest.elim
      | start task => exact .inr (.inl ⟨task, next, rfl⟩)
      | await => exact .inr (.inr ⟨hrest.1, next, rfl⟩)
  · obtain ⟨trace, report, hyields, hserved⟩ := exists_end_of_follows ends follows
    refine ⟨report, ⟨trace, hyields, hserved⟩, fun trace' flight other hother hserved' => ?_⟩
    obtain ⟨-, -, -, hperm, -, hsorted, hpeak⟩ := hall _ _ _ hyields hserved
    obtain ⟨-, -, -, hperm', -, hsorted', hpeak'⟩ := hall _ _ _ hother hserved'
    have hhosts := eq_of_perm_of_pairwise_lt hsorted' hsorted (hperm'.trans hperm.symm)
    obtain ⟨hosts, peak⟩ := report
    obtain ⟨hosts', peak'⟩ := other
    rw [PassReport.mk.injEq]
    exact ⟨hhosts, hpeak'.trans hpeak.symm⟩

/-- A source whose target has taken over. -/
def mailSource : Source := { (default : Source) with name := "mail", status := .live }

/-- A source that has not been looked at. -/
def webSource : Source := { (default : Source) with name := "web", status := .draft }

/-- The task of `webSource` is aborted, others report that the target has taken over. -/
def endOfHost (task : HostTask) : TaskEnd :=
  if task.source.name = "web" then .aborted task "panicked"
  else .finished ⟨task.source.id, task.source.name, .completed⟩

theorem webMail_conducted :
    ([webSource, mailSource].map (·.name)).Nodup
      ∧ (∀ source ∈ [webSource, mailSource],
          EndOf {} ⟨source, .execute⟩ (endOfHost ⟨source, .execute⟩))
      ∧ (∃ trace report, (drive { maxSimultaneousMigrations := 4 }
            { (default : MigrationRun) with policy := { simultaneousMigrations := 3 } } .execute
            [webSource, mailSource]).Yields trace report
          ∧ Served endOfHost [] trace [])
      ∧ ∀ trace flight report, (drive { maxSimultaneousMigrations := 4 }
            { (default : MigrationRun) with policy := { simultaneousMigrations := 3 } } .execute
            [webSource, mailSource]).Yields trace report →
          Served endOfHost [] trace flight →
          report.hosts.map (·.name) = ["mail", "web"] ∧ report.maxInFlight = 2 := by
  have distinct : ([webSource, mailSource].map (·.name)).Nodup := by decide
  have possible : ∀ source ∈ [webSource, mailSource],
      EndOf {} ⟨source, .execute⟩ (endOfHost ⟨source, .execute⟩) := by
    have hmail : (HostTask.run {} ⟨mailSource, .execute⟩).Yields
        [⟨.store (.saveSource mailSource), .ok ()⟩] ⟨mailSource.id, "mail", .completed⟩ :=
      .ask _ (.done _)
    intro source hmem
    rcases List.mem_cons.mp hmem with rfl | hmem
    · exact .aborted "panicked"
    · cases List.mem_singleton.mp hmem
      exact .finished hmail
  obtain ⟨-, -, hall, report, ⟨trace, hyields, hserved⟩, -⟩ :=
    drive_conducts { maxSimultaneousMigrations := 4 }
      { (default : MigrationRun) with policy := { simultaneousMigrations := 3 } } distinct possible
  refine ⟨distinct, possible, ⟨trace, report, hyields, hserved⟩, ?_⟩
  intro trace flight report hyields hserved
  obtain ⟨-, -, -, hperm, -, hsorted, hpeak⟩ := hall trace flight report hyields hserved
  refine ⟨?_, hpeak⟩
  have hnames : (report.hosts.map (·.name)).Perm ["mail", "web"] :=
    (hperm.map _).trans (.swap "mail" "web" [])
  have hascends : (report.hosts.map (·.name)).Pairwise (· < ·) := List.pairwise_map.mpr hsorted
  refine eq_of_perm_of_pairwise_lt hascends ?_ hnames
  decide

end Scheduler

end ServerMigration
