import ServerMigration.Proofs.Scheduler.Course

/-!
# Passes over a run

A pass lists the sources of its run once, and then drives those that it selects.  Whatever the order
of the turns, it drives each of them once and no other, and leaves the documents of all others
alone.

## Main definitions

* `Scheduler.Pass` : the passes over a run, with the sources that they select.
* `Scheduler.Pass.Underway` : what holds at every moment of a pass.

## Main results

* `Scheduler.Pass.underway_of_course` : it does.
* `Scheduler.Pass.Underway.drives_iff` : the sources that a pass that has ended has driven.
-/

namespace ServerMigration.Scheduler

open Program

variable {store : RunStore} {work : HostTask → Action HostReport}

/-- The passes over a run. -/
inductive Pass
  /-- Takes every draft source to its first pause. -/
  | migration
  /-- Synchronises every source at `sync` again. -/
  | resync
  /-- Lets the targets of all sources that sleep at `sync` take over. -/
  | goLive
  deriving DecidableEq, Repr, Inhabited

namespace Pass

/-- What the pass does. -/
def schedule (config : SchedulerConfig) (run : MigrationRun) : Pass → RunStep PassReport
  | migration => migrate config run
  | resync => Scheduler.resync config run
  | goLive => Scheduler.goLive config run

/-- The sources that the pass drives. -/
def selects : Pass → Source → Bool
  | migration => (·.status = .draft)
  | resync => Source.isAtSync
  | goLive => Source.waitsAtSync

/-- How they go on. -/
def resume : Pass → Resume
  | migration => .execute
  | resync => .again
  | goLive => .advance

/-- The moment when the pass begins. -/
def opening (config : SchedulerConfig) (run : MigrationRun) (pass : Pass) {State : Type}
    (start : State) : Scene State (Except RunError PassReport) :=
  ⟨(pass.schedule config run).run, [], [], start⟩

variable {config : SchedulerConfig} {run : MigrationRun} {pass : Pass}

/-- A pass lists the sources of the run, and drives those that it selects. -/
theorem run_schedule : (pass.schedule config run).run =
    .ask (.site (.store (.sourcesOfRun run.id))) fun listed : Except StoreError (List Source) =>
      match listed with
      | .ok sources =>
        Except.ok <$> drive config run pass.resume (sources.filter pass.selects)
      | .error error => .done (.error (.store error)) := by
  have hpass : pass.schedule config run = passOver config run pass.selects pass.resume := by
    cases pass <;> rfl
  rw [hpass]
  change Program.ask _ _ = Program.ask _ _
  congr 1
  funext listed
  cases listed <;> rfl

/-- What holds at every moment of a pass that began with the store at `start`. -/
inductive Underway (store : RunStore) (work : HostTask → Action HostReport)
    (config : SchedulerConfig) (run : MigrationRun) (pass : Pass) (start : store.State) :
    Scene store.State (Except RunError PassReport) → Prop
  /-- It is about to list the sources. -/
  | opening : Underway store work config run pass start (pass.opening config run start)
  /-- The list has failed. -/
  | refused {error : StoreError} (listed : store.list run.id start = .error error) :
      Underway store work config run pass start ⟨.done (.error (.store error)), [], [], start⟩
  /-- The tasks of the selected sources are under way. -/
  | conducted {sources : List Source} {scene : Scene store.State (Except RunError PassReport)}
      {limit : Nat} (listed : store.list run.id start = .ok sources)
      (sound : scene.Sound store work start limit
        (tasksOf pass.resume (sources.filter pass.selects))) :
      Underway store work config run pass start scene

theorem one_le_admissionLimit (config : SchedulerConfig) (requested : UInt64) :
    1 ≤ (config.admissionLimit requested).toNat := by
  rw [toNat_admissionLimit]
  exact Nat.le_max_left ..

theorem follows_drive (config : SchedulerConfig) (run : MigrationRun) (resume : Resume)
    (sources : List Source) :
    Follows (config.admissionLimit run.policy.simultaneousMigrations).toNat
      ⟨tasksOf resume sources, [], [], 0⟩ (drive config run resume sources) :=
  follows_pass (one_le_admissionLimit ..) resume sources

/-- A pass over one source starts its task and waits for it. -/
theorem drive_singleton (config : SchedulerConfig) (run : MigrationRun) (resume : Resume)
    (source : Source) :
    drive config run resume [source] = .ask (.start ⟨source, resume⟩) fun _ =>
      .ask .await fun ended => .done ⟨[ended.report], 1⟩ := by
  have positive := one_le_admissionLimit config run.policy.simultaneousMigrations
  rw [drive]
  generalize (config.admissionLimit run.policy.simultaneousMigrations).toNat = limit at positive
  -- The first round admits the source and waits, the second one finds nothing left.
  obtain ⟨limit, rfl⟩ := Nat.exists_eq_add_of_le' positive
  rw [pass, passRounds]
  simp [passRounds, Progress.admitted, Progress.refill, Progress.finish, start, await,
    HostReport.ordered, stableSort, insertSorted]

variable {start : store.State}

theorem ready_of_list (own : SavesOwn work) {sources : List Source}
    (listed : store.list run.id start = .ok sources) (selected : Source → Bool) (resume : Resume) :
    Ready store work start (tasksOf resume (sources.filter selected)) where
  distinct := by
    rw [tasksOf, List.map_map]
    exact (store.nodup_list listed).sublist (List.filter_sublist.map _)
  held := by
    intro task hmem
    obtain ⟨source, hsource, rfl⟩ := List.mem_map.mp hmem
    exact ((store.mem_list listed source).mp (List.mem_filter.mp hsource).1).1
  own := own

theorem Underway.turn {scene after : Scene store.State (Except RunError PassReport)}
    (underway : Underway store work config run pass start scene) (own : SavesOwn work)
    (turn : Turn store work scene after) : Underway store work config run pass start after := by
  cases underway with
  | opening =>
    rw [Pass.opening, run_schedule] at turn
    -- No task is under way, so that the only turn is the answer to the list.
    generalize hrunning : ([] : List Running) = running at turn
    cases turn with
    | @site _ listed _ _ _ _ gives =>
      subst hrunning
      have hlisted : store.list run.id start = listed := Eq.symm gives
      cases listed with
      | ok sources => exact .conducted hlisted (Scene.sound_init (follows_drive ..))
      | error error => exact .refused hlisted
    | act earlier later gives => simp at hrunning
  | refused listed =>
    generalize hrunning : ([] : List Running) = running at turn
    cases turn with
    | act earlier later gives => simp at hrunning
  | conducted listed sound =>
    exact .conducted listed (sound.turn (ready_of_list own listed _ _) turn)

/-- **What holds at every moment of a pass**, if no task saves a document of another source. -/
theorem underway_of_course {scene : Scene store.State (Except RunError PassReport)}
    (own : SavesOwn work) (course : Course store work (pass.opening config run start) scene) :
    Underway store work config run pass start scene := by
  induction course with
  | here => exact .opening
  | onward course turn ih => exact ih.turn own turn

/-- A pass that selects one source has started its task and waits for it. -/
theorem course_singleton {sources : List Source} {source : Source}
    (listed : store.list run.id start = .ok sources)
    (alone : sources.filter pass.selects = [source]) :
    Course store work (pass.opening config run start)
      ⟨.ask .await fun ended => .done (.ok ⟨[ended.report], 1⟩),
        [⟨⟨⟨source, pass.resume⟩, []⟩, work ⟨source, pass.resume⟩⟩], [], start⟩ := by
  have gives : store.Gives start (.store (.sourcesOfRun run.id)) (.ok sources) := listed.symm
  have begun : Turn store work (pass.opening config run start)
      ⟨Except.ok <$> drive config run pass.resume (sources.filter pass.selects), [], [],
        start⟩ := by
    rw [Pass.opening, run_schedule]
    exact .site gives
  rw [alone, drive_singleton] at begun
  exact (Course.here.onward begun).onward .start

/-! ### What comes of it -/

namespace Underway

variable {scene : Scene store.State (Except RunError PassReport)}
  (underway : Underway store work config run pass start scene)

include underway

/-- The store keeps what the tasks have left. -/
theorem filed : Filed store start scene.drives scene.state := by
  cases underway with
  | opening | refused listed => exact ⟨by simp [Scene.drives, Pass.opening], fun _ _ => rfl⟩
  | conducted listed sound => exact sound.filed

/-- The tasks that are over have asked what they would ask on their own, all their documents have
been accepted, and they have ended as they may. -/
theorem past {past : Past} (hmem : past ∈ scene.past) :
    AcceptsSaves past.asked ∧ ∃ rest, (work past.task).Reaches past.asked rest
      ∧ Running.Ends ⟨past.toDrive, rest⟩ past.ended := by
  cases underway with
  | opening | refused listed => exact absurd hmem List.not_mem_nil
  | conducted listed sound =>
    exact ⟨sound.accepted _ (Scene.mem_drives_of_past hmem), sound.ended past hmem⟩

/-- A pass drives nothing but sources of its run that it selects, as the store has kept them when it
began. -/
theorem selected {drive : Drive} (hmem : drive ∈ scene.drives) :
    drive.task.resume = pass.resume ∧ pass.selects drive.task.source = true
      ∧ drive.task.source.runId = run.id
      ∧ store.load drive.task.source.id start = .ok drive.task.source := by
  cases underway with
  | opening | refused listed => exact absurd hmem List.not_mem_nil
  | conducted listed sound =>
    obtain ⟨-, stage, -, -, shows⟩ := sound.conducted
    have htask := shows.conserved.mem_iff.mp
      (List.mem_append_left _ (List.mem_map_of_mem hmem))
    obtain ⟨source, hsource, htask⟩ := List.mem_map.mp htask
    obtain ⟨hsource, hselects⟩ := List.mem_filter.mp hsource
    obtain ⟨hload, hrun⟩ := (store.mem_list listed source).mp hsource
    rw [← htask]
    exact ⟨rfl, hselects, hrun, hload⟩

/-- When a pass has ended no task is under way.  It has failed without a task, or has driven every
source that it selects once and reports on each of them. -/
theorem concluded {result : Except RunError PassReport} (ended : scene.schedule = .done result) :
    scene.running = [] ∧
      ((∃ error, result = .error error ∧ scene.past = []) ∨
        ∃ report sources, result = .ok report ∧ store.list run.id start = .ok sources
          ∧ (scene.past.map (·.task)).Perm (tasksOf pass.resume (sources.filter pass.selects))
          ∧ report.hosts.Perm (scene.past.map (·.ended.report))) := by
  cases underway with
  | opening =>
    rw [Pass.opening, run_schedule] at ended
    cases ended
  | refused listed =>
    cases ended
    exact ⟨rfl, .inl ⟨_, rfl, rfl⟩⟩
  | @conducted sources _ _ listed sound =>
    obtain ⟨report, hresult, hrunning, htasks, hhosts⟩ := sound.concluded ended
    exact ⟨hrunning, .inr ⟨report, sources, hresult, listed, htasks, hhosts⟩⟩

/-- The store keeps what a task that is over has left. -/
theorem load_past {past : Past} (hmem : past ∈ scene.past) :
    store.load past.task.source.id scene.state = .ok past.left :=
  underway.filed.left past.toDrive (Scene.mem_drives_of_past hmem)

/-- When a pass has ended the store keeps of a source that was not driven what it has kept
before. -/
theorem load_others {result : Except RunError PassReport} (ended : scene.schedule = .done result)
    {id : Uuid} (undriven : id ∉ scene.past.map (·.task.source.id)) :
    store.load id scene.state = store.load id start := by
  refine underway.filed.others id ?_
  rw [Scene.drives, (underway.concluded ended).1, List.map_nil, List.append_nil, List.map_map]
  exact undriven

/-- **A pass that has ended with a report has driven the sources of its run that it selects, as they
were when it began, and each of them once.** -/
theorem drives_iff {report : PassReport} (ended : scene.schedule = .done (.ok report)) :
    (scene.past.map (·.task.source.id)).Nodup
      ∧ ∀ id, id ∈ scene.past.map (·.task.source.id) ↔ ∃ source : Source, source.id = id
        ∧ store.load id start = .ok source ∧ source.runId = run.id
        ∧ pass.selects source = true := by
  obtain ⟨-, ⟨error, hresult, -⟩ | ⟨_, sources, -, listed, htasks, -⟩⟩ := underway.concluded ended
  · cases hresult
  have hids := htasks.map (·.source.id)
  rw [List.map_map, tasksOf, List.map_map] at hids
  constructor
  · exact hids.nodup_iff.mpr ((store.nodup_list listed).sublist (List.filter_sublist.map _))
  · intro id
    refine hids.mem_iff.trans (List.mem_map.trans ?_)
    simp only [List.mem_filter, store.mem_list listed]
    constructor
    · rintro ⟨source, ⟨⟨hload, hrun⟩, hselects⟩, rfl⟩
      exact ⟨source, rfl, hload, hrun, hselects⟩
    · rintro ⟨source, rfl, hload, hrun, hselects⟩
      exact ⟨source, ⟨⟨hload, hrun⟩, hselects⟩, rfl⟩

end Underway

end Pass

end ServerMigration.Scheduler
