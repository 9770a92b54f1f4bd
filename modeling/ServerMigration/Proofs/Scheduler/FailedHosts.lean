import ServerMigration.Proofs.Commander.Ascent
import ServerMigration.Proofs.Migration.Readiness
import ServerMigration.Proofs.Scheduler.Histories

/-!
# What is reported on hosts that have failed

A task that fails saves its source at the status that it reports.  A task that is aborted reports
nothing: its source is reported at the status at which the task began, and the store keeps the
document that the task has saved last.  Documents climb the lifecycle, so that document stands at
the reported status or further on, and further on as soon as the task has saved any other status.

## Main results

* `Crew.Disciplined.climb_of_reaches` : the documents of a task climb the lifecycle, also if it is
  aborted.
* `Scheduler.Pass.failed_host_document` : what the store keeps of a host that has failed.
* `Scheduler.abortedCutover_misreported` : one whose document stands at another status than is
  reported.
-/

namespace ServerMigration

open Program Commander

/-! ### The documents of a task -/

variable {C : Type} [ToString C] {crew : Crew C} {task : HostTask} {trace : SiteTrace}

namespace Crew.Disciplined

/-- The documents that a task saves climb the lifecycle if all of them are accepted. -/
theorem climb {report : HostReport} (disciplined : crew.Disciplined)
    (h : (task.runBy crew).Yields trace report) (accepts : AcceptsSaves trace) :
    ∃ status, Climb SourceStatus.lifecycle task.source.status
      ((documentsSaved trace).map (·.status)) status := by
  obtain ⟨result, after, first, answer, hdrive, rfl, -⟩ := HostTask.yields_runBy h
  obtain ⟨outer, houter, expands⟩ := yields_reinterpret_iff.mp hdrive
  have accepted := saveAccepted_of_expands expands (accepts.mono (List.subset_append_left ..))
  have driven := climb_of_runs_drive houter (disciplined.keepsStage_of_expands expands) accepted
  -- The document with which the task ends stands where its drive has left the source.
  refine ⟨after.status, ?_⟩
  rw [documentsSaved_append, disciplined.documentsSaved_of_expands expands, List.map_append]
  exact driven.append (.saved (.here _))

/-- **The documents that a task has saved so far climb the lifecycle.** -/
theorem climb_of_reaches {rest : Action HostReport} (disciplined : crew.Disciplined)
    (reaches : (task.runBy crew).Reaches trace rest) (accepts : AcceptsSaves trace) :
    ∃ status, Climb SourceStatus.lifecycle task.source.status
      ((documentsSaved trace).map (·.status)) status := by
  obtain ⟨more, report, hyields, hmore⟩ := reaches.exists_yields_allowed Site.exists_accepting
  obtain ⟨status, climb⟩ :=
    disciplined.climb hyields (accepts.append (acceptsSaves_of_forall hmore))
  rw [documentsSaved_append, List.map_append] at climb
  exact climb.of_append

end Crew.Disciplined

namespace Scheduler

theorem rises_place (status next : SourceStatus)
    (h : SourceStatus.lifecycle.next status = .ok next) : status.place < next.place := by
  rw [SourceStatus.place_of_next h]
  exact Nat.lt_succ_self _

/-- A task whose documents climb the lifecycle has left its source where it began or further on, and
where it began if and only if it has saved no other status. -/
theorem Drive.left_of_climb {drive : Drive} {status : SourceStatus}
    (climb : Climb SourceStatus.lifecycle drive.task.source.status
      ((documentsSaved drive.asked).map (·.status)) status) :
    drive.task.source.status.place ≤ drive.left.status.place
      ∧ (drive.left.status = drive.task.source.status ↔
        ∀ document ∈ documentsSaved drive.asked,
          document.status = drive.task.source.status) := by
  rw [Drive.left]
  cases hlast : (documentsSaved drive.asked).getLast? with
  | none =>
    rw [List.getLast?_eq_none_iff] at hlast
    rw [hlast]
    exact ⟨Nat.le_refl _, iff_of_true rfl fun _ hmem => absurd hmem List.not_mem_nil⟩
  | some document =>
    have hmem := List.mem_of_getLast? hlast
    refine ⟨climb.rank_le_of_mem rises_place (List.mem_map_of_mem hmem), ?_⟩
    constructor
    · intro hstatus other hother
      refine climb.eq_of_last rises_place ?_ (List.mem_map_of_mem hother)
      rw [List.getLast?_map, hlast]
      exact congrArg some hstatus
    · exact fun h => h document hmem

/-! ### The hosts of a pass -/

variable {store : RunStore} {config : SchedulerConfig} {run : MigrationRun} {pass : Pass}
  {start : store.State} {scene : Scene store.State (Except RunError PassReport)}

/-- The task has saved its source at another status than the one at which it began. -/
def Drive.HasMoved (drive : Drive) : Prop :=
  ∃ document ∈ documentsSaved drive.asked, document.status ≠ drive.task.source.status

/-- **The store keeps the document of every host that has failed, at the status that is reported or
further on in the lifecycle; and it stands at that status unless the task was aborted when it had
saved another one.** -/
theorem Pass.failed_host_document (disciplined : crew.Disciplined)
    (course : Course store (HostTask.runBy crew) (pass.opening config run start) scene)
    {report : PassReport} (ended : scene.schedule = .done (.ok report)) {host : HostReport}
    (hmem : host ∈ report.hosts) {status : SourceStatus} {text : String}
    (failed : host.outcome = .failed status text) :
    ∃ past ∈ scene.past, past.ended.report = host ∧ past.task.source.id = host.sourceId
      ∧ ∃ stored, store.load host.sourceId scene.state = .ok stored
        ∧ status.place ≤ stored.status.place
        ∧ (stored.status = status ↔ ¬(past.Aborted ∧ past.HasMoved)) := by
  have underway := underway_of_course disciplined.savesOwn course
  obtain ⟨-, ⟨error, hresult, -⟩ | ⟨_, sources, hresult, -, -, hhosts⟩⟩ := underway.concluded ended
  · cases hresult
  obtain rfl := Except.ok.inj hresult
  obtain ⟨past, hpast, rfl⟩ := List.mem_map.mp (hhosts.mem_iff.mp hmem)
  have hload := underway.load_past hpast
  refine ⟨past, hpast, rfl, ?_⟩
  cases hended : past.ended with
  | finished host =>
    obtain ⟨hid, hdescribes, -⟩ := underway.describes disciplined hpast hended
    rw [hended] at failed
    have houtcome : host.outcome = .failed status text := failed
    rw [HostReport.Describes, houtcome] at hdescribes
    obtain ⟨hstatus, -⟩ := hdescribes
    refine ⟨hid.symm, past.left, by rw [TaskEnd.report, hid, hload], ?_, iff_of_true hstatus ?_⟩
    · exact Nat.le_of_eq (congrArg SourceStatus.place hstatus.symm)
    · rintro ⟨⟨reason, haborted⟩, -⟩
      cases hended.symm.trans haborted
  | aborted task reason =>
    obtain ⟨accepts, rest, reaches, ends⟩ := underway.past hpast
    rw [hended] at ends failed
    cases ends
    cases failed
    obtain ⟨status, climb⟩ := disciplined.climb_of_reaches reaches accepts
    obtain ⟨hplace, hleft⟩ := past.left_of_climb climb
    refine ⟨rfl, past.left, hload, hplace, hleft.trans ?_⟩
    have haborted : past.Aborted := ⟨reason, hended⟩
    simp [haborted, Drive.HasMoved]

/-! ### A task that is aborted while its target takes over -/

/-- What the store keeps of a source whose synchronisation was aborted. -/
theorem abandoned_document :
    (migrationCrew {}).Disciplined
      ∧ Course MemoryStore.ofRuns (HostTask.runBy (migrationCrew {}))
          (Pass.resync.opening {} default resynced.state) abandoned
      ∧ ∃ past ∈ abandoned.past, past.task.source.id = syncedSource.id
        ∧ ∃ stored, MemoryStore.ofRuns.load syncedSource.id abandoned.state = .ok stored
          ∧ SourceStatus.sync.place ≤ stored.status.place
          ∧ (stored.status = .sync ↔ ¬(past.Aborted ∧ past.HasMoved)) := by
  obtain ⟨past, hmem, -, hrest⟩ := Pass.failed_host_document (migrationCrew_disciplined {})
    course_abandoned rfl List.mem_cons_self rfl
  exact ⟨migrationCrew_disciplined {}, course_abandoned, past, hmem, hrest⟩

/-- The source when it has been moved behind `sync`. -/
def finalSource : Source := { syncedSource with status := .finalSync, paused := false }

/-- What moves it there. -/
def moveBehindSync : SiteTrace :=
  [⟨.clock, default⟩, ⟨.clock, default⟩, ⟨.store (.saveSource finalSource), .ok ()⟩]

/-- The moment when the target was to take over: the source was moved on, and then the task was
aborted. -/
def abortedCutover : Scene MemoryStore.ofRuns.State (Except RunError PassReport) where
  schedule := .done (.ok ⟨[(TaskEnd.aborted ⟨syncedSource, .advance⟩ "panicked").report], 1⟩)
  past := [⟨⟨⟨syncedSource, .advance⟩, moveBehindSync⟩,
    .aborted ⟨syncedSource, .advance⟩ "panicked"⟩]
  state := ⟨{ sources := [finalSource, freshSource] }, by decide⟩

theorem course_abortedCutover : Course MemoryStore.ofRuns (HostTask.runBy (migrationCrew {}))
    (Pass.goLive.opening {} default resynced.state) abortedCutover := by
  have serves : MemoryStore.ofRuns.Serves resynced.state moveBehindSync abortedCutover.state :=
    .ask trivial (.ask trivial (.ask rfl (.nil _)))
  have moved := course_cuttingOver.run [] [] (.ask default (.ask default (.ask _ (.here _)))) serves
  exact moved.onward (.land [] [] (.aborted _ "panicked"))

/-- **There is a host that is reported as failed at a status at which the store does not keep
it.** -/
theorem abortedCutover_misreported :
    ∃ host, (migrationCrew {}).Disciplined
      ∧ Course MemoryStore.ofRuns (HostTask.runBy (migrationCrew {}))
          (Pass.goLive.opening {} default resynced.state) abortedCutover
      ∧ abortedCutover.schedule = .done (.ok ⟨[host], 1⟩)
      ∧ ∃ status text, host.outcome = .failed status text
        ∧ ¬∃ stored, MemoryStore.ofRuns.load host.sourceId abortedCutover.state = .ok stored
            ∧ stored.status = status := by
  refine ⟨_, migrationCrew_disciplined {}, course_abortedCutover, rfl, _, _, rfl, ?_⟩
  rintro ⟨stored, hload, hstatus⟩
  have hstored : stored = finalSource := (Except.ok.inj hload).symm
  rw [hstored] at hstatus
  cases hstatus

end Scheduler

end ServerMigration
