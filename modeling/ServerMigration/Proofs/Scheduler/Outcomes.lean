import ServerMigration.Proofs.Scheduler.Passes

/-!
# Reports and documents

A task that reports has saved a document that says the same: the status at which its source sleeps,
that the target has taken over, or where it has failed and why.  In a pass whose tasks all report
that is what the store keeps in the end, and the documents of all other sources are what they were.

## Main definitions

* `HostReport.Describes` : a report and a document say the same.

## Main results

* `Crew.Disciplined.describes` : what a task reports and what it saves last.
* `Scheduler.Pass.report_describes_documents` : what a pass reports and what the store keeps.
-/

namespace ServerMigration

open Program Commander

/-- The document of the source says what is reported on it. -/
def HostReport.Describes (report : HostReport) (stored : Source) : Prop :=
  match report.outcome with
  | .paused status => stored.status = status ∧ stored.paused = true ∧ stored.lastError = none
  | .completed => stored.status = .live ∧ stored.paused = false ∧ stored.lastError = none
  | .failed status text => stored.status = status ∧ stored.lastError = some text

/-- What is reported on a source that waits at `sync`, if one that has failed is awake. -/
theorem HostReport.Describes.paused_sync {report : HostReport} {stored : Source}
    (describes : report.Describes stored)
    (awake : ∀ status text, report.outcome = .failed status text → stored.paused = false)
    (waits : stored.waitsAtSync = true) : report.outcome = .paused .sync := by
  obtain ⟨hpaused, hsync⟩ := Bool.and_eq_true_iff.mp waits
  have hsync : stored.status = .sync := by simpa using hsync
  rw [HostReport.Describes] at describes
  cases houtcome : report.outcome with
  | paused status =>
    rw [houtcome] at describes
    rw [← hsync, describes.1]
  | completed =>
    rw [houtcome] at describes
    cases hsync.symm.trans describes.1
  | failed status text =>
    rw [awake status text houtcome] at hpaused
    cases hpaused

/-! ### One task -/

variable {C : Type} [ToString C] {crew : Crew C} {task : HostTask} {trace : SiteTrace}
  {report : HostReport}

namespace Crew.Disciplined

/-- No task of a disciplined crew saves a document of another source. -/
theorem savesOwn (disciplined : crew.Disciplined) :
    Scheduler.SavesOwn (HostTask.runBy crew) := by
  intro task trace report h document hmem
  obtain ⟨result, after, first, answer, hdrive, rfl, -⟩ := HostTask.yields_runBy h
  obtain ⟨hafter, hsaved, -⟩ := disciplined.of_yields_drive hdrive
  rw [documentsSaved_append, List.mem_append] at hmem
  rcases hmem with hmem | hmem
  · exact hsaved document hmem
  · cases List.mem_singleton.mp hmem
    exact hafter

/-- **The document that a task saves last says what the task reports, and a source that has failed
is left awake.**  A source that is to move on at once has to have a status to move on to. -/
theorem describes (disciplined : crew.Disciplined) (h : (task.runBy crew).Yields trace report)
    (accepts : AcceptsSaves trace)
    (onward : task.resume = .advance → ∃ new,
      SourceStatus.lifecycle.next task.source.status = .ok new) :
    report.sourceId = task.source.id ∧ ∃ stored, (documentsSaved trace).getLast? = some stored
      ∧ report.Describes stored
      ∧ ∀ status text, report.outcome = .failed status text → stored.paused = false := by
  obtain ⟨result, after, first, answer, hdrive, rfl, rfl⟩ := HostTask.yields_runBy h
  obtain ⟨hafter, -, told⟩ := disciplined.of_yields_drive hdrive
  have stage := told (accepts.mono (List.subset_append_left ..)) onward
  refine ⟨hafter, _, by rw [documentsSaved_append]; exact List.getLast?_concat .., ?_⟩
  match result with
  | .ok (.paused s) => exact ⟨⟨stage.1, stage.2, rfl⟩, by simp [HostOutcome.ofResult]⟩
  | .ok (.completed s) =>
    obtain ⟨hstatus, hawake, rfl⟩ := stage
    exact ⟨⟨hstatus, hawake, rfl⟩, by simp [HostOutcome.ofResult]⟩
  | .error error => exact ⟨⟨rfl, rfl⟩, fun _ _ _ => stage⟩

end Crew.Disciplined

/-! ### The tasks of a pass -/

namespace Scheduler

variable {store : RunStore} {config : SchedulerConfig} {run : MigrationRun} {pass : Pass}
  {start : store.State} {scene : Scene store.State (Except RunError PassReport)}

/-- A task of a pass that has reported has left a document that says the same. -/
theorem Pass.Underway.describes (disciplined : crew.Disciplined)
    (underway : Pass.Underway store (HostTask.runBy crew) config run pass start scene) {past : Past}
    (hmem : past ∈ scene.past) (reported : past.ended = .finished report) :
    report.sourceId = past.task.source.id ∧ report.Describes past.left
      ∧ ∀ status text, report.outcome = .failed status text → past.left.paused = false := by
  obtain ⟨accepts, rest, hreaches, ends⟩ := underway.past hmem
  rw [reported] at ends
  cases ends with
  | finished =>
    obtain ⟨hresume, hselects, -⟩ := underway.selected (Scene.mem_drives_of_past hmem)
    -- Only the sources that wait at `sync` move on at once.
    have onward : past.task.resume = .advance → ∃ new,
        SourceStatus.lifecycle.next past.task.source.status = .ok new := by
      intro hadvance
      rw [hresume] at hadvance
      cases pass with
      | migration | resync => cases hadvance
      | goLive =>
        have hsync : past.task.source.status = .sync := by
          simpa [Pass.selects, Source.waitsAtSync] using (Bool.and_eq_true_iff.mp hselects).2
        exact ⟨.finalSync, by rw [hsync]; rfl⟩
    obtain ⟨hid, stored, hlast, hdescribes, hawake⟩ :=
      disciplined.describes (yields_iff_reaches.mpr hreaches) accepts onward
    have hleft : past.left = stored := by rw [Drive.left, hlast, Option.getD_some]
    rw [hleft]
    exact ⟨hid, hdescribes, hawake⟩

/-- **When a pass has ended and none of its tasks was aborted, it reports on the sources of its run
that it selects, as they were when it began, and on each of them once; the store keeps of each of
them what is reported on it, and of all others what it has kept before.  A pass that has failed has
changed nothing.** -/
theorem Pass.report_describes_documents {result : Except RunError PassReport}
    (disciplined : crew.Disciplined)
    (course : Course store (HostTask.runBy crew) (pass.opening config run start) scene)
    (ended : scene.schedule = .done result)
    (calm : ∀ past ∈ scene.past, ∃ report, past.ended = .finished report) :
    (∀ report, result = .ok report →
      (report.hosts.map (·.sourceId)).Nodup
      ∧ (∀ id, id ∈ report.hosts.map (·.sourceId) ↔ ∃ source : Source, source.id = id
          ∧ store.load id start = .ok source ∧ source.runId = run.id
          ∧ pass.selects source = true)
      ∧ (∀ host ∈ report.hosts, ∃ stored,
          store.load host.sourceId scene.state = .ok stored ∧ host.Describes stored)
      ∧ ∀ id, id ∉ report.hosts.map (·.sourceId) →
          store.load id scene.state = store.load id start)
    ∧ ∀ error, result = .error error →
        ∀ id, store.load id scene.state = store.load id start := by
  have underway := underway_of_course disciplined.savesOwn course
  rcases (underway.concluded ended).2 with
    ⟨error, rfl, hpast⟩ | ⟨report, sources, rfl, -, -, hhosts⟩
  · refine ⟨fun report h => absurd h (by simp), fun _ _ id => underway.load_others ended ?_⟩
    rw [hpast]
    exact List.not_mem_nil
  refine ⟨fun report' h => ?_, fun error h => absurd h (by simp)⟩
  obtain rfl := Except.ok.inj h
  obtain ⟨hnodup, hselected⟩ := underway.drives_iff ended
  have hids : (report.hosts.map (·.sourceId)).Perm (scene.past.map (·.task.source.id)) := by
    refine (hhosts.map (·.sourceId)).trans (.of_eq ?_)
    rw [List.map_map]
    refine List.map_congr_left fun past hmem => ?_
    obtain ⟨host, hended⟩ := calm past hmem
    simpa [hended, TaskEnd.report] using (underway.describes disciplined hmem hended).1
  refine ⟨hids.nodup_iff.mpr hnodup, fun id => hids.mem_iff.trans (hselected id), ?_, ?_⟩
  · intro host hmem
    obtain ⟨past, hpast, rfl⟩ := List.mem_map.mp (hhosts.mem_iff.mp hmem)
    obtain ⟨host, hended⟩ := calm past hpast
    obtain ⟨hid, hdescribes, -⟩ := underway.describes disciplined hpast hended
    rw [hended, TaskEnd.report]
    refine ⟨past.left, ?_, hdescribes⟩
    rw [hid]
    exact underway.load_past hpast
  · exact fun id hid => underway.load_others ended fun hmem => hid (hids.mem_iff.mpr hmem)

/-! ### A synchronisation without anything to copy -/

/-- A source at `sync` with nothing to copy, whose latest synchronisation has failed. -/
def quietSource : Source :=
  let host : RemoteHost := { (default : RemoteHost) with systemInfo := some ⟨[], [], ⟨0, 0⟩⟩ }
  { (default : Source) with
    status := .sync
    lastError := some "no route"
    remoteHost := host
    target := { blueprint := default, deviceMapping := some [], remoteHost := some host } }

/-- The same source asleep. -/
def dozingSource : Source := { quietSource with paused := true }

/-- The same source when its task has reported. -/
def syncedSource : Source := { dozingSource with lastError := none }

/-- A source of the same run, of which nothing is known yet. -/
def freshSource : Source := { (default : Source) with id := ⟨1⟩ }

/-- The store that keeps the two sources. -/
def quietStore : MemoryStore.ofRuns.State := ⟨{ sources := [quietSource, freshSource] }, by decide⟩

/-- What the task of the source asks when it is synchronised again. -/
def resynchronisation : SiteTrace :=
  [⟨.clock, default⟩, ⟨.clock, default⟩, ⟨.store (.saveSource dozingSource), .ok ()⟩,
    ⟨.store (.saveSource syncedSource), .ok ()⟩]

/-- What the task reports. -/
def resyncReport : HostReport := ⟨quietSource.id, quietSource.name, .paused .sync⟩

/-- The moment when the synchronisation has ended. -/
def resynced : Scene MemoryStore.ofRuns.State (Except RunError PassReport) where
  schedule := .done (.ok ⟨[resyncReport], 1⟩)
  past := [⟨⟨⟨quietSource, .again⟩, resynchronisation⟩, .finished resyncReport⟩]
  state := ⟨{ sources := [syncedSource, freshSource] }, by decide⟩

theorem course_resynced : Course MemoryStore.ofRuns (HostTask.runBy (migrationCrew {}))
    (Pass.resync.opening {} default quietStore) resynced := by
  have listed : MemoryStore.ofRuns.list (default : MigrationRun).id quietStore
      = .ok [quietSource, freshSource] := rfl
  have hruns : (HostTask.runBy (migrationCrew {}) ⟨quietSource, .again⟩).Yields resynchronisation
      resyncReport := .ask _ (.ask _ (.ask _ (.ask _ (.done _))))
  have started : Course MemoryStore.ofRuns (HostTask.runBy (migrationCrew {}))
      (Pass.resync.opening {} default quietStore) _ := Pass.course_singleton listed rfl
  have ran := started.run [] [] (yields_iff_reaches.mp hruns)
    (.ask trivial (.ask trivial (.ask rfl (.ask rfl (.nil _)))))
  exact ran.onward (.land [] [] (.finished _ _))

theorem quietSource_described :
    (migrationCrew {}).Disciplined
      ∧ Course MemoryStore.ofRuns (HostTask.runBy (migrationCrew {}))
          (Pass.resync.opening {} default quietStore) resynced
      ∧ resynced.schedule = .done (.ok ⟨[resyncReport], 1⟩)
      ∧ (∀ past ∈ resynced.past, ∃ report, past.ended = .finished report)
      ∧ (∃ stored, MemoryStore.ofRuns.load quietSource.id resynced.state = .ok stored
          ∧ stored.status = .sync ∧ stored.paused = true ∧ stored.lastError = none)
      ∧ MemoryStore.ofRuns.load freshSource.id resynced.state
          = MemoryStore.ofRuns.load freshSource.id quietStore := by
  have calm : ∀ past ∈ resynced.past, ∃ report, past.ended = .finished report := by
    intro past hmem
    cases List.mem_singleton.mp hmem
    exact ⟨resyncReport, rfl⟩
  obtain ⟨hreport, -⟩ := Pass.report_describes_documents (migrationCrew_disciplined {})
    course_resynced rfl calm
  obtain ⟨-, -, hdescribes, hothers⟩ := hreport _ rfl
  exact ⟨migrationCrew_disciplined {}, course_resynced, rfl, calm,
    hdescribes resyncReport List.mem_cons_self, hothers freshSource.id (by decide)⟩

end Scheduler

end ServerMigration
