import ServerMigration.Proofs.Scheduler.Outcomes

/-!
# Which sources go live

A run goes through passes, one after the other.  What the store keeps of a source is what its latest
drive has left, in whichever pass that was.  So a source that goes live has been left asleep at
`sync` by its latest drive, and if that drive has reported at all it has reported so.

A drive that is aborted has not: when a source that sleeps at `sync` is to be synchronised again it
is woken in memory only, so that a task which is aborted before it saves a document leaves the
source asleep.  It is reported as failed and goes live all the same.

## Main definitions

* `Scheduler.Record`, `Scheduler.History` : a pass that has ended, and the passes of a run.
* `Scheduler.latestDrive` : the latest drive of a source.

## Main results

* `Scheduler.History.kept` : the store keeps what the latest drives have left.
* `Scheduler.goLive_drives_paused` : the sources that go live.
* `Scheduler.abandoned_source_goes_live` : one that has been reported as failed.
-/

namespace ServerMigration.Scheduler

open Program

/-- A pass that has ended. -/
structure Record where
  /-- The pass. -/
  pass : Pass
  /-- Its tasks, in the order in which they have ended. -/
  past : List Past

/-- `History store work config run start records state` says that the passes of `records`, one after
the other, have led from `start` to `state`. -/
inductive History (store : RunStore) (work : HostTask → Action HostReport)
    (config : SchedulerConfig) (run : MigrationRun) (start : store.State) :
    List Record → store.State → Prop
  | opening : History store work config run start [] start
  | pass {records : List Record} {state : store.State} {pass : Pass}
      {scene : Scene store.State (Except RunError PassReport)} {result : Except RunError PassReport}
      (earlier : History store work config run start records state)
      (course : Course store work (pass.opening config run state) scene)
      (ended : scene.schedule = .done result) :
      History store work config run start (records ++ [⟨pass, scene.past⟩]) scene.state

/-- The latest of some drives that is one of the source. -/
def latestOf (id : Uuid) (drives : List Past) : Option Past :=
  (drives.filter (·.task.source.id = id)).getLast?

/-- The latest drive of the source, in whichever pass it was. -/
def latestDrive (id : Uuid) (records : List Record) : Option Past :=
  latestOf id (records.flatMap (·.past))

/-- The drive was aborted before it could report. -/
def Past.Aborted (past : Past) : Prop :=
  ∃ reason, past.ended = .aborted past.task reason

/-! ### Latest drives -/

theorem latestOf_append (id : Uuid) (first second : List Past) :
    latestOf id (first ++ second) = (latestOf id second).or (latestOf id first) := by
  rw [latestOf, List.filter_append, List.getLast?_append]
  rfl

theorem latestDrive_concat (id : Uuid) (records : List Record) (record : Record) :
    latestDrive id (records ++ [record])
      = (latestOf id record.past).or (latestDrive id records) := by
  rw [latestDrive, List.flatMap_append, latestOf_append, List.flatMap_singleton]
  rfl

theorem latestOf_eq_some {id : Uuid} {drives : List Past} {past : Past}
    (h : latestOf id drives = some past) : past ∈ drives ∧ past.task.source.id = id := by
  simpa using List.mem_filter.mp (List.mem_of_getLast? h)

theorem latestOf_eq_none_iff {id : Uuid} {drives : List Past} :
    latestOf id drives = none ↔ id ∉ drives.map (·.task.source.id) := by
  simp [latestOf]

/-! ### What the store keeps -/

variable {store : RunStore} {config : SchedulerConfig} {run : MigrationRun}
  {start state : store.State} {records : List Record}

/-- The store keeps of a source what its latest drive has left, and what it has kept at first of a
source that was never driven. -/
theorem History.kept {work : HostTask → Action HostReport} (own : SavesOwn work)
    (history : History store work config run start records state) (id : Uuid) :
    store.load id state =
      match latestDrive id records with
      | some past => .ok past.left
      | none => store.load id start := by
  induction history with
  | opening => rfl
  | @pass records state pass scene result earlier course ended ih =>
    have underway := Pass.underway_of_course own course
    rw [latestDrive_concat]
    -- The last pass has driven the source, or has left its document alone.
    cases hlatest : latestOf id scene.past with
    | some past =>
      obtain ⟨hmem, rfl⟩ := latestOf_eq_some hlatest
      exact underway.load_past hmem
    | none =>
      rw [Option.none_or, ← ih]
      exact underway.load_others ended (latestOf_eq_none_iff.mp hlatest)

variable {C : Type} [ToString C] {crew : Crew C}

/-- Every drive was aborted, or has left what it has reported, and its source awake if that has
failed. -/
theorem History.reported (disciplined : crew.Disciplined)
    (history : History store (HostTask.runBy crew) config run start records state) {past : Past}
    (hmem : past ∈ records.flatMap (·.past)) :
    past.Aborted ∨ ∃ report, past.ended = .finished report ∧ report.Describes past.left
      ∧ ∀ status text, report.outcome = .failed status text → past.left.paused = false := by
  induction history with
  | opening => exact absurd hmem List.not_mem_nil
  | @pass records state pass scene result earlier course ended ih =>
    rw [List.flatMap_append, List.mem_append, List.flatMap_singleton] at hmem
    rcases hmem with hmem | hmem
    · exact ih hmem
    have underway := Pass.underway_of_course disciplined.savesOwn course
    obtain ⟨-, rest, -, ends⟩ := underway.past hmem
    cases hended : past.ended with
    | finished report => exact .inr ⟨report, rfl, (underway.describes disciplined hmem hended).2⟩
    | aborted task reason =>
      rw [hended] at ends
      cases ends
      exact .inl ⟨reason, hended⟩

/-! ### Going live -/

/-- **A source that goes live has been driven before, and its latest drive has left it asleep at
`sync`.  That drive has reported so if and only if it was not aborted.**  At first no source of the
run is to wait at `sync`. -/
theorem goLive_drives_paused (disciplined : crew.Disciplined)
    (fresh : ∀ source, store.load source.id start = .ok source → source.runId = run.id →
      source.waitsAtSync = false)
    (history : History store (HostTask.runBy crew) config run start records state)
    {scene : Scene store.State (Except RunError PassReport)}
    (course : Course store (HostTask.runBy crew) (Pass.goLive.opening config run state) scene)
    {drive : Drive} (hmem : drive ∈ scene.drives) :
    ∃ past, latestDrive drive.task.source.id records = some past
      ∧ past.left.waitsAtSync = true
      ∧ (past.ended.report.outcome = .paused .sync ↔ ¬past.Aborted) := by
  obtain ⟨-, hwaits, hrun, hload⟩ :=
    (Pass.underway_of_course disciplined.savesOwn course).selected hmem
  have hkept := history.kept disciplined.savesOwn drive.task.source.id
  rw [hload] at hkept
  cases hlatest : latestDrive drive.task.source.id records with
  | none =>
    rw [hlatest] at hkept
    have hawake := fresh _ hkept.symm hrun
    rw [Pass.selects, hawake] at hwaits
    cases hwaits
  | some past =>
    rw [hlatest] at hkept
    have hleft : past.left.waitsAtSync = true := Except.ok.inj hkept ▸ hwaits
    refine ⟨past, rfl, hleft, ?_⟩
    obtain ⟨hpast, -⟩ := latestOf_eq_some hlatest
    rcases history.reported disciplined hpast with
      haborted | ⟨report, hended, describes, awake⟩
    · refine iff_of_false ?_ (not_not_intro haborted)
      obtain ⟨reason, hended⟩ := haborted
      rw [hended]
      intro h
      cases h
    · refine iff_of_true ?_ ?_
      · rw [hended]
        exact HostReport.Describes.paused_sync describes awake hleft
      · rintro ⟨reason, haborted⟩
        cases hended.symm.trans haborted

/-! ### A synchronisation that is aborted -/

theorem quietStore_awake (source : Source)
    (held : MemoryStore.ofRuns.load source.id quietStore = .ok source) :
    source.waitsAtSync = false := by
  obtain ⟨hmem, -⟩ := (MemoryStore.load_eq_ok_iff quietStore.2).mp held
  rcases List.mem_cons.mp hmem with rfl | hmem
  · rfl
  · cases List.mem_singleton.mp hmem
    rfl

/-- The source has been synchronised. -/
theorem history_resynced : History MemoryStore.ofRuns (HostTask.runBy (migrationCrew {})) {} default
    quietStore [⟨.resync, resynced.past⟩] resynced.state :=
  History.opening.pass course_resynced rfl

/-- The moment when the source is to go live. -/
def cuttingOver : Scene MemoryStore.ofRuns.State (Except RunError PassReport) where
  schedule := .ask .await fun ended => .done (.ok ⟨[ended.report], 1⟩)
  running := [⟨⟨⟨syncedSource, .advance⟩, []⟩,
    HostTask.runBy (migrationCrew {}) ⟨syncedSource, .advance⟩⟩]
  state := resynced.state

theorem listed_resynced : MemoryStore.ofRuns.list (default : MigrationRun).id resynced.state
    = .ok [syncedSource, freshSource] := rfl

theorem course_cuttingOver : Course MemoryStore.ofRuns (HostTask.runBy (migrationCrew {}))
    (Pass.goLive.opening {} default resynced.state) cuttingOver :=
  Pass.course_singleton listed_resynced rfl

theorem syncedSource_goes_live :
    (migrationCrew {}).Disciplined
      ∧ (∀ source, MemoryStore.ofRuns.load source.id quietStore = .ok source →
          source.runId = (default : MigrationRun).id → source.waitsAtSync = false)
      ∧ History MemoryStore.ofRuns (HostTask.runBy (migrationCrew {})) {} default quietStore
          [⟨.resync, resynced.past⟩] resynced.state
      ∧ Course MemoryStore.ofRuns (HostTask.runBy (migrationCrew {}))
          (Pass.goLive.opening {} default resynced.state) cuttingOver
      ∧ (⟨⟨syncedSource, .advance⟩, []⟩ : Drive) ∈ cuttingOver.drives
      ∧ ∃ past, latestDrive syncedSource.id [⟨.resync, resynced.past⟩] = some past
          ∧ past.left.waitsAtSync = true
          ∧ (past.ended.report.outcome = .paused .sync ↔ ¬past.Aborted) := by
  have hdrive : (⟨⟨syncedSource, .advance⟩, []⟩ : Drive) ∈ cuttingOver.drives :=
    List.mem_cons_self
  exact ⟨migrationCrew_disciplined {}, fun source held _ => quietStore_awake source held,
    history_resynced, course_cuttingOver, hdrive,
    goLive_drives_paused (migrationCrew_disciplined {}) (fun source held _ =>
      quietStore_awake source held) history_resynced course_cuttingOver hdrive⟩

/-- The moment when another synchronisation has ended: the source was woken, and then the task was
aborted. -/
def abandoned : Scene MemoryStore.ofRuns.State (Except RunError PassReport) where
  schedule := .done (.ok ⟨[(TaskEnd.aborted ⟨syncedSource, .again⟩ "panicked").report], 1⟩)
  past := [⟨⟨⟨syncedSource, .again⟩, [⟨.clock, default⟩]⟩,
    .aborted ⟨syncedSource, .again⟩ "panicked"⟩]
  state := resynced.state

theorem course_abandoned : Course MemoryStore.ofRuns (HostTask.runBy (migrationCrew {}))
    (Pass.resync.opening {} default resynced.state) abandoned := by
  have started : Course MemoryStore.ofRuns (HostTask.runBy (migrationCrew {}))
      (Pass.resync.opening {} default resynced.state) _ :=
    Pass.course_singleton listed_resynced rfl
  have woken := started.run [] [] (.ask default (.here _)) (.ask trivial (.nil _))
  exact woken.onward (.land [] [] (.aborted _ "panicked"))

theorem history_abandoned : History MemoryStore.ofRuns (HostTask.runBy (migrationCrew {})) {}
    default quietStore [⟨.resync, resynced.past⟩, ⟨.resync, abandoned.past⟩] abandoned.state :=
  history_resynced.pass course_abandoned rfl

/-- **There is a source whose latest drive has been reported as failed, and that goes live.** -/
theorem abandoned_source_goes_live :
    (migrationCrew {}).Disciplined
      ∧ (∀ source, MemoryStore.ofRuns.load source.id quietStore = .ok source →
          source.runId = (default : MigrationRun).id → source.waitsAtSync = false)
      ∧ History MemoryStore.ofRuns (HostTask.runBy (migrationCrew {})) {} default quietStore
          [⟨.resync, resynced.past⟩, ⟨.resync, abandoned.past⟩] abandoned.state
      ∧ Course MemoryStore.ofRuns (HostTask.runBy (migrationCrew {}))
          (Pass.goLive.opening {} default abandoned.state) cuttingOver
      ∧ (⟨⟨syncedSource, .advance⟩, []⟩ : Drive) ∈ cuttingOver.drives
      ∧ ¬∃ past, latestDrive syncedSource.id
            [⟨.resync, resynced.past⟩, ⟨.resync, abandoned.past⟩] = some past
          ∧ past.ended.report.outcome = .paused .sync := by
  refine ⟨migrationCrew_disciplined {}, fun source held _ => quietStore_awake source held,
    history_abandoned, course_cuttingOver, List.mem_cons_self, ?_⟩
  rintro ⟨past, hlatest, houtcome⟩
  have hpast : latestDrive syncedSource.id [⟨.resync, resynced.past⟩, ⟨.resync, abandoned.past⟩]
      = abandoned.past.head? := rfl
  rw [hpast] at hlatest
  cases hlatest
  cases houtcome

end ServerMigration.Scheduler
