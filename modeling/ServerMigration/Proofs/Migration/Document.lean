import ServerMigration.Proofs.Commander.Saves
import ServerMigration.Proofs.Migration.Crew
import ServerMigration.Proofs.Store.Documents

/-!
# The document of a source and its migration

While a source is driven its document is saved over and over.  In the end the store holds the source
as it is in memory, but for its pause flag and the time of its latest change.  The pause flag is the
same too, unless the hooks behind a synchronisation have failed, or the source was to be
synchronised again and has stopped before its document was saved.

## Main definitions

* `PauseLost` : the store keeps a pause that has been taken back.

## Main results

* `sameIdentity_of_runs_drive` : driving a source does not touch its identity.
* `stored_document_agrees_iff` : the document in the store and the source in memory.
-/

namespace ServerMigration

open Program Commander

/-! ### The commander within a migration -/

variable {provider : Provider}

/-- A step of the catalog that is run within a migration ends as it may. -/
theorem ended_of_expands {outer : Trace SourceStatus MigrationStep Source Instant}
    {inner : SiteTrace} (expands : Expands (migrationAnswer provider) outer inner)
    {step : MigrationStep} {source : Source} {run : CommandRun Source}
    (hmem : (⟨.run step source, run⟩ : Exchange _ (Commander.Answer Instant)) ∈ outer) :
    step.Ended source run.outcome run.entity := by
  obtain ⟨part, hpart, -⟩ := expands.exists_of_mem hmem
  exact ((step.every_perform provider source).of_yields hpart).2

/-- Within a migration whose store accepts every document the commander has surroundings that
oblige it, and only `sync` asks to sleep. -/
theorem obliging_of_expands {outer : Trace SourceStatus MigrationStep Source Instant}
    {inner : SiteTrace} (expands : Expands (migrationAnswer provider) outer inner)
    (accepts : AcceptsSaves inner) :
    ∀ exchange ∈ outer, Obliging (fun step => decide (step = MigrationStep.sync)) exchange := by
  rintro ⟨q, answer⟩ hmem
  obtain ⟨part, hpart, hsub⟩ := expands.exists_of_mem hmem
  have haccepts : AcceptsSaves part := accepts.mono hsub
  cases q with
  | clock => trivial
  | hooks phase status source => trivial
  | run step source =>
    have ended := ended_of_expands expands hmem
    refine ⟨?_, fun signal hok => ?_⟩
    · rw [ended.changed.sameButHosts]
      rfl
    · rw [ended.signal signal hok]
      by_cases h : step = .sync <;> simp [h]
  | checkpoint source => exact (yields_savedBy hpart).2 haccepts
  | transition old new source => exact (yields_savedBy hpart).2 haccepts

/-- The second document is one of the same source, with another progress or other hosts. -/
def Source.SameIdentity (old new : Source) : Prop :=
  new = { old with
    status := new.status, paused := new.paused, updatedAt := new.updatedAt
    remoteHost := new.remoteHost, target := new.target }

theorem Source.SameIdentity.id_eq {old new : Source} (h : old.SameIdentity new) :
    new.id = old.id := by
  rw [h]

theorem Source.SameIdentity.name_eq {old new : Source} (h : old.SameIdentity new) :
    new.name = old.name := by
  rw [h]

/-- **Driving a source does not touch its identity, in any document that is saved either.** -/
theorem sameIdentity_of_runs_drive {outer : Trace SourceStatus MigrationStep Source Instant}
    {inner : SiteTrace} {resume : Resume} {source after : Source}
    {result : Except CommanderError (Outcome SourceStatus)}
    (h : Runs (sourceCommander.drive resume) source outer result after)
    (expands : Expands (migrationAnswer provider) outer inner) :
    source.SameIdentity after ∧ ∀ saved ∈ saves outer, source.SameIdentity saved := by
  refine (path_of_runs_drive h).invariant (fun time s entity hsame => ?_)
    (fun time paused entity hsame => ?_) (fun step entity run hmem hsame => ?_) rfl
  · rw [hsame]
    rfl
  · rw [hsame]
    rfl
  · have hrun := (ended_of_expands expands hmem).changed.sameButHosts
    rw [Source.SameButHosts] at hrun
    rw [hsame] at hrun
    rw [Source.SameIdentity, hrun]

/-! ### The document in the store -/

/-- The source is the document but for the time of its latest change. -/
def Source.SameButTime (stored source : Source) : Prop :=
  source = { stored with updatedAt := source.updatedAt }

/-- The source is the document but for its pause flag and the time of its latest change. -/
def Source.SameButPause (stored source : Source) : Prop :=
  source = { stored with paused := source.paused, updatedAt := source.updatedAt }

/-- A pause has been taken back and the store still keeps it: hooks behind the synchronisation have
failed, or a paused source was to repeat its status and nothing has been saved. -/
def PauseLost (resume : Resume) (source : Source) (trace : SiteTrace)
    (result : Except CommanderError (Outcome SourceStatus)) : Prop :=
  (∃ reason, result = .error (.hookFailed SourceStatus.sync.name .after reason))
    ∨ resume = .again ∧ source.paused = true ∧ documentsSaved trace = []

private theorem sameButTime_setPaused_iff {stored : Source} {time : Instant} :
    stored.SameButTime (Staged.setPaused time false stored) ↔ stored.paused = false := by
  constructor
  · intro h
    exact (congrArg Source.paused h).symm
  · intro h
    change ({ stored with paused := false, updatedAt := time } : Source)
      = { stored with updatedAt := time }
    rw [← h]

/-- The synchronisation is the command of `sync` and of no other status. -/
private theorem eq_sync_iff {s : SourceStatus} {step : MigrationStep}
    (bound : stepTable.get? s = some step) :
    step = .sync ↔ s.name = SourceStatus.sync.name := by
  rw [get?_stepTable] at bound
  cases s <;> cases bound <;> decide

/-- A source that has been saved last, or has neither been saved nor changed, agrees with its
document, unless a pause is lost. -/
private theorem agrees_of_filed {resume : Resume} {source after : Source} {trace : SiteTrace}
    {outer : Trace SourceStatus MigrationStep Source Instant}
    {result : Except CommanderError (Outcome SourceStatus)}
    (hsaves : documentsSaved trace = saves outer)
    (filed : Filed sourceCommander (fun step => decide (step = .sync)) source outer
      (failure? result) after)
    (repeated : resume = .again → saves outer ≠ []) :
    (((saves outer).getLast?.getD source).SameButPause after)
      ∧ (((saves outer).getLast?.getD source).SameButTime after
        ↔ ¬PauseLost resume source trace result) := by
  have hsaved : ¬(resume = .again ∧ source.paused = true ∧ documentsSaved trace = []) := by
    rintro ⟨hresume, -, hnil⟩
    exact repeated hresume (hsaves ▸ hnil)
  have hlost : PauseLost resume source trace result ↔
      ∃ reason, result = .error (.hookFailed SourceStatus.sync.name .after reason) :=
    or_iff_left hsaved
  rw [hlost]
  generalize hfailure : failure? result = failure at filed
  have calm_of_undisturbed (calm : Undisturbed failure) :
      ¬∃ reason, result = .error (.hookFailed SourceStatus.sync.name .after reason) := by
    rintro ⟨reason, rfl⟩
    exact calm _ _ hfailure.symm
  cases filed with
  | untouched unsaved calm =>
    rw [unsaved]
    exact ⟨rfl, iff_of_true rfl (calm_of_undisturbed calm)⟩
  | current last calm =>
    rw [last]
    exact ⟨rfl, iff_of_true rfl (calm_of_undisturbed calm)⟩
  | @woken s step saved reason time bound last flag =>
    have hflag : saved.paused = decide (step = .sync) := flag
    rw [last, Option.getD_some, sameButTime_setPaused_iff, hflag, decide_eq_false_iff_not,
      eq_sync_iff bound, failure?_eq_some_iff.mp hfailure]
    refine ⟨rfl, not_congr ?_⟩
    constructor
    · intro hsync
      exact ⟨reason, by rw [← hsync]; rfl⟩
    · rintro ⟨reason', hresult⟩
      exact (CommanderError.hookFailed.inj (Except.error.inj hresult)).1

/-- A source that was to repeat its status, and has stopped before it was saved, agrees with its
document unless it was paused. -/
private theorem agrees_of_unsaved {source : Source} {trace : SiteTrace} {time : Instant}
    {result : Except CommanderError (Outcome SourceStatus)} (unsaved : documentsSaved trace = [])
    (calm : Undisturbed (failure? result)) :
    source.SameButTime (Staged.setPaused time false source)
      ↔ ¬PauseLost .again source trace result := by
  rw [sameButTime_setPaused_iff, ← Bool.not_eq_true]
  refine not_congr ?_
  constructor
  · intro hpaused
    exact .inr ⟨rfl, hpaused, unsaved⟩
  · rintro (⟨reason, hresult⟩ | ⟨-, hpaused, -⟩)
    · exact absurd (failure?_eq_some_iff.mpr hresult) (calm _ _)
    · exact hpaused

/-- **When a source has been driven, and the store has accepted every document, the store holds the
source but for its pause flag and the time of its latest change; and the pause flag is the same
unless a pause is lost.** -/
theorem stored_document_agrees_iff {store : DocumentStore} {state : store.State} {resume : Resume}
    {source after : Source} {trace : SiteTrace}
    {result : Except CommanderError (Outcome SourceStatus)}
    (accepts : AcceptsSaves trace) (held : store.load source.id state = .ok source)
    (h : (MigrationDrive.run provider (sourceCommander.drive resume) source).Yields trace
      (result, after)) :
    ∃ stored, store.load source.id (store.saveAll state (documentsSaved trace)) = .ok stored
      ∧ stored.SameButPause after
      ∧ (stored.SameButTime after ↔ ¬PauseLost resume source trace result) := by
  obtain ⟨outer, houter, expands⟩ := yields_reinterpret_iff.mp h
  have hsaves := (migrationCrew_disciplined provider).documentsSaved_of_expands expands
  have hids : ∀ saved ∈ documentsSaved trace, saved.id = source.id := by
    rw [hsaves]
    exact fun saved hmem => ((sameIdentity_of_runs_drive houter expands).2 saved hmem).id_eq
  have hstored : store.load source.id (store.saveAll state (documentsSaved trace))
      = .ok ((saves outer).getLast?.getD source) := by
    rw [DocumentStore.load_saveAll hids, hsaves]
    cases (saves outer).getLast? with
    | none => exact held
    | some saved => rfl
  refine ⟨_, hstored, ?_⟩
  rcases filed_of_runs_drive houter (obliging_of_expands expands accepts) with
    ⟨hfiled, repeated⟩ | ⟨rfl, unsaved, calm, time, rfl⟩
  · exact agrees_of_filed hsaves hfiled repeated
  · rw [unsaved]
    exact ⟨rfl, agrees_of_unsaved (hsaves.trans unsaved) calm⟩

/-! ### A synchronisation with a hook behind it -/

/-- A source at `sync` with nothing to copy and a hook behind the synchronisation. -/
def hookedSource : Source :=
  let host : RemoteHost := { (default : RemoteHost) with systemInfo := some ⟨[], [], ⟨0, 0⟩⟩ }
  { (default : Source) with
    status := .sync
    remoteHost := host
    target := {
      blueprint := { (default : Blueprint) with hooks := [⟨"after_sync", .source, "notify"⟩] }
      deviceMapping := some []
      remoteHost := some host } }

/-- The same source asleep. -/
def sleepingSource : Source := { hookedSource with paused := true }

/-- The synchronisation of the source, with an answer to its hook. -/
def synchronisation (hook : Except RemoteError String) : SiteTrace :=
  [⟨.clock, default⟩, ⟨.store (.saveSource sleepingSource), .ok ()⟩,
    ⟨.remote hookedSource.remoteHost
      (scriptCommand "notify" (eventDocument sleepingSource "after_sync")) {}, hook⟩]

theorem synchronisation_accepts (hook : Except RemoteError String) :
    AcceptsSaves (synchronisation hook) := by
  intro source answer hmem
  simp [synchronisation] at hmem
  exact hmem.2

theorem sleepingSource_stored :
    AcceptsSaves (synchronisation (.ok ""))
      ∧ MemoryStore.documents.load hookedSource.id { sources := [hookedSource] } = .ok hookedSource
      ∧ (MigrationDrive.run {} (sourceCommander.drive .execute) hookedSource).Yields
          (synchronisation (.ok "")) (.ok (.paused .sync), sleepingSource)
      ∧ ∃ stored, MemoryStore.documents.load hookedSource.id (MemoryStore.documents.saveAll
          { sources := [hookedSource] } (documentsSaved (synchronisation (.ok "")))) = .ok stored
        ∧ stored.SameButTime sleepingSource := by
  have held : MemoryStore.documents.load hookedSource.id { sources := [hookedSource] }
      = .ok hookedSource := rfl
  have hruns : (MigrationDrive.run {} (sourceCommander.drive .execute) hookedSource).Yields
      (synchronisation (.ok "")) (.ok (.paused .sync), sleepingSource) :=
    .ask _ (.ask _ (.ask _ (.done _)))
  obtain ⟨stored, hload, -, hagrees⟩ :=
    stored_document_agrees_iff (synchronisation_accepts _) held hruns
  refine ⟨synchronisation_accepts _, held, hruns, stored, hload, hagrees.mpr ?_⟩
  rintro (⟨reason, hresult⟩ | ⟨hresume, -⟩)
  · cases hresult
  · cases hresume

/-- The synchronisation with a hook that fails. -/
def disturbedSynchronisation : SiteTrace :=
  synchronisation (.error (.connection "web" 3 "no route")) ++ [⟨.clock, default⟩]

/-- **There is a source that the store keeps asleep when it has been woken.** -/
theorem disturbed_document_differs :
    ∃ (result : Except CommanderError (Outcome SourceStatus)) (after : Source),
      AcceptsSaves disturbedSynchronisation
        ∧ MemoryStore.documents.load hookedSource.id { sources := [hookedSource] }
          = .ok hookedSource
        ∧ (MigrationDrive.run {} (sourceCommander.drive .execute) hookedSource).Yields
          disturbedSynchronisation (result, after)
        ∧ ¬∃ stored, MemoryStore.documents.load hookedSource.id (MemoryStore.documents.saveAll
            { sources := [hookedSource] } (documentsSaved disturbedSynchronisation)) = .ok stored
          ∧ stored.SameButTime after := by
  refine ⟨_, hookedSource, ?_, rfl, .ask _ (.ask _ (.ask _ (.ask _ (.done _)))), ?_⟩
  · intro source answer hmem
    simp [disturbedSynchronisation, synchronisation] at hmem
    exact hmem.2
  · rintro ⟨stored, hload, hsame⟩
    have hstored : stored = sleepingSource := (Except.ok.inj hload).symm
    rw [hstored] at hsame
    cases congrArg Source.paused hsame

end ServerMigration
