import ServerMigration.Proofs.Mapping.Resolution
import ServerMigration.Proofs.Migration.Formatting

/-!
# Synchronising the filesystems

The mounted filesystems of the source are copied one after the other, in the order of the mount
table, whatever becomes of each copy.  A copy that fails is told, unless files have only vanished
meanwhile.  A source at `sync` falls asleep exactly if nothing was told; otherwise it stays awake
there, and the failure counts what was told.

## Main definitions

* `Copy` : the copy of a filesystem, with the reply of the host.
* `Copy.succeeded`, `Copy.failures` : whether it counts as made, and what is told of it.
* `Synchronised` : how the filesystems of a mount table are copied.

## Main results

* `Work.runs_forM_copyFilesystem_iff` : the runs of the copies, for all replies.
* `Source.Identified.synchronised` : how the filesystems of an identified source are copied.
-/

namespace ServerMigration

open Program Commander DeviceMapping

/-! ### Copies -/

/-- The copy of a filesystem, with the reply of the host. -/
structure Copy where
  /-- The filesystem. -/
  entry : MountEntry
  /-- What the host has replied to the command that makes the copy. -/
  reply : Except RemoteError String

namespace Copy

/-- The copy is made, although some files may have vanished meanwhile. -/
def succeeded (copy : Copy) : Bool :=
  match copy.reply with
  | .ok _ => true
  | .error (.execution _ _ exitCode _ _) => exitCode = vanishedStatus
  | .error (.connection ..) => false

/-- What is told of the copy. -/
def failures (copy : Copy) : StepErrors :=
  if copy.succeeded then [] else Work.complaint s!"sync {copy.entry.sourceMountpoint}" copy.reply

/-- What is asked of the host of a source, and its reply. -/
def exchange (s : Source) (target : RemoteHost) (copy : Copy) : Exchange Site.Ask Site.Answer :=
  ⟨.remote s.remoteHost (copyCommand s target copy.entry) {}, copy.reply⟩

/-- One failure is told of a copy that has not succeeded, and none of any other. -/
theorem length_failures (copy : Copy) :
    copy.failures.length = if copy.succeeded then 0 else 1 := by
  obtain ⟨entry, reply⟩ := copy
  cases reply with
  | ok output => rfl
  | error error =>
    rw [failures]
    split <;> rfl

/-- **Of every copy that has not succeeded one failure is told.** -/
theorem length_flatMap_failures (copies : List Copy) :
    (copies.flatMap failures).length = copies.countP (!·.succeeded) := by
  induction copies with
  | nil => rfl
  | cons copy copies ih =>
    rw [List.flatMap_cons, List.length_append, ih, length_failures, List.countP_cons, Nat.add_comm]
    cases copy.succeeded <;> rfl

theorem flatMap_failures_eq_nil_iff {copies : List Copy} :
    copies.flatMap failures = [] ↔ ∀ copy ∈ copies, copy.succeeded = true := by
  rw [← List.length_eq_zero_iff, length_flatMap_failures, List.countP_eq_zero]
  simp

end Copy

/-! ### The steps -/

namespace Work

variable {s : Source} {host : RemoteHost} {trace : SiteTrace} {errors : StepErrors}
  {before after : Progress}

/-- A copy puts one question, and the reply decides what is told. -/
theorem run_copyFilesystem (s : Source) (host : RemoteHost) (entry : MountEntry)
    (before : Progress) :
    (copyFilesystem s host entry).run.run before =
      .ask (.remote s.remoteHost (copyCommand s host entry) {}) fun reply =>
        .done (.ok (), { before with
          errors := before.errors ++ Copy.failures ⟨entry, reply⟩ }) := by
  refine congrArg (Program.ask (Site.Ask.remote _ _ _)) (funext fun reply => ?_)
  match reply with
  | .ok output =>
    have hnothing : Copy.failures ⟨entry, .ok output⟩ = [] := rfl
    rw [hnothing, List.append_nil]
    rfl
  | .error (.connection address attempts reason) => rfl
  | .error (.execution address command exitCode stdout stderr) =>
    change (if exitCode = vanishedStatus then pure () else record _ _ : Work Unit).run.run before
      = _
    by_cases hvanished : exitCode = vanishedStatus
    · have hnothing : Copy.failures ⟨entry, .error (.execution address command exitCode stdout
          stderr)⟩ = [] := if_pos (decide_eq_true hvanished)
      rw [if_pos hvanished, hnothing, List.append_nil]
      rfl
    · rw [if_neg hvanished, Copy.failures, if_neg (by simpa [Copy.succeeded] using hvanished)]
      rfl

theorem runs_copyFilesystem_iff {entry : MountEntry} {result : Except CommandError Unit} :
    Runs (copyFilesystem s host entry) before trace result after ↔
      ∃ reply, trace = [Copy.exchange s host ⟨entry, reply⟩] ∧ result = .ok ()
        ∧ after = { before with errors := before.errors ++ Copy.failures ⟨entry, reply⟩ } := by
  rw [Runs, run_copyFilesystem, yields_ask_iff]
  constructor
  · rintro ⟨reply, rest, rfl, hrest⟩
    obtain ⟨rfl, hsame⟩ := yields_done_iff.mp hrest
    cases hsame
    exact ⟨reply, rfl, rfl, rfl⟩
  · rintro ⟨reply, rfl, rfl, rfl⟩
    exact ⟨reply, [], rfl, .done _⟩

/-- **The copies are made one after the other, whatever the replies are.** -/
theorem runs_forM_copyFilesystem_iff {entries : List MountEntry}
    {result : Except CommandError Unit} :
    Runs (entries.forM (copyFilesystem s host)) before trace result after ↔
      ∃ copies : List Copy, copies.map (·.entry) = entries
        ∧ trace = copies.map (·.exchange s host) ∧ result = .ok ()
        ∧ after = { before with errors := before.errors ++ copies.flatMap Copy.failures } := by
  induction entries generalizing before trace with
  | nil =>
    constructor
    · intro h
      obtain ⟨rfl, rfl, rfl⟩ := runs_pure_iff.mp h
      exact ⟨[], rfl, rfl, rfl, by simp⟩
    · rintro ⟨copies, hcopies, rfl, rfl, rfl⟩
      cases List.map_eq_nil_iff.mp hcopies
      exact runs_pure_iff.mpr ⟨rfl, rfl, by simp⟩
  | cons entry entries ih =>
    refine Iff.trans runs_bind_iff ?_
    constructor
    · rintro (⟨error, hfirst, rfl⟩ | ⟨_, middle, first, second, hfirst, hrest, rfl⟩)
      · obtain ⟨reply, -, hsame, -⟩ := runs_copyFilesystem_iff.mp hfirst
        cases hsame
      · obtain ⟨reply, rfl, -, rfl⟩ := runs_copyFilesystem_iff.mp hfirst
        obtain ⟨copies, rfl, rfl, rfl, rfl⟩ := ih.mp hrest
        exact ⟨⟨entry, reply⟩ :: copies, rfl, rfl, rfl, by simp⟩
    · rintro ⟨copies, hcopies, rfl, rfl, rfl⟩
      obtain ⟨copy, copies, rfl, rfl, rfl⟩ := List.map_eq_cons_iff.mp hcopies
      exact .inr ⟨(), _, _, _, runs_copyFilesystem_iff.mpr ⟨copy.reply, rfl, rfl, rfl⟩,
        ih.mpr ⟨copies, rfl, rfl, rfl, by simp⟩, rfl⟩

/-- The filesystems of a mount table are copied, whatever comes of it, and the step ends with a
signal. -/
def Copied (s : Source) (host : RemoteHost) (table : MountTable) (signal : Option Signal)
    (trace : SiteTrace) (run : CommandRun Source) : Prop :=
  ∃ copies : List Copy, copies.map (·.entry) = table ∧ trace = copies.map (·.exchange s host)
    ∧ run = ⟨s, copies.flatMap Copy.failures, .ok signal⟩

/-- Work that copies all filesystems and ends with a signal copies those of the mount table, if all
of them have their places. -/
theorem runs_copyFilesystems_iff {table : MountTable} {command : String} {signal : Option Signal}
    {run : CommandRun Source} (hhost : s.target.remoteHost = some host)
    (htable : mountTable s command = .ok table)
    (placed : ∀ entry ∈ table, entry.sourceMountpoint ≠ "" ∧ entry.targetMountpoint ≠ "") :
    Runs (do copyFilesystems command; return signal) ⟨s, []⟩ trace run.outcome
        ⟨run.entity, run.errors⟩ ↔ Copied s host table signal trace run := by
  have hmounted : (table.filter fun entry =>
      entry.sourceMountpoint ≠ "" && entry.targetMountpoint ≠ "") = table :=
    List.filter_eq_self.mpr fun entry hmem => by simpa using placed entry hmem
  have hcopies {middle : Progress} {first : SiteTrace} {result : Except CommandError Unit} :
      Runs (copyFilesystems command) ⟨s, []⟩ first result middle ↔
        ∃ copies : List Copy, copies.map (·.entry) = table
          ∧ first = copies.map (·.exchange s host) ∧ result = .ok ()
          ∧ middle = ⟨s, copies.flatMap Copy.failures⟩ := by
    rw [copyFilesystems, runs_source_bind_iff, targetHost_eq_ok_iff.mpr hhost, runs_look_iff,
      htable, runs_look_iff, hmounted, runs_forM_copyFilesystem_iff]
    rfl
  rw [runs_bind_iff]
  obtain ⟨entity, errors, outcome⟩ := run
  constructor
  · rintro (⟨error, hfirst, -⟩ | ⟨_, middle, first, second, hfirst, hrest, rfl⟩)
    · obtain ⟨copies, -, -, hsame, -⟩ := hcopies.mp hfirst
      cases hsame
    · obtain ⟨copies, rfl, rfl, -, rfl⟩ := hcopies.mp hfirst
      obtain ⟨rfl, rfl, hafter⟩ := runs_pure_iff.mp hrest
      obtain ⟨rfl, rfl⟩ := Progress.mk.inj hafter
      exact ⟨copies, rfl, List.append_nil _, rfl⟩
  · rintro ⟨copies, hentries, rfl, hrun⟩
    cases hrun
    exact .inr ⟨(), _, _, [], hcopies.mpr ⟨copies, hentries, rfl, rfl, rfl⟩,
      runs_pure_iff.mpr ⟨rfl, rfl, rfl⟩, (List.append_nil _).symm⟩

end Work

open Work (Copied)

variable {provider : Provider} {s : Source} {host : RemoteHost} {table : MountTable}
  {trace : SiteTrace} {run : CommandRun Source}

theorem MigrationStep.yields_perform_iff {step : MigrationStep} :
    (step.perform provider s).Yields trace run ↔
      Runs (step.work provider) ⟨s, []⟩ trace run.outcome ⟨run.entity, run.errors⟩ :=
  ⟨runs_of_yields_perform, fun h => yields_perform h⟩

/-! ### Driving a source at `sync` -/

/-- How a call ends that has synchronised a source: the source stays at `sync`, and it sleeps there
exactly if all copies have succeeded. -/
structure SyncEnds (copies : List Copy) (result : Except CommanderError (Outcome SourceStatus))
    (after : Source) : Prop where
  asleep_iff : result = .ok (.paused .sync) ↔ ∀ copy ∈ copies, copy.succeeded = true
  status : after.status = .sync
  paused_iff : after.paused = true ↔ ∀ copy ∈ copies, copy.succeeded = true
  failed : (¬∀ copy ∈ copies, copy.succeeded = true) →
    result = .error (.commandFailed "sync" (.failed "Sync" (copies.countP (!·.succeeded))
      (joinReport (copies.flatMap Copy.failures))))

/-- How the filesystems of a source are synchronised. -/
structure Synchronised (provider : Provider) (s : Source) (host : RemoteHost)
    (table : MountTable) : Prop where
  /-- The runs of the first synchronisation, and of those that are repeated. -/
  sync : ∀ trace run, (MigrationStep.sync.perform provider s).Yields trace run ↔
    Copied s host table (some .sleep) trace run
  /-- The runs of the last synchronisation. -/
  finalSync : ∀ trace run, (MigrationStep.finalSync.perform provider s).Yields trace run ↔
    Copied s host table none trace run
  /-- One failure is recorded of every copy that has not succeeded. -/
  failures : ∀ copies : List Copy,
    (copies.flatMap Copy.failures).length = copies.countP (!·.succeeded)
  /-- A source at `sync` that is executed awake, or repeats its status. -/
  driven : s.status = .sync → ∀ resume, resume = .again ∨ resume = .execute ∧ s.paused = false →
    ∀ outer inner result after, Runs (sourceCommander.drive resume) s outer result after →
      Expands (migrationAnswer provider) outer inner → (∀ exchange ∈ outer, HooksPass exchange) →
      (∀ exchange ∈ outer, SaveAccepted exchange) →
      ∃ (copies : List Copy) (before rest : SiteTrace), copies.map (·.entry) = table
        ∧ inner = before ++ copies.map (·.exchange s host) ++ rest ∧ SyncEnds copies result after

/-- An awake source that is executed at `sync`. -/
theorem syncEnds_of_runs_execute {outer : Trace SourceStatus MigrationStep Source Instant}
    {inner : SiteTrace} {result : Except CommanderError (Outcome SourceStatus)} {after : Source}
    (hsync : s.status = .sync) (awake : s.paused = false)
    (copied : ∀ trace run, (MigrationStep.sync.perform provider s).Yields trace run →
      Copied s host table (some .sleep) trace run)
    (h : Runs sourceCommander.execute s outer result after)
    (expands : Expands (migrationAnswer provider) outer inner)
    (pass : ∀ exchange ∈ outer, HooksPass exchange)
    (accepted : ∀ exchange ∈ outer, SaveAccepted exchange) :
    ∃ (copies : List Copy) (before rest : SiteTrace), copies.map (·.entry) = table
      ∧ inner = before ++ copies.map (·.exchange s host) ++ rest
      ∧ SyncEnds copies result after := by
  have bound : sourceCommander.commands.get? s.status = some .sync := by
    rw [hsync]
    exact get?_stepTable .sync
  obtain ⟨run, settled⟩ := settled_of_runs_execute (Crew.mem_lifecycle s.status) bound awake pass
    accepted (fun run signal hmem hended => by
      obtain ⟨part, hpart, -⟩ := expands.exists_of_mem hmem
      obtain ⟨copies, -, -, rfl⟩ := copied part run hpart
      cases hended
      rfl) h
  have hstatus : Staged.status s = .sync := hsync
  rw [hstatus] at settled
  cases settled with
  | asleep calm ended time =>
    obtain ⟨before, _, -, expands', rfl⟩ := expands_cons_iff.mp expands
    obtain ⟨part, rest, hperform, -, rfl⟩ := expands_cons_iff.mp expands'
    obtain ⟨copies, hentries, rfl, rfl⟩ := copied part run hperform
    have hall := Copy.flatMap_failures_eq_nil_iff.mp calm
    refine ⟨copies, before, rest, hentries, by simp, ?_⟩
    exact {
      asleep_iff := iff_of_true rfl hall
      status := hsync
      paused_iff := iff_of_true rfl hall
      failed := fun hnot => absurd hall hnot }
  | failed verdict =>
    obtain ⟨before, _, -, expands', rfl⟩ := expands_cons_iff.mp expands
    obtain ⟨part, rest, hperform, -, rfl⟩ := expands_cons_iff.mp expands'
    obtain ⟨copies, hentries, rfl, rfl⟩ := copied part run hperform
    obtain ⟨hsome, rfl⟩ := settle_ok_eq_error_iff.mp verdict
    have hnot := mt Copy.flatMap_failures_eq_nil_iff.mpr hsome
    refine ⟨copies, before, rest, hentries, by simp, ?_⟩
    exact {
      asleep_iff := iff_of_false (by simp) hnot
      status := hsync
      paused_iff := iff_of_false (by rw [awake]; exact Bool.false_ne_true) hnot
      failed := fun _ => by
        rw [Copy.length_flatMap_failures]
        rfl }

/-! ### Identified sources -/

namespace Source.Identified

variable {info : SystemInfo} {target : Devices} {mapping : DeviceMapping}

/-- A step that copies all filesystems and ends with a signal. -/
theorem copied_iff (identified : s.Identified info target mapping)
    (hhost : s.target.remoteHost = some host)
    (htable : MountTable.ofMapping info.blockDevices mapping = .ok table)
    (tabulates : MountTable.Tabulates table info.blockDevices.surface) {command : String}
    {signal : Option Signal} {step : MigrationStep}
    (hwork : step.work provider = do Work.copyFilesystems command; return signal) :
    (step.perform provider s).Yields trace run ↔ Copied s host table signal trace run := by
  rw [MigrationStep.yields_perform_iff, hwork]
  refine Work.runs_copyFilesystems_iff hhost (identified.mountTable_eq_ok htable command) ?_
  intro entry hmem
  obtain ⟨device, -, describes⟩ := tabulates.lists.sound entry hmem
  obtain ⟨-, hslash, -⟩ := mountPath?_eq_some_iff.mp describes.mounted
  refine ⟨fun hempty => ?_, tabulates.lists.directory_ne_empty hmem⟩
  rw [hempty] at hslash
  cases hslash

/-- **The mount table of an identified source whose devices stand under their own names has one
entry for every mounted disk and partition, and its filesystems are synchronised, whatever becomes
of each copy.** -/
theorem synchronised (provider : Provider) {s : Source} {host : RemoteHost}
    (identified : s.Identified info target mapping) (orderly : info.blockDevices.Orderly)
    (hhost : s.target.remoteHost = some host) :
    ∃ table, MountTable.ofMapping info.blockDevices mapping = .ok table
      ∧ MountTable.Tabulates table info.blockDevices.surface
      ∧ Synchronised provider s host table := by
  obtain ⟨table, htable, tabulates⟩ := MountTable.exists_tabulates_surface orderly identified.paired
  refine ⟨table, htable, tabulates, ?_⟩
  refine {
    sync := fun _ _ => identified.copied_iff hhost htable tabulates rfl
    finalSync := fun _ _ => identified.copied_iff hhost htable tabulates rfl
    failures := Copy.length_flatMap_failures
    driven := ?_ }
  intro hstatus resume hresume outer inner result after h expands pass accepted
  cases driven_of_runs h with
  | executed run =>
    obtain hsame | ⟨-, awake⟩ := hresume
    · cases hsame
    · exact syncEnds_of_runs_execute hstatus awake
        (fun _ _ => (identified.copied_iff hhost htable tabulates rfl).mp) run expands pass accepted
  | repeated time run =>
    -- The source is woken first, which makes no difference to the copies.
    have woken : (Staged.setPaused time false s).Identified info target mapping :=
      ⟨identified.inventory, identified.recorded, identified.paired⟩
    obtain ⟨part, _, -, expands', rfl⟩ := expands_cons_iff.mp expands
    have hwoken : (Staged.setPaused time false s).status = .sync := hstatus
    obtain ⟨copies, before, rest, hentries, rfl, ends⟩ := syncEnds_of_runs_execute hwoken rfl
      (fun _ _ => (woken.copied_iff hhost htable tabulates rfl).mp) run expands'
      (List.forall_mem_cons.mp pass).2 (List.forall_mem_cons.mp accepted).2
    exact ⟨copies, part ++ before, rest, hentries, by simp only [List.append_assoc]; rfl, ends⟩
  | held | advanced => rcases hresume with hsame | ⟨hsame, -⟩ <;> cases hsame

end Source.Identified

/-- The source of `nested` at `sync`, paired with its target. -/
def syncingSource : Source :=
  { identifiedSource MountTable.nested MountTable.nestedMapping with status := .sync }

/-- Three copies: the root filesystem cannot be reached, files of the next one have vanished, and
the third one is made. -/
def threeCopies : List Copy :=
  List.zipWith Copy.mk MountTable.nestedTable
    [.error (.connection "web" 3 "no route"), .error (.execution "web" "rsync" 24 "" ""), .ok ""]

/-- Of the three copies one failure is told, and the source stays awake at `sync`. -/
theorem syncingSource_synchronised :
    syncingSource.Identified { blockDevices := MountTable.nested } MountTable.emptyDisk
        MountTable.nestedMapping
      ∧ MountTable.nested.Orderly
      ∧ syncingSource.target.remoteHost = some default
      ∧ MountTable.Tabulates MountTable.nestedTable MountTable.nested.surface
      ∧ Synchronised {} syncingSource default MountTable.nestedTable
      ∧ (MigrationStep.sync.perform {} syncingSource).Yields
          (threeCopies.map (·.exchange syncingSource default))
          ⟨syncingSource, threeCopies.flatMap Copy.failures, .ok (some .sleep)⟩
      ∧ ∃ outer inner, Runs (sourceCommander.drive .execute) syncingSource outer
          (.error (.commandFailed "sync" (.failed "Sync" 1
            (joinReport (threeCopies.flatMap Copy.failures))))) syncingSource
        ∧ Expands (migrationAnswer {}) outer inner ∧ (∀ exchange ∈ outer, HooksPass exchange)
        ∧ (∀ exchange ∈ outer, SaveAccepted exchange)
        ∧ syncingSource.status = .sync ∧ syncingSource.paused = false := by
  have identified : syncingSource.Identified { blockDevices := MountTable.nested }
      MountTable.emptyDisk MountTable.nestedMapping := ⟨rfl, rfl, MountTable.ofDevices_nested⟩
  obtain ⟨table, htable, tabulates, synchronised⟩ :=
    identified.synchronised {} MountTable.orderly_nested rfl
  cases htable.symm.trans MountTable.ofMapping_nested
  have performed := (synchronised.sync _ _).mpr ⟨threeCopies, rfl, rfl, rfl⟩
  refine ⟨identified, MountTable.orderly_nested, rfl, tabulates, synchronised, performed, ?_⟩
  let outer : Trace SourceStatus MigrationStep Source Instant :=
    [⟨.hooks .before .sync syncingSource, .ok ()⟩, ⟨.run .sync syncingSource,
      ⟨syncingSource, threeCopies.flatMap Copy.failures, .ok (some .sleep)⟩⟩,
      ⟨.checkpoint syncingSource, .ok ()⟩]
  have expands : Expands (migrationAnswer {}) outer _ :=
    .cons (.done _) (.cons performed (.cons (yields_savedBy_accepted _ _) .nil))
  refine ⟨outer, _, .ask _ (.ask _ (.ask _ (.done _))), expands, ?_, ?_, rfl, rfl⟩
  · simp [outer, HooksPass]
  · simp [outer, SaveAccepted]

/-- A mounted disk that stands under the name of another one. -/
def misnamedRoot : Devices :=
  [("sdb", { blank "sda" 20 with fs := "ext4", mountpoint := "/" })]

/-- The counterpart of the disk of `misnamedRoot`. -/
def misnamedRootMapping : DeviceMapping :=
  [("sda", ⟨"vdb", mountDirectory (some "/") false, []⟩)]

/-- **A mounted filesystem of a device that stands under another name is not copied.** -/
theorem misnamedRoot_not_copied :
    ¬ ∀ (s : Source) (host : RemoteHost) (info : SystemInfo) (target : Devices)
        (mapping : DeviceMapping), s.Identified info target mapping →
        s.target.remoteHost = some host → ∀ trace run,
          (MigrationStep.sync.perform {} s).Yields trace run →
          (commandsRun trace).length
            = (info.blockDevices.surface.filter (·.mountPath?.isSome)).length := by
  intro h
  have hpaired : ofDevices misnamedRoot bootAndEmpty = .ok misnamedRootMapping := by
    with_unfolding_all rfl
  have hruns : (MigrationStep.sync.perform {}
      (identifiedSource misnamedRoot misnamedRootMapping)).Yields [] _ := .done _
  have hlength := h _ _ _ _ _ (identified_identifiedSource hpaired) rfl _ _ hruns
  exact absurd hlength (by decide +kernel)

end ServerMigration
