import ServerMigration.Proofs.Commander.Contract
import ServerMigration.Proofs.Migration.Document
import ServerMigration.Proofs.Migration.Failures
import ServerMigration.Proofs.Migration.Series
import ServerMigration.Proofs.Migration.TargetCreation

/-!
# Every step finds what it needs

A source that starts as a draft acquires its target, the inventories of both sides and the device
mapping one after the other.  However its migration is interrupted and taken up again, it stands at
a status only if the steps of all earlier statuses have left behind what they are to leave behind.
So no step ever fails for want of that.

## Main definitions

* `Source.Coherent` : what is recorded of a source fits together.
* `Source.Ready` : it is there as far as the status tells.
* `Managed` : a source that has been driven by calls of the commander.

## Main results

* `ready_contract` : the steps achieve what the commander's statuses promise.
* `Managed.missedNothing` : no step misses anything, in any call of any history.
-/

namespace ServerMigration

open Program Commander

/-! ### What is recorded fits together -/

namespace Source

/-- The parts of the document fit together: the inventory of the source is one of a report, a target
has its metadata and was created when the inventory was there, and a recorded mapping fits the
inventory. -/
structure Coherent (s : Source) : Prop where
  reported : ∀ info, s.systemInfo = some info → info.Reported
  provisioned : ∀ host, s.target.remoteHost = some host →
    host.cloudMetadata.isSome ∧ s.systemInfo.isSome
  paired : ∀ mapping, s.target.deviceMapping = some mapping →
    ∃ info, s.systemInfo = some info ∧ mapping.Fits info.blockDevices

namespace Coherent

variable {s new : Source} {step : MigrationStep}

/-- That is a matter of the two hosts alone. -/
theorem of_same (coherent : s.Coherent) (host : new.remoteHost = s.remoteHost)
    (target : new.target = s.target) : new.Coherent := by
  have hinfo : new.systemInfo = s.systemInfo := congrArg RemoteHost.systemInfo host
  constructor
  · rw [hinfo]
    exact coherent.reported
  · rw [hinfo, target]
    exact coherent.provisioned
  · rw [hinfo, target]
    exact coherent.paired

/-- Another host of the target with metadata does not disturb that. -/
theorem replaceHost (coherent : s.Coherent) {host : Option RemoteHost}
    (hhost : ∀ h, host = some h → h.cloudMetadata.isSome ∧ s.systemInfo.isSome) :
    Coherent { s with target := { s.target with remoteHost := host } } where
  reported := coherent.reported
  provisioned := hhost
  paired := coherent.paired

/-- Nor does a change of the host that keeps metadata. -/
theorem mapHost (coherent : s.Coherent) {f : RemoteHost → RemoteHost}
    (hf : ∀ host, host.cloudMetadata.isSome → (f host).cloudMetadata.isSome) :
    Coherent { s with target := { s.target with remoteHost := s.target.remoteHost.map f } } := by
  refine coherent.replaceHost fun host hhost => ?_
  obtain ⟨old, hold, rfl⟩ := Option.map_eq_some_iff.mp hhost
  exact (coherent.provisioned old hold).imp_left (hf old)

theorem of_inventoried (coherent : s.Coherent) (inventory : s.Inventoried new) :
    new.Coherent ∧ new.systemInfo.isSome := by
  cases inventory with
  | known found => exact ⟨coherent, found⟩
  | @taken info unknown reported =>
    refine ⟨⟨?_, fun host hhost => ?_, fun mapping hmapping => ?_⟩, rfl⟩
    · rintro _ h
      cases h
      exact reported
    · exact ⟨(coherent.provisioned host hhost).1, rfl⟩
    · obtain ⟨info, known, -⟩ := coherent.paired mapping hmapping
      cases unknown.symm.trans known

theorem of_changed (coherent : s.Coherent) (changed : s.Changed step new) : new.Coherent := by
  induction changed with
  | untouched => exact coherent
  | inventoried bare inventory => exact (coherent.of_inventoried inventory).1
  | created bare inventory metadata id =>
    obtain ⟨hmiddle, found⟩ := coherent.of_inventoried inventory
    refine hmiddle.replaceHost fun host hhost => ?_
    cases hhost
    exact ⟨rfl, found⟩
  | inspected reported => exact coherent.mapHost fun _ h => h
  | @paired inventory info mapping unmapped known fits =>
    refine ⟨coherent.reported, coherent.provisioned, ?_⟩
    rintro _ h
    cases h
    obtain ⟨text, htext⟩ := coherent.reported inventory known
    exact ⟨inventory, known,
      DeviceMapping.fits_of_ofDevices (Devices.orderly_of_ofLsblk htext) fits⟩
  | volumeDeleted | nicDeleted => exact coherent.mapHost fun _ _ => rfl
  | readdressed deleted ih => exact ih.mapHost fun _ h => h

/-- Without metadata there is no target. -/
theorem remoteHost_eq_none (coherent : s.Coherent) (bare : s.target.isProvisioned = false) :
    s.target.remoteHost = none := by
  cases hhost : s.target.remoteHost with
  | none => rfl
  | some host =>
    have hmetadata := (coherent.provisioned host hhost).1
    rw [Target.isProvisioned, hhost, Option.any_some, hmetadata] at bare
    cases bare

/-- A target whose inventory has been taken stays one through changes of its host that keep it. -/
private theorem inspected_map {s : Source} {f : RemoteHost → RemoteHost}
    (inspected : MigrationStep.getTargetSystemInfo.Provided s)
    (hf : ∀ host info, host.systemInfo = some info → ∃ info, (f host).systemInfo = some info) :
    ∃ host info, s.target.remoteHost.map f = some host ∧ host.systemInfo = some info := by
  obtain ⟨host, info, hhost, hinfo⟩ := inspected
  obtain ⟨info', hinfo'⟩ := hf host info hinfo
  exact ⟨f host, info', by rw [hhost]; rfl, hinfo'⟩

theorem inspected_of_changed (coherent : s.Coherent) (changed : s.Changed step new)
    (inspected : MigrationStep.getTargetSystemInfo.Provided s) :
    MigrationStep.getTargetSystemInfo.Provided new := by
  induction changed with
  | untouched => exact inspected
  | inventoried bare inventory =>
    obtain ⟨host, info, hhost, hinfo⟩ := inspected
    exact ⟨host, info, by rw [inventory.target_eq, hhost], hinfo⟩
  | created bare inventory metadata id =>
    -- A target that has been looked at is not created again.
    obtain ⟨host, -, hhost, -⟩ := inspected
    cases (coherent.remoteHost_eq_none bare).symm.trans hhost
  | @inspected info reported => exact inspected_map inspected fun _ _ _ => ⟨info, rfl⟩
  | paired => exact inspected
  | volumeDeleted | nicDeleted => exact inspected_map inspected fun _ info h => ⟨info, h⟩
  | readdressed deleted ih => exact inspected_map ih fun _ info h => ⟨info, h⟩

/-- **What a step has left behind stays.** -/
theorem provided_of_changed (coherent : s.Coherent) {step' : MigrationStep}
    (changed : s.Changed step' new) (provided : step.Provided s) : step.Provided new := by
  cases step with
  | createTarget =>
    obtain ⟨host, metadata, hhost, hmetadata⟩ := Work.exists_host_of_isProvisioned provided
    have recorded : s.cloudMetadata? = some metadata := by
      rw [cloudMetadata?, hhost]
      exact hmetadata
    obtain ⟨metadata', hnew, -⟩ := changed.lasting.metadata metadata recorded
    obtain ⟨host', hhost', hmetadata'⟩ := Option.bind_eq_some_iff.mp hnew
    change new.target.isProvisioned = true
    rw [Target.isProvisioned, hhost', Option.any_some, hmetadata']
    rfl
  | getTargetSystemInfo => exact coherent.inspected_of_changed changed provided
  | identifyDevices =>
    obtain ⟨mapping, hmapping⟩ := Option.isSome_iff_exists.mp provided
    exact Option.isSome_iff_exists.mpr ⟨mapping, changed.lasting.mapping mapping hmapping⟩
  | _ => trivial

end Coherent

end Source

/-- What a step has left behind is found at the target. -/
theorem MigrationStep.Provided.of_same {step : MigrationStep} {s new : Source}
    (provided : step.Provided s) (target : new.target = s.target) : step.Provided new := by
  cases step with
  | createTarget | getTargetSystemInfo | identifyDevices =>
    rw [MigrationStep.Provided, target]
    exact provided
  | _ => trivial

/-! ### What is there at a status -/

/-- The place of a status in the lifecycle. -/
def SourceStatus.place (status : SourceStatus) : Nat := all.idxOf status

theorem SourceStatus.place_of_next {status next : SourceStatus}
    (h : SourceStatus.lifecycle.next status = .ok next) : next.place = status.place + 1 := by
  cases status <;> cases h <;> rfl

theorem SourceStatus.eq_of_place {status other : SourceStatus} (h : status.place = other.place) :
    status = other := by
  have found (status : SourceStatus) : all[status.place]? = some status := by
    cases status <;> rfl
  exact Option.some.inj ((found status).symm.trans (h ▸ found other))

namespace Source

/-- What is recorded fits together, and what the steps of all earlier statuses leave behind is
there. -/
structure Ready (s : Source) : Prop where
  coherent : s.Coherent
  passed : ∀ status step, MigrationStep.ofStatus status = some step →
    status.place < s.status.place → step.Provided s

namespace Ready

variable {s : Source} {step : MigrationStep}

theorem of_same {new : Source} (ready : s.Ready) (host : new.remoteHost = s.remoteHost)
    (target : new.target = s.target) (status : new.status = s.status) : new.Ready where
  coherent := ready.coherent.of_same host target
  passed earlier step bound h :=
    (ready.passed earlier step bound (status ▸ h)).of_same target

theorem provisioned (ready : s.Ready) (passed : SourceStatus.createTarget.place < s.status.place) :
    s.Provisioned := by
  have there : MigrationStep.createTarget.Provided s := ready.passed _ _ rfl passed
  obtain ⟨host, metadata, hhost, hmetadata⟩ := Work.exists_host_of_isProvisioned there
  obtain ⟨-, found⟩ := ready.coherent.provisioned host hhost
  obtain ⟨info, hinfo⟩ := Option.isSome_iff_exists.mp found
  exact ⟨host, metadata, info, hhost, hmetadata, hinfo⟩

theorem paired (ready : s.Ready) (passed : SourceStatus.identifyDevices.place < s.status.place) :
    s.Paired := by
  have there : MigrationStep.identifyDevices.Provided s := ready.passed _ _ rfl passed
  obtain ⟨mapping, hmapping⟩ := Option.isSome_iff_exists.mp there
  obtain ⟨info, hinfo, fits⟩ := ready.coherent.paired mapping hmapping
  exact ⟨mapping, info, hmapping, hinfo, fits⟩

/-- **The step of the status has what it needs.** -/
theorem equipped (ready : s.Ready) (bound : stepTable.get? s.status = some step) :
    step.Equipped s := by
  rw [get?_stepTable] at bound
  have inspected (passed : SourceStatus.getTargetSystemInfo.place < s.status.place) :
      MigrationStep.getTargetSystemInfo.Provided s := ready.passed _ _ rfl passed
  have provisioned := ready.provisioned
  have paired := ready.paired
  generalize s.status = status at *
  -- The first three steps provide what all others need.
  cases status <;> cases bound
  case createTarget => trivial
  case getTargetSystemInfo => exact provisioned (by decide)
  case identifyDevices => exact ⟨provisioned (by decide), inspected (by decide)⟩
  all_goals exact ⟨provisioned (by decide), paired (by decide)⟩

end Ready

end Source

/-- A source that has just been created: a draft without inventory, target and mapping. -/
structure Source.Fresh (s : Source) : Prop where
  status : s.status = .draft
  systemInfo : s.systemInfo = none
  remoteHost : s.target.remoteHost = none
  deviceMapping : s.target.deviceMapping = none

theorem Source.Fresh.ready {s : Source} (fresh : s.Fresh) : s.Ready where
  coherent := {
    reported := fun _ h => by cases fresh.systemInfo.symm.trans h
    provisioned := fun _ h => by cases fresh.remoteHost.symm.trans h
    paired := fun _ h => by cases fresh.deviceMapping.symm.trans h }
  passed status _ _ h := by
    rw [fresh.status] at h
    exact absurd h (Nat.not_lt_zero _)

/-- **The statuses of a migration rest on what the steps before them leave behind.** -/
theorem ready_contract :
    Contract sourceCommander Instant Source.Ready MigrationStep.Provided where
  holds_setPaused _ _ _ ready := ready.of_same rfl rfl rfl
  achieved_setPaused _ _ _ _ provided := provided.of_same rfl
  onward time new s ready done found := by
    refine ⟨ready.coherent.of_same rfl rfl, fun status step bound h => ?_⟩
    have hplace : new.place = s.status.place + 1 := SourceStatus.place_of_next found
    change status.place < new.place at h
    have provided : step.Provided s := by
      by_cases hlast : status.place = s.status.place
      · -- The status that the source leaves: its step has just succeeded.
        cases SourceStatus.eq_of_place hlast
        exact done step ((get?_stepTable _).trans bound)
      · exact ready.passed status step bound (by omega)
    exact provided.of_same rfl
  back _ _ _ _ _ ready := ready.of_same rfl rfl rfl

/-! ### Histories of calls -/

variable {provider : Provider}

theorem Source.Ready.of_changed {s new : Source} {step : MigrationStep} (ready : s.Ready)
    (changed : s.Changed step new) : new.Ready where
  coherent := ready.coherent.of_changed changed
  passed status other bound h := by
    rw [changed.sameButHosts.status_eq] at h
    exact ready.coherent.provided_of_changed changed (ready.passed status other bound h)

/-- The steps of a migration keep to the contract, whatever their surroundings answer. -/
theorem keeps_of_expands {outer : Trace SourceStatus MigrationStep Source Instant}
    {inner : SiteTrace} (expands : Expands (migrationAnswer provider) outer inner) :
    ∀ exchange ∈ outer, Keeps Source.Ready MigrationStep.Provided exchange := by
  rintro ⟨q, answer⟩ hmem
  cases q with
  | run step source =>
    intro ready
    have ended := ended_of_expands expands hmem
    exact ⟨ready.of_changed ended.changed, ended.changed.sameButHosts.status_eq, ended.provided⟩
  | _ => trivial

/-- A source that has been driven from the first one by calls of the commander, whatever the
surroundings have answered and however each call has ended.  It is moved on at once only while it
waits at `sync`. -/
inductive Managed (provider : Provider) (first : Source) : Source → Prop
  | begun : Managed provider first first
  | driven {source after : Source} {resume : Resume}
      {outer : Trace SourceStatus MigrationStep Source Instant} {inner : SiteTrace}
      {result : Except CommanderError (Outcome SourceStatus)}
      (managed : Managed provider first source)
      (allowed : resume = .advance → source.waitsAtSync)
      (call : Runs (sourceCommander.drive resume) source outer result after)
      (expands : Expands (migrationAnswer provider) outer inner) : Managed provider first after

/-- A call finds the contract to hold if it holds of the source. -/
theorem ready_of_call {source after : Source} {resume : Resume}
    {outer : Trace SourceStatus MigrationStep Source Instant} {inner : SiteTrace}
    {result : Except CommanderError (Outcome SourceStatus)} (ready : source.Ready)
    (allowed : resume = .advance → source.waitsAtSync)
    (call : Runs (sourceCommander.drive resume) source outer result after)
    (expands : Expands (migrationAnswer provider) outer inner) :
    after.Ready ∧ ∀ exchange ∈ outer, Finds sourceCommander Source.Ready exchange := by
  refine ready_contract.of_runs_drive call ready (fun hresume step bound => ?_)
    (keeps_of_expands expands)
  -- At `sync` there is nothing to achieve.
  have hsync : source.status = .sync := by
    have waits := allowed hresume
    rw [Source.waitsAtSync, Bool.and_eq_true, decide_eq_true_eq] at waits
    exact waits.2
  change stepTable.get? source.status = some step at bound
  rw [hsync, get?_stepTable] at bound
  cases bound
  trivial

theorem Managed.ready {first source : Source} (managed : Managed provider first source)
    (fresh : first.Fresh) : source.Ready := by
  induction managed with
  | begun => exact fresh.ready
  | driven managed allowed call expands ih => exact (ready_of_call ih allowed call expands).1

/-- A step has missed nothing that the steps before it leave behind.  That holds of the error with
which it ends; and creating filesystems finds every mapped disk in the inventory, so that it
collects failures to create a filesystem and no others. -/
structure MigrationStep.MissedNothing (step : MigrationStep) (source : Source)
    (run : CommandRun Source) : Prop where
  ended : ∀ error, run.outcome = .error error → ¬error.MissesArtefact
  found : step = .createFilesystems → source.Paired
  collected : step = .createFilesystems → ∀ failure ∈ run.errors, AboutFilesystem failure

/-- **However a source that starts as a draft has been driven so far, no step of a further call
misses anything that the steps before it leave behind.** -/
theorem Managed.missedNothing {first source after : Source} {resume : Resume}
    {outer : Trace SourceStatus MigrationStep Source Instant} {inner : SiteTrace}
    {result : Except CommanderError (Outcome SourceStatus)} (fresh : first.Fresh)
    (managed : Managed provider first source) (allowed : resume = .advance → source.waitsAtSync)
    (call : Runs (sourceCommander.drive resume) source outer result after)
    (expands : Expands (migrationAnswer provider) outer inner) {step : MigrationStep} {s : Source}
    {run : CommandRun Source}
    (ran : (⟨.run step s, run⟩ : Exchange _ (Commander.Answer Instant)) ∈ outer) :
    step.MissedNothing s run := by
  obtain ⟨ready, bound⟩ := (ready_of_call (managed.ready fresh) allowed call expands).2 _ ran
  have equipped : step.Equipped s := ready.equipped bound
  obtain ⟨part, hpart, -⟩ := expands.exists_of_mem ran
  refine ⟨(ended_of_expands expands ran).blameless equipped, ?_, ?_⟩
  · rintro rfl
    exact equipped.2
  · rintro rfl
    have collected := MigrationStep.every_perform_createFilesystems provider equipped.2
    exact (collected.of_yields hpart).2

/-! ### Two calls -/

/-- What a source is when it leaves its draft. -/
def departingSource : Source := { webSource with status := .createTarget }

/-- The metadata of a target with an address. -/
def addressedMetadata : CloudMetadata := { Attempts.volumeMetadata with nics := webNics }

/-- The creation of that target. -/
def addressedCreation : SiteTrace :=
  [⟨.datacenter (.createServer (Provider.serverRequest {} Attempts.volumeSpec)),
      .ok ⟨"web", "request"⟩⟩,
    ⟨.elapsed, ⟨0⟩⟩, ⟨.datacenter (.requestStatus "request"), .ok ⟨"DONE", none⟩⟩,
    ⟨.datacenter (.listVolumes "web"), .ok Attempts.volumeMetadata.volumes⟩,
    ⟨.datacenter (.listNics "web"), .ok webNics⟩]

/-- The source when its target has been created. -/
def provisionedSource : Source :=
  (departingSource.withInventory Attempts.volumeInventory).withTarget addressedMetadata default

/-- The source when its target is looked at. -/
def arrivingSource : Source := { provisionedSource with status := .getTargetSystemInfo }

/-- The inventory is taken and the target is created. -/
theorem yields_provisioned : (MigrationStep.createTarget.perform {} departingSource).Yields
    (Attempts.volumeReports (.ok "[]") ++ (addressedCreation ++ [⟨.freshId, default⟩]))
    ⟨provisionedSource, [], .ok none⟩ := by
  have hinventory := Work.runs_ensureSourceInventory_of_collectedIn (s := departingSource) rfl
    Attempts.collectedIn_volumeReports
  have hcreated : Program.Yields (Provider.createTarget {} Attempts.volumeSpec).run
      addressedCreation (.ok addressedMetadata) :=
    .ask _ (.ask _ (.ask _ (.ask _ (.ask _ (.done _)))))
  have hrecorded : Runs (Work.recordTarget addressedMetadata)
      ⟨departingSource.withInventory Attempts.volumeInventory, []⟩ [⟨.freshId, default⟩]
      (.ok none) ⟨provisionedSource, []⟩ :=
    Yields.ask _ (.done _)
  exact MigrationStep.yields_perform (Work.runs_createTarget_of_returned rfl hinventory
    Attempts.specFor_volumeInventory hcreated hrecorded)

/-- A call in which the host of the source cannot be reached. -/
theorem managed_departingSource : Managed {} webSource departingSource := by
  let unreachable : RemoteError := .connection "web" 3 "no route"
  let run : CommandRun Source := ⟨departingSource, [], .error (.remote unreachable)⟩
  let outer : Trace SourceStatus MigrationStep Source Instant :=
    [⟨.clock, default⟩, ⟨.clock, default⟩,
      ⟨.transition .draft .createTarget departingSource, .ok ()⟩,
      ⟨.hooks .before .createTarget departingSource, .ok ()⟩,
      ⟨.run .createTarget departingSource, run⟩, ⟨.checkpoint departingSource, .ok ()⟩]
  have call : Runs (sourceCommander.drive .execute) webSource outer
      (.error (.commandFailed "create_target" (.remote unreachable))) departingSource :=
    .ask _ (.ask _ (.ask _ (.ask _ (.ask _ (.ask _ (.done _))))))
  have performed : (MigrationStep.createTarget.perform {} departingSource).Yields
      [⟨.remote departingSource.remoteHost
        departingSource.target.blueprint.commands.listBlockDevices {}, .error unreachable⟩] run :=
    .ask _ (.done _)
  have expands : Expands (migrationAnswer {}) outer _ :=
    .cons (yields_clock _) (.cons (yields_clock _) (.cons (yields_savedBy_accepted _ _)
      (.cons (.done _) (.cons performed (.cons (yields_savedBy_accepted _ _) .nil)))))
  exact .driven .begun (fun h => by cases h) call expands

/-- After a call that has failed at the creation of the target, a second one creates it and cannot
reach it then. -/
theorem webSource_missedNothing :
    webSource.Fresh ∧ Managed {} webSource departingSource
      ∧ ∃ (outer : Trace SourceStatus MigrationStep Source Instant)
        (inner : SiteTrace) (result : Except CommanderError (Outcome SourceStatus))
        (run : CommandRun Source),
        Runs (sourceCommander.drive .execute) departingSource outer result arrivingSource
          ∧ Expands (migrationAnswer {}) outer inner
          ∧ (⟨.run .getTargetSystemInfo arrivingSource, run⟩ :
              Exchange _ (Commander.Answer Instant)) ∈ outer
          ∧ (∃ error, run.outcome = .error error)
          ∧ MigrationStep.getTargetSystemInfo.MissedNothing arrivingSource run := by
  have fresh : webSource.Fresh := ⟨rfl, rfl, rfl, rfl⟩
  let unreachable : RemoteError := .connection "10.0.0.5" 3 "no route"
  let run : CommandRun Source := ⟨arrivingSource, [], .error (.remote unreachable)⟩
  let created : CommandRun Source := ⟨provisionedSource, [], .ok none⟩
  let outer : Trace SourceStatus MigrationStep Source Instant :=
    [⟨.hooks .before .createTarget departingSource, .ok ()⟩,
      ⟨.run .createTarget departingSource, created⟩, ⟨.checkpoint provisionedSource, .ok ()⟩,
      ⟨.hooks .after .createTarget provisionedSource, .ok ()⟩,
      ⟨.clock, default⟩, ⟨.clock, default⟩,
      ⟨.transition .createTarget .getTargetSystemInfo arrivingSource, .ok ()⟩,
      ⟨.hooks .before .getTargetSystemInfo arrivingSource, .ok ()⟩,
      ⟨.run .getTargetSystemInfo arrivingSource, run⟩, ⟨.checkpoint arrivingSource, .ok ()⟩]
  have call : Runs (sourceCommander.drive .execute) departingSource outer
      (.error (.commandFailed "get_target_system_info" (.remote unreachable))) arrivingSource :=
    .ask _ (.ask _ (.ask _ (.ask _ (.ask _ (.ask _ (.ask _ (.ask _ (.ask _ (.ask _
      (.done _))))))))))
  have performed : (MigrationStep.getTargetSystemInfo.perform {} arrivingSource).Yields
      [⟨.remote (createdHost departingSource addressedMetadata default)
        arrivingSource.target.blueprint.commands.listBlockDevices {}, .error unreachable⟩] run :=
    .ask _ (.done _)
  have expands : Expands (migrationAnswer {}) outer _ :=
    .cons (.done _) (.cons yields_provisioned (.cons (yields_savedBy_accepted _ _)
      (.cons (.done _) (.cons (yields_clock _) (.cons (yields_clock _)
        (.cons (yields_savedBy_accepted _ _) (.cons (.done _) (.cons performed
          (.cons (yields_savedBy_accepted _ _) .nil)))))))))
  have ran : (⟨.run .getTargetSystemInfo arrivingSource, run⟩ :
      Exchange (Ask SourceStatus MigrationStep Source) (Commander.Answer Instant)) ∈ outer := by
    simp [outer]
  exact ⟨fresh, managed_departingSource, _, _, _, run, call, expands, ran, ⟨_, rfl⟩,
    Managed.missedNothing fresh managed_departingSource (fun h => by cases h) call expands ran⟩

end ServerMigration
