import ServerMigration.Proofs.Migration.Confinement

/-!
# What each step does to the document

Five steps of a migration change the document of their source, each in a way of its own; the other
steps leave it alone.  For every step, the list of the documents that it can leave behind, what is
there once it has succeeded, and what it needs.  Whatever is proved about the document in the
course of a migration rests on these lists and not on the text of the steps.

## Main definitions

* `Source.Changed` : the documents that a step can leave behind.
* `MigrationStep.Equipped`, `MigrationStep.Provided` : what a step needs, and what it leaves behind.
* `MigrationStep.Ended` : what is known when a step has ended.

## Main results

* `MigrationStep.work_ends` : every step ends that way.
* `MigrationStep.every_perform` : the same of its runs.
-/

namespace ServerMigration

open Program

/-! ### Changes of a document -/

namespace Source

/-- The source with its inventory. -/
def withInventory (source : Source) (info : SystemInfo) : Source :=
  { source with remoteHost := { source.remoteHost with systemInfo := some info } }

/-- The source with a target that has just been created. -/
def withTarget (source : Source) (metadata : CloudMetadata) (id : Uuid) : Source :=
  { source with target := { source.target with
      remoteHost := some (createdHost source metadata id) } }

/-- The source with the inventory of its target. -/
def withTargetInventory (source : Source) (info : SystemInfo) : Source :=
  { source with target := { source.target with
      remoteHost := source.target.remoteHost.map fun host =>
        { host with systemInfo := some info } } }

/-- The source with a device mapping. -/
def withMapping (source : Source) (mapping : DeviceMapping) : Source :=
  { source with target := { source.target with deviceMapping := some mapping } }

/-- What the provider created for the source. -/
def cloudMetadata? (source : Source) : Option CloudMetadata :=
  source.target.remoteHost.bind (·.cloudMetadata)

/-- The inventory of the source is there, or has just been taken. -/
inductive Inventoried (old : Source) : Source → Prop
  | known (found : old.systemInfo.isSome) : Inventoried old old
  | taken {info : SystemInfo} (unknown : old.systemInfo = none) (reported : info.Reported) :
      Inventoried old (old.withInventory info)

/-- The documents that a step can leave behind, whether it succeeds or fails. -/
inductive Changed (old : Source) : MigrationStep → Source → Prop
  /-- Any step may leave the document alone. -/
  | untouched (step : MigrationStep) : Changed old step old
  /-- The inventory of the source is taken, and the target is not created. -/
  | inventoried {new : Source} (bare : old.target.isProvisioned = false)
      (inventory : old.Inventoried new) : Changed old .createTarget new
  /-- The target is created. -/
  | created {middle : Source} (bare : old.target.isProvisioned = false)
      (inventory : old.Inventoried middle) (metadata : CloudMetadata) (id : Uuid) :
      Changed old .createTarget (middle.withTarget metadata id)
  /-- The inventory of the target is taken. -/
  | inspected {info : SystemInfo} (reported : info.Reported) :
      Changed old .getTargetSystemInfo (old.withTargetInventory info)
  /-- The disks of both sides are paired. -/
  | paired {inventory info : SystemInfo} {mapping : DeviceMapping}
      (unmapped : old.target.deviceMapping = none) (known : old.systemInfo = some inventory)
      (fits : DeviceMapping.ofDevices inventory.blockDevices info.blockDevices = .ok mapping) :
      Changed old .identifyDevices (old.withMapping mapping)
  /-- The bootstrap volume is deleted. -/
  | volumeDeleted {metadata : CloudMetadata} (recorded : old.cloudMetadata? = some metadata) :
      Changed old .deleteBootstrapVolume (old.withCloudMetadata { metadata with
        volumes := metadata.volumes.filter (·.id ≠ metadata.bootstrapVolumeId) })
  /-- The bootstrap interface is deleted. -/
  | nicDeleted {metadata : CloudMetadata} (recorded : old.cloudMetadata? = some metadata) :
      Changed old .deleteBootstrapNetworkInterface (old.withCloudMetadata { metadata with
        nics := metadata.nics.filter (·.id ≠ metadata.bootstrapNicId) })
  /-- The target is reached over another interface, whose predecessor is gone. -/
  | readdressed {middle : Source} {address : String}
      (deleted : Changed old .deleteBootstrapNetworkInterface middle) :
      Changed old .deleteBootstrapNetworkInterface (middle.withTargetAddress address)

/-- The second document differs from the first in nothing but what is known of the hosts. -/
def SameButHosts (old new : Source) : Prop :=
  new = { old with remoteHost := new.remoteHost, target := new.target }

theorem Inventoried.sameButHosts {old new : Source} (inventory : old.Inventoried new) :
    old.SameButHosts new := by
  cases inventory <;> rfl

theorem Inventoried.target_eq {old new : Source} (inventory : old.Inventoried new) :
    new.target = old.target := by
  cases inventory <;> rfl

theorem SameButHosts.trans {a b c : Source} (hab : a.SameButHosts b) (hbc : b.SameButHosts c) :
    a.SameButHosts c := by
  rw [SameButHosts] at hab hbc ⊢
  rw [hbc, hab]

theorem SameButHosts.status_eq {old new : Source} (h : old.SameButHosts new) :
    new.status = old.status := by
  rw [h]

theorem Changed.sameButHosts {old new : Source} {step : MigrationStep}
    (changed : old.Changed step new) : old.SameButHosts new := by
  induction changed with
  | untouched => rfl
  | inventoried bare inventory => exact inventory.sameButHosts
  | created bare inventory => exact inventory.sameButHosts.trans rfl
  | inspected | paired | volumeDeleted | nicDeleted => rfl
  | readdressed deleted ih => exact ih.trans rfl

end Source

/-! ### What steps need and leave behind -/

namespace MigrationStep

/-- What a step needs from the steps before it. -/
def Equipped : MigrationStep → Source → Prop
  | createTarget, _ => True
  | getTargetSystemInfo, s => s.Provisioned
  | identifyDevices, s => s.Provisioned ∧
      ∃ host info, s.target.remoteHost = some host ∧ host.systemInfo = some info
  | _, s => s.Provisioned ∧ s.Paired

/-- What a step that succeeds leaves behind for the steps behind it. -/
def Provided : MigrationStep → Source → Prop
  | createTarget, s => s.target.isProvisioned
  | getTargetSystemInfo, s =>
      ∃ host info, s.target.remoteHost = some host ∧ host.systemInfo = some info
  | identifyDevices, s => s.target.deviceMapping.isSome
  | _, _ => True

/-- What is known when a step has ended: what has become of the document, what is there if it has
succeeded, and that an error misses nothing if the step had what it needs. -/
structure Ended (step : MigrationStep) (before : Source)
    (outcome : Except CommandError (Option Signal)) (after : Source) : Prop where
  /-- The document is one that the step can leave behind. -/
  changed : before.Changed step after
  /-- Only `sync` asks to sleep. -/
  signal : ∀ signal, outcome = .ok signal → signal = if step = .sync then some .sleep else none
  /-- A step that succeeds leaves behind what the steps behind it need. -/
  provided : ∀ signal, outcome = .ok signal → step.Provided after
  /-- A step that has what it needs misses nothing. -/
  blameless : step.Equipped before → ∀ error, outcome = .error error → ¬error.MissesArtefact

namespace Ended

variable {step : MigrationStep} {before after : Source}

/-- A step has succeeded. -/
theorem of_ok {signal : Option Signal} (changed : before.Changed step after)
    (asked : signal = if step = .sync then some .sleep else none) (provided : step.Provided after) :
    step.Ended before (.ok signal) after := by
  refine ⟨changed, fun other h => ?_, fun _ _ => provided, fun _ _ h => ?_⟩
  · cases h
    exact asked
  · cases h

/-- A step has failed. -/
theorem of_error {error : CommandError} (changed : before.Changed step after)
    (blameless : step.Equipped before → ¬error.MissesArtefact) :
    step.Ended before (.error error) after := by
  refine ⟨changed, fun _ h => ?_, fun _ h => ?_, fun equipped _ h => ?_⟩
  · cases h
  · cases h
  · cases h
    exact blameless equipped

end Ended

end MigrationStep

namespace Work

variable {α : Type} {step : MigrationStep} {before document : Source}

/-- Work on this document completes a step that has begun with the other one. -/
def Completes (work : Work (Option Signal)) (step : MigrationStep) (before document : Source) :
    Prop :=
  ∀ errors, work.Ends ⟨document, errors⟩ fun outcome after =>
    step.Ended before outcome after.source

theorem Leaves.completes {work : Work (Option Signal)} {needs : Prop} {signal : Option Signal}
    (h : work.Leaves before needs (· = signal)) (equipped : step.Equipped before → needs)
    (hsignal : signal = if step = .sync then some .sleep else none)
    (provided : step.Provided before) : work.Completes step before before := by
  intro errors
  refine (h errors).mono ?_
  rintro ⟨outcome, after⟩ ⟨rfl, houtcome⟩
  cases outcome with
  | ok other =>
    have hother : other = signal := houtcome
    exact .of_ok (.untouched step) (hother.trans hsignal) provided
  | error error => exact .of_error (.untouched step) fun ready => houtcome (equipped ready)

/-- Work that leaves the document alone, before the rest of a step. -/
theorem Completes.after {work : Work α} {next : α → Work (Option Signal)} {Q : α → Prop}
    (changed : before.Changed step document)
    (hwork : work.Leaves document (step.Equipped before) Q)
    (hnext : ∀ a, Q a → (next a).Completes step before document) :
    (work >>= next).Completes step before document := by
  intro errors
  refine (hwork errors).bind ?_ ?_
  · rintro a ⟨_, errors'⟩ ⟨rfl, ha⟩
    exact hnext a ha errors'
  · rintro error ⟨_, errors'⟩ ⟨rfl, herror⟩
    exact .of_error changed herror

theorem Completes.tame {work : Work α} {next : α → Work (Option Signal)}
    (changed : before.Changed step document) (hwork : work.Tame)
    (hnext : ∀ a, (next a).Completes step before document) :
    (work >>= next).Completes step before document :=
  .after changed hwork.leaves fun a _ => hnext a

theorem completes_precondition {command reason : String} (changed : before.Changed step document)
    (h : step.Equipped before → reason ∉ artefactComplaints) :
    (precondition command reason : Work (Option Signal)).Completes step before document :=
  fun _ => .of_error changed h

theorem Completes.source {next : Source → Work (Option Signal)}
    (h : (next document).Completes step before document) :
    (source >>= next).Completes step before document :=
  h

/-- A look at something that is there if the step has what it needs. -/
theorem Completes.look {result : Except CommandError α} {next : α → Work (Option Signal)}
    (changed : before.Changed step document) (found : step.Equipped before → ∃ a, result = .ok a)
    (hnext : ∀ a, result = .ok a → (next a).Completes step before document) :
    (ofExcept result >>= next).Completes step before document :=
  .after changed (leaves_look found) hnext

theorem Completes.modify {f : Source → Source} {next : Unit → Work (Option Signal)}
    (h : (next ()).Completes step before (f document)) :
    (modifySource f >>= next).Completes step before document :=
  h

theorem completes_pure_none (changed : before.Changed step document) (awake : step ≠ .sync)
    (provided : step.Provided document) :
    (pure none : Work (Option Signal)).Completes step before document :=
  fun _ => .of_ok changed (if_neg awake).symm provided

/-! ### Steps that change the document -/

theorem targetHost_eq_ok_iff {s : Source} {command : String} {host : RemoteHost} :
    targetHost s command = .ok host ↔ s.target.remoteHost = some host := by
  rw [targetHost]
  cases s.target.remoteHost <;> simp

theorem sourceInventory_eq_ok_iff {s : Source} {command : String} {info : SystemInfo} :
    sourceInventory s command = .ok info ↔ s.systemInfo = some info := by
  rw [sourceInventory]
  cases s.systemInfo <;> simp

theorem recordedMetadata_eq_ok_iff {s : Source} {command : String} {metadata : CloudMetadata} :
    recordedMetadata s command = .ok metadata ↔ s.cloudMetadata? = some metadata := by
  rw [recordedMetadata, ← Source.cloudMetadata?]
  cases s.cloudMetadata? <;> simp

theorem exists_host_of_isProvisioned {target : Target} (h : target.isProvisioned = true) :
    ∃ host metadata, target.remoteHost = some host ∧ host.cloudMetadata = some metadata := by
  rw [Target.isProvisioned] at h
  cases hhost : target.remoteHost with
  | none =>
    rw [hhost] at h
    cases h
  | some host =>
    rw [hhost] at h
    obtain ⟨metadata, hmetadata⟩ := Option.isSome_iff_exists.mp h
    exact ⟨host, metadata, rfl, hmetadata⟩

theorem tame_specFor (s : Source) (inventory : SystemInfo) :
    (ofExcept (specFor s inventory)).Tame := by
  refine tame_ofExcept fun error h => ?_
  unfold specFor at h
  dsimp only at h
  split at h
  · cases h
    change _ ∉ artefactComplaints
    rw [String.append_assoc]
    exact notMem_artefactComplaints (c := 'b') (by decide) (by decide)
  · split at h
    · cases h
      change _ ∉ artefactComplaints
      decide
    · cases h

/-- The inventory of the source is there in the end, unless it could not be taken. -/
theorem ends_ensureSourceInventory (errors : StepErrors) :
    ensureSourceInventory.Ends ⟨document, errors⟩ fun result after =>
      match result with
      | .ok _ => document.Inventoried after.source
      | .error error => after.source = document ∧ ¬error.MissesArtefact := by
  rw [ensureSourceInventory, ends_source_bind]
  dsimp only
  split
  · next info hinfo => exact .known (by rw [hinfo]; rfl)
  · next unknown =>
    refine (gives_takeInventory _ _ document errors).bind ?_ fun error after h => ?_
    · rintro info ⟨_, errors'⟩ ⟨rfl, reported⟩
      refine (tame_failOnErrors _ _ errors').bind ?_ fun error after h => ⟨h.1, h.2 trivial⟩
      rintro _ ⟨_, errors''⟩ ⟨rfl, -⟩
      exact Source.Inventoried.taken unknown reported
    · exact ⟨h.1, h.2 trivial⟩

theorem createTarget_completes (provider : Provider) (s : Source) :
    (createTarget provider).Completes .createTarget s s := by
  refine .source ?_
  split
  · next there =>
    -- The target is there, and is only looked at.
    obtain ⟨host, metadata, hhost, -⟩ := exists_host_of_isProvisioned there
    refine .source (.look (.untouched _) (fun _ => ⟨host, targetHost_eq_ok_iff.mpr hhost⟩) ?_)
    intro host _
    have hend := completes_pure_none (.untouched .createTarget) (by decide) there
    dsimp only
    split
    · exact .tame (.untouched _) (gives_precondition (by decide)) fun _ => hend
    · exact hend
  · next bare =>
    have bare : s.target.isProvisioned = false := by simpa using bare
    intro errors
    refine (ends_ensureSourceInventory errors).bind ?_ ?_
    · -- Until the target is created nothing but the inventory has been recorded.
      rintro info ⟨middle, errors⟩ inventory
      have changed : s.Changed .createTarget middle := .inventoried bare inventory
      refine Completes.source (.tame changed (tame_specFor _ _) fun spec => ?_) errors
      refine .tame changed (tame_cloud (Provider.sparesStore_createTarget _ _)) fun metadata => ?_
      dsimp only
      have hrest : (action Action.freshId >>= fun id => modifySource (fun s =>
          { s with target := { s.target with remoteHost := some (createdHost s metadata id) } })
          >>= fun _ => pure none : Work (Option Signal)).Completes .createTarget s middle := by
        have hid : Action.freshId.SparesStore := every_request trivial
        refine .tame changed (tame_action hid) fun id => .modify ?_
        exact completes_pure_none (.created bare inventory metadata id) (by decide) rfl
      split
      · exact .tame changed (tame_record _ _) fun _ => hrest
      · exact hrest
    · rintro error ⟨_, errors⟩ ⟨rfl, blameless⟩
      exact .of_error (.untouched _) fun _ => blameless

theorem inspectTarget_completes (s : Source) :
    inspectTarget.Completes .getTargetSystemInfo s s := by
  refine .source (.look (.untouched _) (fun ready => exists_targetHost ready _) ?_)
  intro host hhost
  refine .after (.untouched _) (gives_takeInventory _ _).leaves fun info reported => .modify ?_
  refine completes_pure_none (.inspected reported) (by decide) ?_
  refine ⟨{ host with systemInfo := some info }, info, ?_, rfl⟩
  change s.target.remoteHost.map _ = _
  rw [targetHost_eq_ok_iff.mp hhost]
  rfl

theorem gives_ofDevices (devices target : Devices) :
    (ofMapping (DeviceMapping.ofDevices devices target)).Gives
      (DeviceMapping.ofDevices devices target = .ok ·) := by
  refine gives_ofMapping fun error h => ?_
  unfold DeviceMapping.ofDevices at h
  dsimp only at h
  split at h
  · cases h
  · cases h
    exact id

theorem gives_recordMapping {target : Target} (unmapped : target.deviceMapping = none)
    (mapping : DeviceMapping) :
    (ofMapping (target.recordMapping mapping)).Gives
      (· = { target with deviceMapping := some mapping }) := by
  intro document errors
  rw [Target.recordMapping, unmapped]
  exact ⟨rfl, rfl⟩

theorem pairDisks_completes (s : Source) : pairDisks.Completes .identifyDevices s s := by
  refine .source ?_
  split
  · next mapped => exact completes_pure_none (.untouched _) (by decide) mapped
  · next unmapped =>
    have unmapped : s.target.deviceMapping = none := by simpa using unmapped
    refine .look (.untouched _) (fun ready => exists_sourceInventory ready.1 _) ?_
    intro inventory known
    refine .look (.untouched _) (fun ready => exists_targetHost ready.1 _) fun host hhost => ?_
    split
    · next missing =>
      refine completes_precondition (.untouched _) fun ready => ?_
      obtain ⟨-, host', info, hhost', hinfo⟩ := ready
      cases (targetHost_eq_ok_iff.mp hhost).symm.trans hhost'
      cases missing.symm.trans hinfo
    · next info hinfo =>
      refine .after (.untouched _) (gives_ofDevices _ _).leaves fun mapping hmapping => ?_
      refine .after (.untouched _) (gives_recordMapping unmapped mapping).leaves ?_
      rintro target rfl
      refine .modify (completes_pure_none ?_ (by decide) rfl)
      exact .paired unmapped (sourceInventory_eq_ok_iff.mp known) hmapping

theorem deleteBootstrapVolume_completes (s : Source) :
    deleteBootstrapVolume.Completes .deleteBootstrapVolume s s := by
  refine .source (.look (.untouched _) (fun ready => exists_recordedMetadata ready.1 _) ?_)
  intro metadata hmetadata
  dsimp only
  split
  · refine .tame (.untouched _) (tame_cloud (Provider.sparesStore_call _)) fun _ => ?_
    refine .modify (completes_pure_none (.volumeDeleted ?_) (by decide) trivial)
    exact recordedMetadata_eq_ok_iff.mp hmetadata
  · exact completes_pure_none (.untouched _) (by decide) trivial

theorem deleteBootstrapNic_completes (s : Source) :
    deleteBootstrapNic.Completes .deleteBootstrapNetworkInterface s s := by
  refine .source (.look (.untouched _) (fun ready => exists_recordedMetadata ready.1 _) ?_)
  intro metadata hmetadata
  -- Once the interface is gone, or was gone before, the target is reached over another one.
  have moved {document : Source} (changed : s.Changed .deleteBootstrapNetworkInterface document)
      (address : String) : (do
        modifySource fun s => s.withTargetAddress address
        return none : Work (Option Signal)).Completes .deleteBootstrapNetworkInterface s
          document :=
    .modify (completes_pure_none (.readdressed changed) (by decide) trivial)
  have stranded {document : Source} (changed : s.Changed .deleteBootstrapNetworkInterface document)
      (step reason : String) : (do
        record step reason
        return none : Work (Option Signal)).Completes .deleteBootstrapNetworkInterface s
          document :=
    .tame changed (tame_record _ _) fun _ => completes_pure_none changed (by decide) trivial
  have gone := Source.Changed.nicDeleted (recordedMetadata_eq_ok_iff.mp hmetadata)
  dsimp only
  split
  · refine .tame (.untouched _) (tame_cloud (Provider.sparesStore_call _)) fun _ => .modify ?_
    split
    · exact moved gone _
    · exact stranded gone _ _
  · split
    · exact moved (.untouched _) _
    · exact stranded (.untouched _) _ _

end Work

/-! ### All steps -/

namespace MigrationStep

/-- **Every step ends as `Ended` says.** -/
theorem work_ends (provider : Provider) (step : MigrationStep) (source : Source) :
    (step.work provider).Completes step source source := by
  cases step with
  | createTarget => exact Work.createTarget_completes provider source
  | getTargetSystemInfo => exact Work.inspectTarget_completes source
  | identifyDevices => exact Work.pairDisks_completes source
  | createPartitions => exact (Work.copyPartitionTables_leaves source).completes id rfl trivial
  | createFilesystems => exact (Work.makeFilesystems_leaves source).completes id rfl trivial
  | mountFilesystems => exact (Work.mountAll_leaves source).completes id rfl trivial
  | sync => exact (Work.copyAndSleep_leaves source).completes id rfl trivial
  | finalSync => exact (Work.copyOnceMore_leaves source).completes id rfl trivial
  | adjustMountConfig => exact (Work.rewriteMounts_leaves source).completes id rfl trivial
  | adjustNetworkConfig => exact (Work.rewriteAddresses_leaves source).completes id rfl trivial
  | reinstallBootloader => exact (Work.installBootloader_leaves source).completes id rfl trivial
  | stopTarget => exact (Work.stopTarget_leaves source provider).completes id rfl trivial
  | deleteBootstrapVolume => exact Work.deleteBootstrapVolume_completes source
  | deleteBootstrapNetworkInterface => exact Work.deleteBootstrapNic_completes source
  | configureBootDevice =>
    exact (Work.configureBootDevice_leaves source provider).completes id rfl trivial
  | startTarget => exact (Work.startTarget_leaves source provider).completes id rfl trivial

/-- **The run of a step spares the store and ends as `Ended` says.** -/
theorem every_perform (provider : Provider) (step : MigrationStep) (source : Source) :
    (step.perform provider source).Every Site.Ask.SparesStore fun run =>
      step.Ended source run.outcome run.entity :=
  Every.bind (step.work_ends provider source []) fun _ h => h

end MigrationStep

end ServerMigration
