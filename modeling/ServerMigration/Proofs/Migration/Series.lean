import ServerMigration.Proofs.Migration.Changes

/-!
# Series of steps

However many steps of a migration are done on a source, in whatever order, and whatever becomes of
each: what the commander and the later steps rest on stays as it is.

## Main definitions

* `MigrationStep.Series` : steps that are done one after the other.
* `Source.Lasting`, `CloudMetadata.Lasting` : what stays of a source, and of what the provider
  created for it, through some steps.

## Main results

* `MigrationStep.Series.lasting_throughout` : that stays through every series of steps.
-/

namespace ServerMigration

open Program

/-- A series of steps leads from one source to another, with any answers of the surroundings. -/
inductive MigrationStep.Series (provider : Provider) :
    Source → List MigrationStep → Source → Prop
  | nil (source : Source) : Series provider source [] source
  | cons {step : MigrationStep} {steps : List MigrationStep} {source after : Source}
      {trace : List (Exchange Site.Ask Site.Answer)} {run : CommandRun Source}
      (performed : (step.perform provider source).Yields trace run)
      (rest : Series provider run.entity steps after) : Series provider source (step :: steps) after

/-! ### What stays -/

/-- What stays of the metadata through some steps.  Of the volumes and of the interfaces nothing but
the one for bootstrapping goes, and that only with the step that deletes it. -/
structure CloudMetadata.Lasting (steps : List MigrationStep) (old new : CloudMetadata) : Prop where
  serverId : new.serverId = old.serverId
  bootstrapVolumeId : new.bootstrapVolumeId = old.bootstrapVolumeId
  bootstrapNicId : new.bootstrapNicId = old.bootstrapNicId
  volumes : new.volumes = old.volumes ∨ .deleteBootstrapVolume ∈ steps
    ∧ new.volumes = old.volumes.filter (·.id ≠ old.bootstrapVolumeId)
  nics : new.nics = old.nics ∨ .deleteBootstrapNetworkInterface ∈ steps
    ∧ new.nics = old.nics.filter (·.id ≠ old.bootstrapNicId)

/-- What stays of a source through some steps. -/
structure Source.Lasting (steps : List MigrationStep) (old new : Source) : Prop where
  /-- Nothing changes but the source's host and its target: not the status, the pause flag, the
  identifiers, the name or the latest error. -/
  sameButHosts : old.SameButHosts new
  /-- The blueprint stays. -/
  blueprint : new.target.blueprint = old.target.blueprint
  /-- Nothing about the source's host changes but its inventory. -/
  host : new.remoteHost = { old.remoteHost with systemInfo := new.systemInfo }
  /-- An inventory of the source stays. -/
  inventory : ∀ info, old.systemInfo = some info → new.systemInfo = some info
  /-- A recorded device mapping stays. -/
  mapping : ∀ mapping, old.target.deviceMapping = some mapping →
    new.target.deviceMapping = some mapping
  /-- Recorded metadata stays but for what is deleted from it. -/
  metadata : ∀ metadata, old.cloudMetadata? = some metadata →
    ∃ metadata', new.cloudMetadata? = some metadata' ∧ metadata.Lasting steps metadata'

namespace CloudMetadata.Lasting

variable {steps earlier later : List MigrationStep} {old middle new : CloudMetadata}

theorem refl (steps : List MigrationStep) (metadata : CloudMetadata) :
    metadata.Lasting steps metadata :=
  ⟨rfl, rfl, rfl, .inl rfl, .inl rfl⟩

/-- A list that is filtered twice, or not at all. -/
private theorem filtered_trans {α : Type} {xs ys zs : List α} {p : α → Bool} {P Q R : Prop}
    (hxy : ys = xs ∨ P ∧ ys = xs.filter p) (hyz : zs = ys ∨ Q ∧ zs = ys.filter p) (hP : P → R)
    (hQ : Q → R) : zs = xs ∨ R ∧ zs = xs.filter p := by
  rcases hxy with rfl | ⟨hp, rfl⟩
  · exact hyz.imp_right fun h => ⟨hQ h.1, h.2⟩
  · rcases hyz with rfl | ⟨-, rfl⟩
    · exact .inr ⟨hP hp, rfl⟩
    · -- What is filtered once more is as it was.
      exact .inr ⟨hP hp, by rw [List.filter_filter, funext fun a => Bool.and_self (p a)]⟩

theorem trans (hfirst : old.Lasting earlier middle) (hsecond : middle.Lasting later new) :
    old.Lasting (earlier ++ later) new where
  serverId := hsecond.serverId.trans hfirst.serverId
  bootstrapVolumeId := hsecond.bootstrapVolumeId.trans hfirst.bootstrapVolumeId
  bootstrapNicId := hsecond.bootstrapNicId.trans hfirst.bootstrapNicId
  volumes := filtered_trans hfirst.volumes (hfirst.bootstrapVolumeId ▸ hsecond.volumes)
    (List.mem_append_left _) (List.mem_append_right _)
  nics := filtered_trans hfirst.nics (hfirst.bootstrapNicId ▸ hsecond.nics)
    (List.mem_append_left _) (List.mem_append_right _)

end CloudMetadata.Lasting

namespace Source

variable {steps earlier later : List MigrationStep} {step : MigrationStep} {old middle new : Source}

theorem Lasting.refl (steps : List MigrationStep) (source : Source) :
    source.Lasting steps source where
  sameButHosts := rfl
  blueprint := rfl
  host := rfl
  inventory _ h := h
  mapping _ h := h
  metadata metadata h := ⟨metadata, h, .refl steps metadata⟩

theorem Lasting.trans (hfirst : old.Lasting earlier middle) (hsecond : middle.Lasting later new) :
    old.Lasting (earlier ++ later) new where
  sameButHosts := hfirst.sameButHosts.trans hsecond.sameButHosts
  blueprint := hsecond.blueprint.trans hfirst.blueprint
  host := by rw [hsecond.host, hfirst.host]
  inventory info h := hsecond.inventory info (hfirst.inventory info h)
  mapping mapping h := hsecond.mapping mapping (hfirst.mapping mapping h)
  metadata metadata h := by
    obtain ⟨metadata', hmiddle, hkept⟩ := hfirst.metadata metadata h
    obtain ⟨metadata'', hnew, hkept'⟩ := hsecond.metadata metadata' hmiddle
    exact ⟨metadata'', hnew, hkept.trans hkept'⟩

/-! ### One step -/

theorem lasting_withInventory {info : SystemInfo} (unknown : old.systemInfo = none) :
    old.Lasting steps (old.withInventory info) where
  sameButHosts := rfl
  blueprint := rfl
  host := rfl
  inventory _ h := by cases unknown.symm.trans h
  mapping _ h := h
  metadata metadata h := ⟨metadata, h, .refl steps metadata⟩

theorem Inventoried.lasting (inventory : old.Inventoried new) : old.Lasting steps new := by
  cases inventory with
  | known => exact .refl steps old
  | taken unknown => exact lasting_withInventory unknown

/-- A target that is created is the first one with metadata. -/
theorem lasting_withTarget {metadata : CloudMetadata} {id : Uuid}
    (bare : old.target.isProvisioned = false) : old.Lasting steps (old.withTarget metadata id) where
  sameButHosts := rfl
  blueprint := rfl
  host := rfl
  inventory _ h := h
  mapping _ h := h
  metadata metadata h := by
    rw [cloudMetadata?] at h
    obtain ⟨host, hhost, hmetadata⟩ := Option.bind_eq_some_iff.mp h
    rw [Target.isProvisioned, hhost, Option.any_some, hmetadata] at bare
    cases bare

theorem lasting_withMapping {mapping : DeviceMapping}
    (unmapped : old.target.deviceMapping = none) : old.Lasting steps (old.withMapping mapping) where
  sameButHosts := rfl
  blueprint := rfl
  host := rfl
  inventory _ h := h
  mapping _ h := by cases unmapped.symm.trans h
  metadata metadata h := ⟨metadata, h, .refl steps metadata⟩

/-- A change of the target's host leaves a source as lasting as the metadata. -/
theorem lasting_mapHost {f : RemoteHost → RemoteHost}
    (kept : ∀ host metadata, old.target.remoteHost = some host →
      host.cloudMetadata = some metadata →
      ∃ metadata', (f host).cloudMetadata = some metadata' ∧ metadata.Lasting steps metadata') :
    old.Lasting steps
      { old with target := { old.target with remoteHost := old.target.remoteHost.map f } } where
  sameButHosts := rfl
  blueprint := rfl
  host := rfl
  inventory _ h := h
  mapping _ h := h
  metadata metadata h := by
    obtain ⟨host, hhost, hmetadata⟩ := Option.bind_eq_some_iff.mp h
    obtain ⟨metadata', hmetadata', hlasting⟩ := kept host metadata hhost hmetadata
    refine ⟨metadata', ?_, hlasting⟩
    change (old.target.remoteHost.map f).bind _ = _
    rw [hhost]
    exact hmetadata'

theorem lasting_withTargetInventory {info : SystemInfo} :
    old.Lasting steps (old.withTargetInventory info) :=
  lasting_mapHost fun _ metadata _ h => ⟨metadata, h, .refl steps metadata⟩

theorem lasting_withTargetAddress {address : String} :
    old.Lasting steps (old.withTargetAddress address) :=
  lasting_mapHost fun _ metadata _ h => ⟨metadata, h, .refl steps metadata⟩

theorem lasting_withCloudMetadata {metadata metadata' : CloudMetadata}
    (recorded : old.cloudMetadata? = some metadata) (kept : metadata.Lasting steps metadata') :
    old.Lasting steps (old.withCloudMetadata metadata') := by
  refine lasting_mapHost fun host known hhost hknown => ⟨metadata', rfl, ?_⟩
  have hsame : old.cloudMetadata? = some known :=
    Option.bind_eq_some_iff.mpr ⟨host, hhost, hknown⟩
  cases recorded.symm.trans hsame
  exact kept

theorem Changed.lasting (changed : old.Changed step new) : old.Lasting [step] new := by
  induction changed with
  | untouched step => exact .refl [step] old
  | inventoried bare inventory => exact inventory.lasting
  | created bare inventory metadata id =>
    have taken : old.Lasting [] _ := inventory.lasting
    refine taken.trans (lasting_withTarget ?_)
    rw [inventory.target_eq]
    exact bare
  | inspected reported => exact lasting_withTargetInventory
  | paired unmapped known fits => exact lasting_withMapping unmapped
  | volumeDeleted recorded =>
    refine lasting_withCloudMetadata recorded ⟨rfl, rfl, rfl, .inr ⟨?_, rfl⟩, .inl rfl⟩
    exact List.mem_singleton_self _
  | nicDeleted recorded =>
    refine lasting_withCloudMetadata recorded ⟨rfl, rfl, rfl, .inl rfl, .inr ⟨?_, rfl⟩⟩
    exact List.mem_singleton_self _
  | @readdressed middle address deleted ih =>
    have moved : middle.Lasting [] (middle.withTargetAddress address) := lasting_withTargetAddress
    exact ih.trans moved

end Source

/-- **Whatever steps are done on a source, in whatever order and with whatever answers: of its
document nothing changes but the two hosts and the mapping; its inventory, a recorded mapping and
the provider's identifiers stay, and of the recorded volumes and interfaces only the one for
bootstrapping goes, with the step that deletes it.** -/
theorem MigrationStep.Series.lasting_throughout {provider : Provider} {steps : List MigrationStep}
    {before after : Source} (series : Series provider before steps after) :
    before.Lasting steps after := by
  induction series with
  | nil source => exact .refl [] source
  | cons performed rest ih =>
    have ended := ((every_perform _ _ _).of_yields performed).2
    exact ended.changed.lasting.trans ih

/-- A source whose target has the bootstrap volume and the bootstrap interface and one of its own
each. -/
def bootstrappedSource : Source :=
  { (default : Source) with
    target := {
      blueprint := default
      remoteHost := some { (default : RemoteHost) with
        cloudMetadata := some {
          serverId := "server"
          bootstrapVolumeId := "boot"
          bootstrapNicId := "nic"
          volumes := [⟨"boot", "bootstrap", 10, some 1⟩, ⟨"disk", "sda", 20, some 2⟩]
          nics := [⟨"nic", "bootstrap", 1, ["10.0.0.9"], none⟩,
            ⟨"eth", "eth0", 2, ["10.0.0.2"], none⟩] } } } }

/-- The bootstrap volume of the source is deleted, once with a refusal and once for good. -/
theorem bootstrappedSource_lasting :
    ∃ after, MigrationStep.Series {} bootstrappedSource
        [.deleteBootstrapVolume, .deleteBootstrapVolume] after
      ∧ bootstrappedSource.Lasting [.deleteBootstrapVolume, .deleteBootstrapVolume] after
      ∧ after.cloudMetadata?.map (·.volumes.map (·.id)) = some ["disk"] := by
  have refused : ((MigrationStep.deleteBootstrapVolume).perform {} bootstrappedSource).Yields
      [⟨.datacenter (.deleteVolume "boot"), .error .http⟩] _ :=
    .ask _ (.done _)
  have deleted : ((MigrationStep.deleteBootstrapVolume).perform {} bootstrappedSource).Yields
      [⟨.datacenter (.deleteVolume "boot"), .ok ()⟩] _ :=
    .ask _ (.done _)
  have series := MigrationStep.Series.cons refused (.cons deleted (.nil _))
  exact ⟨_, series, series.lasting_throughout, rfl⟩

end ServerMigration
