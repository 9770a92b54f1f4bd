import ServerMigration.Proofs.Migration.Parts
import ServerMigration.Proofs.Migration.Series

/-!
# The removal of what a target was bootstrapped with

Two steps delete the bootstrap volume and the bootstrap interface of a target; without its bootstrap
interface the target is reached over another one.  Either step may be refused and done again, and
both work on one record of what the provider created.  However often they are done and whatever the
provider answers, they delete what is recorded as the bootstrap parts, each of them once.

## Main definitions

* `BootstrapPart` : the two parts.
* `RemovalRun` : the runs of a step that removes a part.
* `Removals` : removals that are done one after the other.
* `RemovalCourse` : what they ask, and what they leave behind.

## Main results

* `RemovalRun.of_yields` : every run of such a step is one of these.
* `Removals.keep_all_but_bootstrap` : how removals go, whatever the answers are.
* `refused_removal_collects_nothing` : a removal that is refused ends with the refusal alone.
-/

namespace ServerMigration

open Program

/-! ### The two parts -/

/-- A part of a target that it is bootstrapped with. -/
inductive BootstrapPart
  | volume
  | nic
  deriving DecidableEq

/-- The step that removes a part. -/
def BootstrapPart.removal : BootstrapPart → MigrationStep
  | volume => .deleteBootstrapVolume
  | nic => .deleteBootstrapNetworkInterface

namespace CloudMetadata

variable {metadata : CloudMetadata} {part other : BootstrapPart}

/-- The call that deletes a part: it names the one that is recorded. -/
def deletion (metadata : CloudMetadata) : BootstrapPart → DatacenterCall
  | .volume => .deleteVolume metadata.bootstrapVolumeId
  | .nic => .deleteNic metadata.serverId metadata.bootstrapNicId

/-- Whether a part is still recorded. -/
def has (metadata : CloudMetadata) : BootstrapPart → Bool
  | .volume => metadata.hasVolume metadata.bootstrapVolumeId
  | .nic => metadata.hasNic metadata.bootstrapNicId

/-- The metadata without a part; every other volume and interface stays in its place. -/
def without (metadata : CloudMetadata) : BootstrapPart → CloudMetadata
  | .volume =>
    { metadata with volumes := metadata.volumes.filter (·.id ≠ metadata.bootstrapVolumeId) }
  | .nic => { metadata with nics := metadata.nics.filter (·.id ≠ metadata.bootstrapNicId) }

@[simp] theorem deletion_without :
    (metadata.without part).deletion other = metadata.deletion other := by
  cases part <;> cases other <;> rfl

theorem deletion_injective (h : metadata.deletion part = metadata.deletion other) :
    part = other := by
  cases part <;> cases other <;> first | rfl | cases h

@[simp] theorem has_without_self : (metadata.without part).has part = false := by
  cases part <;> simp [has, without, hasVolume, hasNic]

/-- Without a part no other one appears. -/
theorem has_of_has_without (h : (metadata.without part).has other = true) :
    metadata.has other = true := by
  cases part <;> cases other <;> simp_all [has, without, hasVolume, hasNic]

@[simp] theorem lastingNics_without :
    (metadata.without part).lastingNics = metadata.lastingNics := by
  cases part with
  | volume => rfl
  | nic =>
    rw [lastingNics, without, lastingNics, List.filter_filter]
    simp only [Bool.and_self]

/-- The first address of the first interface that stays and has one. -/
def FinallyAt (metadata : CloudMetadata) (address : String) : Prop :=
  ∃ before nic ips after, metadata.lastingNics = before ++ nic :: after
    ∧ (∀ earlier ∈ before, earlier.ips = []) ∧ nic.ips = address :: ips

theorem finallyAt_of_finalAddress {address : String} (h : finalAddress metadata = some address) :
    metadata.FinallyAt address := by
  obtain ⟨before, nic, after, hnics, haddress, hbefore⟩ := List.findSome?_eq_some_iff.mp h
  obtain ⟨ips, hips⟩ := List.head?_eq_some_iff.mp haddress
  refine ⟨before, nic, ips, after, hnics, fun earlier h => ?_, hips⟩
  exact List.head?_eq_none_iff.mp (hbefore earlier h)

theorem finalAddress_eq_none_iff :
    finalAddress metadata = none ↔ ∀ nic ∈ metadata.lastingNics, nic.ips = [] := by
  rw [finalAddress, List.findSome?_eq_none_iff]
  exact forall₂_congr fun nic _ => List.head?_eq_none_iff

end CloudMetadata

/-! ### Runs of a removal -/

/-- The address at which the target of a source is reached. -/
def Source.targetAddress? (source : Source) : Option String :=
  source.target.remoteHost.map (·.address)

/-- What a removal leaves behind when its part is gone. -/
def BootstrapPart.settled (part : BootstrapPart) (metadata : CloudMetadata) (source : Source) :
    CommandRun Source :=
  match part with
  | volume => ⟨source, [], .ok none⟩
  | nic =>
    match finalAddress metadata with
    | some address => ⟨source.withTargetAddress address, [], .ok none⟩
    | none => ⟨source, ["final address: no remaining NIC has an address"], .ok none⟩

/-- What a removal asks and leaves behind, when this is recorded of the target. -/
inductive RemovalRun (metadata : CloudMetadata) (part : BootstrapPart) (source : Source) :
    SiteTrace → CommandRun Source → Prop
  /-- The part is gone already. -/
  | gone (absent : metadata.has part = false) :
      RemovalRun metadata part source [] (part.settled metadata source)
  /-- The deletion is refused, which ends the run. -/
  | refused (present : metadata.has part = true) (error : CloudError) :
      RemovalRun metadata part source [⟨.datacenter (metadata.deletion part), .error error⟩]
        ⟨source, [], .error (.cloud error)⟩
  /-- The part is deleted. -/
  | deleted (present : metadata.has part = true) (reply : (metadata.deletion part).Reply) :
      RemovalRun metadata part source [⟨.datacenter (metadata.deletion part), .ok reply⟩]
        (part.settled metadata (source.withCloudMetadata (metadata.without part)))

/-- Work that begins with a call is ended by the refusal of the call, or goes on behind it. -/
theorem Work.exists_of_runs_call_bind {α : Type} {c : DatacenterCall} {next : c.Reply → Work α}
    {before after : Progress} {trace : SiteTrace} {result : Except CommandError α}
    (h : Runs (cloud (Provider.call c) >>= next) before trace result after) :
    (∃ error, trace = [⟨.datacenter c, .error error⟩] ∧ result = .error (.cloud error)
      ∧ after = before) ∨
    ∃ reply rest, trace = ⟨.datacenter c, .ok reply⟩ :: rest
      ∧ Runs (next reply) before rest result after := by
  rcases runs_bind_iff.mp h with
    ⟨error, hcall, rfl⟩ | ⟨reply, middle, first, rest, hcall, hnext, rfl⟩
  · obtain ⟨answer, hasked, hanswer, rfl⟩ := runs_cloud_iff.mp hcall
    cases answer with
    | error failure =>
      cases hanswer
      exact .inl ⟨failure, Provider.yields_call_iff.mp hasked, rfl, rfl⟩
    | ok reply => cases hanswer
  · obtain ⟨answer, hasked, hanswer, rfl⟩ := runs_cloud_iff.mp hcall
    rw [mapError_eq_ok_iff.mp hanswer.symm, Provider.yields_call_iff] at hasked
    rw [hasked]
    exact .inr ⟨reply, rest, rfl, hnext⟩

/-- Work that is done when a part is gone: it asks nothing, and leaves behind what is settled. -/
def BootstrapPart.Settles (part : BootstrapPart) (metadata : CloudMetadata)
    (work : Work (Option Signal)) : Prop :=
  ∀ document trace entity errors outcome,
    Runs work ⟨document, []⟩ trace outcome ⟨entity, errors⟩ →
    trace = [] ∧ ⟨entity, errors, outcome⟩ = part.settled metadata document

namespace BootstrapPart

variable {metadata : CloudMetadata}

theorem settles_volume : volume.Settles metadata (pure none) := by
  intro document trace entity errors outcome h
  obtain ⟨rfl, rfl, hsame⟩ := runs_pure_iff.mp h
  cases hsame
  exact ⟨rfl, rfl⟩

theorem settles_nic : nic.Settles metadata (match finalAddress metadata with
    | some address => do
      Work.modifySource fun s => s.withTargetAddress address
      return none
    | none => do
      Work.record "final address" "no remaining NIC has an address"
      return none) := by
  intro document trace entity errors outcome h
  rw [settled]
  cases hfinal : finalAddress metadata with
  | some address =>
    rw [hfinal] at h
    obtain ⟨rfl, rfl, hsame⟩ := runs_pure_iff.mp h
    cases hsame
    exact ⟨rfl, rfl⟩
  | none =>
    rw [hfinal] at h
    obtain ⟨rfl, rfl, hsame⟩ := runs_pure_iff.mp h
    cases hsame
    exact ⟨rfl, rfl⟩

end BootstrapPart

namespace RemovalRun

variable {provider : Provider} {source entity : Source} {metadata : CloudMetadata}
  {part : BootstrapPart} {trace : SiteTrace} {run : CommandRun Source} {errors : StepErrors}
  {outcome : Except CommandError (Option Signal)} {work : Work (Option Signal)}

/-- A part that is gone already. -/
theorem of_settles (absent : ¬metadata.has part = true) (settles : part.Settles metadata work)
    (h : Runs work ⟨source, []⟩ trace outcome ⟨entity, errors⟩) :
    RemovalRun metadata part source trace ⟨entity, errors, outcome⟩ := by
  obtain ⟨rfl, hsettled⟩ := settles source trace entity errors outcome h
  rw [hsettled]
  exact .gone (eq_false_of_ne_true absent)

/-- A part that is there is deleted first. -/
theorem of_call (present : metadata.has part = true) (settles : part.Settles metadata work)
    (h : Runs (Work.cloud (Provider.call (metadata.deletion part)) >>= fun _ =>
      Work.modifySource (·.withCloudMetadata (metadata.without part)) >>= fun _ => work)
      ⟨source, []⟩ trace outcome ⟨entity, errors⟩) :
    RemovalRun metadata part source trace ⟨entity, errors, outcome⟩ := by
  rcases Work.exists_of_runs_call_bind h with ⟨error, rfl, rfl, hsame⟩ | ⟨reply, rest, rfl, hrest⟩
  · cases hsame
    exact .refused present error
  · obtain ⟨rfl, hsettled⟩ := settles _ rest entity errors outcome hrest
    rw [hsettled]
    exact .deleted present reply

/-- **Every run of a step that removes a part is one of these.** -/
theorem of_yields (recorded : source.cloudMetadata? = some metadata)
    (performed : (part.removal.perform provider source).Yields trace run) :
    RemovalRun metadata part source trace run := by
  have hruns := MigrationStep.runs_of_yields_perform performed
  have hrecorded : ∀ command, Work.recordedMetadata source command = .ok metadata :=
    fun command => Work.recordedMetadata_eq_ok_iff.mpr recorded
  cases part with
  | volume =>
    -- The steps differ in the call and in what they do behind it.
    change Runs Work.deleteBootstrapVolume _ _ _ _ at hruns
    rw [Work.deleteBootstrapVolume, Work.runs_source_bind_iff, hrecorded, Work.runs_look_iff]
      at hruns
    dsimp only at hruns
    split at hruns
    · next present => exact of_call present BootstrapPart.settles_volume hruns
    · next absent => exact of_settles absent BootstrapPart.settles_volume hruns
  | nic =>
    change Runs Work.deleteBootstrapNic _ _ _ _ at hruns
    rw [Work.deleteBootstrapNic, Work.runs_source_bind_iff, hrecorded, Work.runs_look_iff] at hruns
    dsimp only at hruns
    split at hruns
    · next present => exact of_call present BootstrapPart.settles_nic hruns
    · next absent => exact of_settles absent BootstrapPart.settles_nic hruns

end RemovalRun

/-! ### Removals one after the other -/

/-- A step that has removed a part, or tried to. -/
structure Removal where
  /-- Its part. -/
  part : BootstrapPart
  /-- The source that it began with. -/
  before : Source
  /-- What it asked, and what it was answered. -/
  trace : SiteTrace
  /-- What it left behind. -/
  run : CommandRun Source

/-- Removals, each with the source that the one before has left behind, lead from one source to
another. -/
inductive Removals (provider : Provider) : Source → List Removal → Source → Prop
  | nil (source : Source) : Removals provider source [] source
  | cons {part : BootstrapPart} {before after : Source} {trace : SiteTrace}
      {run : CommandRun Source} {removals : List Removal}
      (performed : (part.removal.perform provider before).Yields trace run)
      (rest : Removals provider run.entity removals after) :
      Removals provider before (⟨part, before, trace, run⟩ :: removals) after

/-- What is asked in the course of removals. -/
def asked (removals : List Removal) : SiteTrace := removals.flatMap (·.trace)

@[simp] theorem asked_cons {removal : Removal} {removals : List Removal} :
    asked (removal :: removals) = removal.trace ++ asked removals :=
  List.flatMap_cons

/-- The part that has been deleted with this answer. -/
def deletedPart? : Exchange Site.Ask Site.Answer → Option BootstrapPart
  | ⟨.datacenter (.deleteVolume _), .ok _⟩ => some .volume
  | ⟨.datacenter (.deleteNic _ _), .ok _⟩ => some .nic
  | _ => none

/-- What a removal does to the document and to the address of the target. -/
structure Removal.Keeps (removal : Removal) (metadata : CloudMetadata) : Prop where
  /-- A refusal ends the run, and the document is as it was. -/
  refused : ∀ call error, ⟨.datacenter call, .error error⟩ ∈ removal.trace →
    removal.run = ⟨removal.before, [], .error (.cloud error)⟩
  /-- Without the volume the target is reached where it was. -/
  volume : removal.part = .volume →
    removal.run.entity.targetAddress? = removal.before.targetAddress?
  /-- When the interface has been removed, the target is reached at the first address of the first
  interface that stays and has one. -/
  nic : removal.part = .nic → ∀ signal, removal.run.outcome = .ok signal → removal.run.errors = [] →
    ∃ address, metadata.FinallyAt address ∧ removal.run.entity.targetAddress? = some address
  /-- If no interface that stays has an address, the target is reached where it was, and that is
  collected unless the deletion was refused. -/
  stranded : removal.part = .nic → (∀ nic ∈ metadata.lastingNics, nic.ips = []) →
    removal.run.entity.targetAddress? = removal.before.targetAddress?
      ∧ (removal.run.errors = ["final address: no remaining NIC has an address"]
        ∨ ∃ call error, ⟨.datacenter call, .error error⟩ ∈ removal.trace)

/-- What removals ask and leave behind, when this was recorded of the target at first. -/
structure RemovalCourse (metadata : CloudMetadata) (removals : List Removal) (after : Source) :
    Prop where
  /-- Nothing but the recorded bootstrap parts is deleted, and nothing else is asked. -/
  calls : ∀ exchange ∈ asked removals, ∃ part, metadata.has part = true
    ∧ exchange.1 = .datacenter (metadata.deletion part)
  /-- What has been deleted is not deleted again. -/
  once : (asked removals).Pairwise fun earlier later =>
    (deletedPart? earlier).isSome → later.1 ≠ earlier.1
  /-- What has been deleted is recorded no more, and everything else is recorded as it was. -/
  remains : after.cloudMetadata? = some
    (((asked removals).filterMap deletedPart?).foldl CloudMetadata.without metadata)
  /-- What each removal does. -/
  each : ∀ removal ∈ removals, removal.Keeps metadata

section

variable {source : Source} {metadata : CloudMetadata} {part : BootstrapPart}

@[simp] theorem deletedPart?_ok {reply : (metadata.deletion part).Reply} :
    deletedPart? ⟨.datacenter (metadata.deletion part), .ok reply⟩ = some part := by
  cases part <;> rfl

@[simp] theorem deletedPart?_error {call : DatacenterCall} {error : CloudError} :
    deletedPart? ⟨.datacenter call, .error error⟩ = none := by
  cases call <;> rfl

namespace Source

theorem cloudMetadata?_withTargetAddress (source : Source) (address : String) :
    (source.withTargetAddress address).cloudMetadata? = source.cloudMetadata? := by
  rw [cloudMetadata?, cloudMetadata?, withTargetAddress]
  cases source.target.remoteHost <;> rfl

theorem cloudMetadata?_withCloudMetadata (recorded : source.cloudMetadata? = some metadata)
    (rest : CloudMetadata) : (source.withCloudMetadata rest).cloudMetadata? = some rest := by
  obtain ⟨host, hhost, -⟩ := Option.bind_eq_some_iff.mp recorded
  rw [cloudMetadata?, withCloudMetadata, hhost]
  rfl

@[simp] theorem targetAddress?_withCloudMetadata (source : Source) (rest : CloudMetadata) :
    (source.withCloudMetadata rest).targetAddress? = source.targetAddress? := by
  rw [targetAddress?, targetAddress?, withCloudMetadata]
  cases source.target.remoteHost <;> rfl

theorem targetAddress?_withTargetAddress (recorded : source.cloudMetadata? = some metadata)
    (address : String) : (source.withTargetAddress address).targetAddress? = some address := by
  obtain ⟨host, hhost, -⟩ := Option.bind_eq_some_iff.mp recorded
  rw [targetAddress?, withTargetAddress, hhost]
  rfl

end Source

namespace RemovalRun

variable {before : Source} {trace : SiteTrace} {run : CommandRun Source}

theorem cloudMetadata?_settled :
    (part.settled metadata source).entity.cloudMetadata? = source.cloudMetadata? := by
  cases part with
  | volume => rfl
  | nic =>
    rw [BootstrapPart.settled]
    cases finalAddress metadata with
    | some address => exact Source.cloudMetadata?_withTargetAddress source address
    | none => rfl

/-- A part is recorded until it has been deleted. -/
theorem cloudMetadata?_entity (removes : RemovalRun metadata part source trace run)
    (recorded : source.cloudMetadata? = some metadata) :
    run.entity.cloudMetadata?
      = some ((trace.filterMap deletedPart?).foldl CloudMetadata.without metadata) := by
  cases removes with
  | gone =>
    rw [cloudMetadata?_settled]
    exact recorded
  | refused => simpa using recorded
  | deleted =>
    rw [cloudMetadata?_settled, Source.cloudMetadata?_withCloudMetadata recorded]
    simp

/-- A removal that was not refused. -/
theorem keeps_settled {rest : CloudMetadata} (recorded : source.cloudMetadata? = some rest)
    (same : source.targetAddress? = before.targetAddress?)
    (granted : ∀ call error, ⟨.datacenter call, .error error⟩ ∉ trace) :
    Removal.Keeps ⟨part, before, trace, part.settled metadata source⟩ metadata := by
  refine ⟨fun call error h => absurd h (granted call error), ?_, ?_, ?_⟩
  · rintro rfl
    exact same
  · rintro rfl signal - quiet
    dsimp only [BootstrapPart.settled] at quiet ⊢
    cases hfinal : finalAddress metadata with
    | some address =>
      exact ⟨address, CloudMetadata.finallyAt_of_finalAddress hfinal,
        Source.targetAddress?_withTargetAddress recorded address⟩
    | none =>
      rw [hfinal] at quiet
      cases quiet
  · rintro rfl bare
    dsimp only [BootstrapPart.settled]
    rw [CloudMetadata.finalAddress_eq_none_iff.mpr bare]
    exact ⟨same, .inl rfl⟩

theorem keeps (removes : RemovalRun metadata part source trace run)
    (recorded : source.cloudMetadata? = some metadata) :
    Removal.Keeps ⟨part, source, trace, run⟩ metadata := by
  cases removes with
  | gone => exact keeps_settled recorded rfl (by simp)
  | refused present error =>
    refine ⟨fun call failure h => ?_, fun _ => rfl, fun _ _ h => (nomatch h),
      fun _ _ => ⟨rfl, .inr ⟨_, error, List.mem_singleton_self _⟩⟩⟩
    cases List.mem_singleton.mp h
    rfl
  | deleted present reply =>
    refine keeps_settled (Source.cloudMetadata?_withCloudMetadata recorded _)
      (Source.targetAddress?_withCloudMetadata _ _) fun call error h => ?_
    cases List.mem_singleton.mp h

end RemovalRun

/-- What a removal keeps, it keeps of a record that had more parts. -/
theorem Removal.Keeps.of_without {removal : Removal}
    (keeps : removal.Keeps (metadata.without part)) : removal.Keeps metadata := by
  refine ⟨keeps.refused, keeps.volume, ?_, ?_⟩
  · have hnic := keeps.nic
    simp only [CloudMetadata.FinallyAt, CloudMetadata.lastingNics_without] at hnic
    exact hnic
  · have hstranded := keeps.stranded
    rw [CloudMetadata.lastingNics_without] at hstranded
    exact hstranded

namespace RemovalCourse

variable {before after : Source} {trace : SiteTrace} {run : CommandRun Source}
  {removals : List Removal}

theorem nil (recorded : source.cloudMetadata? = some metadata) : RemovalCourse metadata [] source :=
  ⟨fun _ h => (nomatch h), .nil, recorded, fun _ h => (nomatch h)⟩

/-- **A removal comes before the others, for which only what it has left is recorded.** -/
theorem cons (removes : RemovalRun metadata part before trace run)
    (keeps : Removal.Keeps ⟨part, before, trace, run⟩ metadata)
    (rest : RemovalCourse ((trace.filterMap deletedPart?).foldl CloudMetadata.without metadata)
      removals after) :
    RemovalCourse metadata (⟨part, before, trace, run⟩ :: removals) after := by
  cases removes with
  | gone absent =>
    exact ⟨rest.calls, rest.once, rest.remains, List.forall_mem_cons.mpr ⟨keeps, rest.each⟩⟩
  | refused present error =>
    have rest : RemovalCourse metadata removals after := by simpa using rest
    refine ⟨List.forall_mem_cons.mpr ⟨⟨part, present, rfl⟩, rest.calls⟩,
      List.pairwise_cons.mpr ⟨fun later _ hdeleted => ?_, rest.once⟩, ?_,
      List.forall_mem_cons.mpr ⟨keeps, rest.each⟩⟩
    · simp at hdeleted
    · rw [rest.remains]
      simp
  | deleted present reply =>
    have rest : RemovalCourse (metadata.without part) removals after := by simpa using rest
    -- The part is recorded no more, so that no later call is for it.
    have hcalls : ∀ exchange ∈ asked removals, ∃ other ≠ part, metadata.has other = true
        ∧ exchange.1 = .datacenter (metadata.deletion other) := by
      intro exchange hmem
      obtain ⟨other, hother, hcall⟩ := rest.calls exchange hmem
      refine ⟨other, ?_, CloudMetadata.has_of_has_without hother,
        hcall.trans (by rw [CloudMetadata.deletion_without])⟩
      rintro rfl
      rw [CloudMetadata.has_without_self] at hother
      cases hother
    refine ⟨List.forall_mem_cons.mpr ⟨⟨part, present, rfl⟩, fun exchange hmem => ?_⟩,
      List.pairwise_cons.mpr ⟨fun later hlater _ hsame => ?_, rest.once⟩, ?_,
      List.forall_mem_cons.mpr ⟨keeps, fun removal hmem => (rest.each removal hmem).of_without⟩⟩
    · obtain ⟨other, -, hother⟩ := hcalls exchange hmem
      exact ⟨other, hother⟩
    · obtain ⟨other, hne, -, hcall⟩ := hcalls later hlater
      injection hcall.symm.trans hsame with hcall
      exact hne (CloudMetadata.deletion_injective hcall)
    · rw [rest.remains]
      simp

end RemovalCourse

/-- **How removals go, whatever the provider answers.**  They delete nothing but the bootstrap
volume and the bootstrap interface that are recorded, and neither again once it is deleted; a
refused deletion changes nothing, everything else stays recorded, and when the interface has been
removed the target is reached at the first address that is left. -/
theorem Removals.keep_all_but_bootstrap {provider : Provider} {removals : List Removal}
    {after : Source} (removes : Removals provider source removals after)
    (recorded : source.cloudMetadata? = some metadata) : RemovalCourse metadata removals after := by
  induction removes generalizing metadata with
  | nil => exact .nil recorded
  | cons performed _ ih =>
    have run := RemovalRun.of_yields recorded performed
    exact .cons run (run.keeps recorded) (ih (run.cloudMetadata?_entity recorded))

end

/-- What is recorded of the target of `bootstrappedSource`. -/
def bootstrappedMetadata : CloudMetadata where
  serverId := "server"
  bootstrapVolumeId := "boot"
  bootstrapNicId := "nic"
  volumes := [⟨"boot", "bootstrap", 10, some 1⟩, ⟨"disk", "sda", 20, some 2⟩]
  nics := [⟨"nic", "bootstrap", 1, ["10.0.0.9"], none⟩, ⟨"eth", "eth0", 2, ["10.0.0.2"], none⟩]

/-- That source without its bootstrap interface. -/
def unpluggedSource : Source :=
  (bootstrappedSource.withCloudMetadata (bootstrappedMetadata.without .nic)).withTargetAddress
    "10.0.0.2"

/-- The interface of this source is removed, first with a refusal, and then its volume. -/
theorem bootstrappedSource_removals :
    bootstrappedSource.cloudMetadata? = some bootstrappedMetadata
      ∧ ∃ removals after, Removals {} bootstrappedSource removals after
        ∧ RemovalCourse bootstrappedMetadata removals after
        ∧ removals.map (·.part) = [.nic, .nic, .volume]
        ∧ after.targetAddress? = some "10.0.0.2" := by
  have recorded : bootstrappedSource.cloudMetadata? = some bootstrappedMetadata := rfl
  have refused : (BootstrapPart.nic.removal.perform {} bootstrappedSource).Yields
      [⟨.datacenter (.deleteNic "server" "nic"), .error .http⟩]
      ⟨bootstrappedSource, [], .error (.cloud .http)⟩ :=
    .ask _ (.done _)
  have unplugged : (BootstrapPart.nic.removal.perform {} bootstrappedSource).Yields
      [⟨.datacenter (.deleteNic "server" "nic"), .ok ()⟩] ⟨unpluggedSource, [], .ok none⟩ :=
    .ask _ (.done _)
  have detached : (BootstrapPart.volume.removal.perform {} unpluggedSource).Yields
      [⟨.datacenter (.deleteVolume "boot"), .ok ()⟩] _ :=
    .ask _ (.done _)
  have removes := Removals.cons refused (.cons unplugged (.cons detached (.nil _)))
  exact ⟨recorded, _, _, removes, removes.keep_all_but_bootstrap recorded, rfl, rfl⟩

/-- A source whose target has no interface but the one it was bootstrapped with. -/
def strandedSource : Source :=
  { (default : Source) with
    target := {
      blueprint := default
      remoteHost := some { (default : RemoteHost) with
        address := "10.9.0.5"
        cloudMetadata := some {
          serverId := "srv-9"
          bootstrapVolumeId := "v0"
          bootstrapNicId := "n0"
          volumes := [⟨"v0", "web-1-bootstrap", 10, some 1⟩]
          nics := [⟨"n0", "web-1-bootstrap", 1, ["10.9.0.5"], none⟩] } } } }

/-- **A removal that is refused ends with the refusal alone**, even if no address would be left. -/
theorem refused_removal_collects_nothing :
    ¬∀ (provider : Provider) (source : Source) (metadata : CloudMetadata) (trace : SiteTrace)
      (run : CommandRun Source), source.cloudMetadata? = some metadata →
      (BootstrapPart.nic.removal.perform provider source).Yields trace run →
      (∀ nic ∈ metadata.lastingNics, nic.ips = []) → run.errors ≠ [] := by
  intro always
  have refused : (BootstrapPart.nic.removal.perform {} strandedSource).Yields
      [⟨.datacenter (.deleteNic "srv-9" "n0"), .error (.api 503 "busy")⟩]
      ⟨strandedSource, [], .error (.cloud (.api 503 "busy"))⟩ :=
    .ask _ (.done _)
  exact always {} strandedSource _ _ _ rfl refused (by decide) rfl

end ServerMigration
