import ServerMigration.Migration.Catalog
import ServerMigration.Migration.Driving
import ServerMigration.Proofs.Cloud.Operations
import ServerMigration.Proofs.Mapping.Fitting
import ServerMigration.Proofs.Program.Yields

/-!
# Work that leaves the document alone

The steps of a migration and the hook scripts leave the store to the commander.  Most parts of a
step, and most steps as a whole, leave the document of their source alone too.  What they need
from it has been put there by earlier steps.  If it is there, nothing that they complain about is a
gap which an earlier step has left.

## Main definitions

* `Site.Ask.SparesStore` : questions that are no calls to the store.
* `CommandError.MissesArtefact` : complaints about a gap that an earlier step has left.
* `Work.Ends` : how work ends, whatever the surroundings answer.
* `Work.Leaves`, `Work.Tame` : work that leaves the document alone.
* `Source.Provisioned`, `Source.Paired` : what the first steps put into the document.

## Main results

* `Work.mountAll_leaves` and its like : steps that leave the document alone.
* `sparesStore_runScripts` : hook scripts spare the store.
-/

namespace ServerMigration

open Program

/-- Questions other than calls to the store. -/
def Site.Ask.SparesStore : Site.Ask → Prop
  | .store _ => False
  | _ => True

/-- The complaints of a step that finds no target, no metadata or no inventory. -/
def artefactComplaints : List String :=
  ["target has not been provisioned", "target has no cloud metadata",
    "source inventory has not been collected", "target inventory has not been collected"]

/-- The step fails for want of something that an earlier step leaves behind. -/
def CommandError.MissesArtefact : CommandError → Prop
  | .precondition _ reason => reason ∈ artefactComplaints
  | .mapping .notIdentified | .mapping .alreadyIdentified => True
  | .mapping (.invalidPath _ reason) => reason ∈ ["mapped device missing from source inventory",
      "mapped partition missing from source inventory"]
  | _ => False

/-- A complaint that begins in another way is none of these. -/
theorem notMem_artefactComplaints {first rest : String} {c : Char}
    (hfirst : first.toList.head? = some c) (hother : c ∉ ['s', 't']) :
    first ++ rest ∉ artefactComplaints := by
  intro hmem
  have hhead : (first ++ rest).toList.head? = some c := by
    rw [String.toList_append, List.head?_append, hfirst, Option.some_or]
  have hheads : ∀ reason ∈ artefactComplaints,
      ∃ d ∈ ['s', 't'], reason.toList.head? = some d := by
    simp only [artefactComplaints, List.forall_mem_cons]
    exact ⟨⟨'t', by simp, rfl⟩, ⟨'t', by simp, rfl⟩, ⟨'s', by simp, rfl⟩, ⟨'t', by simp, rfl⟩,
      nofun⟩
  obtain ⟨d, hd, hsame⟩ := hheads _ hmem
  cases hhead.symm.trans hsame
  exact hother hd

/-- Actions that leave the store alone. -/
abbrev Action.SparesStore {α : Type} (action : Action α) : Prop :=
  action.Every Site.Ask.SparesStore fun _ => True

/-- Cloud operations that leave the store alone. -/
abbrev Provider.Operation.SparesStore {α : Type} (operation : Provider.Operation α) : Prop :=
  Action.SparesStore operation.run

namespace Work

variable {α β ε : Type}

/-- Whatever the surroundings answer, the work spares the store and ends with a result and a
progress that have `Q`. -/
def Ends (work : Work α) (before : Progress) (Q : Except CommandError α → Progress → Prop) : Prop :=
  (work.run.run before).Every Site.Ask.SparesStore fun x => Q x.1 x.2

/-- The work leaves this document as it is.  Its result, if it has one, has `Q`; if the document
has what is needed, the work misses nothing that earlier steps leave behind. -/
def Leaves (work : Work α) (document : Source) (needs : Prop) (Q : α → Prop) : Prop :=
  ∀ errors, work.Ends ⟨document, errors⟩ fun result after => after.source = document ∧
    match result with
    | .ok a => Q a
    | .error error => needs → ¬error.MissesArtefact

/-- The work leaves every document as it is and needs nothing from it. -/
abbrev Gives (work : Work α) (Q : α → Prop) : Prop := ∀ document, work.Leaves document True Q

/-- The same with any result. -/
abbrev Tame (work : Work α) : Prop := work.Gives fun _ => True

/-! ### The operations of work -/

section

variable {before : Progress} {document : Source} {needs : Prop} {work : Work α}
  {next : α → Work β}

theorem Ends.bind {Q : Except CommandError α → Progress → Prop}
    {R : Except CommandError β → Progress → Prop} (hwork : work.Ends before Q)
    (hok : ∀ a middle, Q (.ok a) middle → (next a).Ends middle R)
    (herror : ∀ error middle, Q (.error error) middle → R (.error error) middle) :
    (work >>= next).Ends before R := by
  -- What comes of the first part decides whether the second one is done.
  change (work.run.run before >>= fun x => (ExceptT.bindCont next x.1).run x.2).Every _ _
  refine Every.bind hwork ?_
  rintro ⟨result, middle⟩ hresult
  cases result with
  | error error => exact herror error middle hresult
  | ok a => exact hok a middle hresult

theorem ends_action {a : Action α} {Q : Except CommandError α → Progress → Prop}
    (h : a.SparesStore) (hok : ∀ answer, Q (.ok answer) before) :
    (Work.action a).Ends before Q := by
  change ((a >>= fun answer => done (answer, before)) >>= fun x =>
    done (Except.ok x.1, x.2)).Every _ _
  rw [Program.bind_assoc]
  exact h.bind fun answer _ => hok answer

@[simp] theorem ends_source_bind {next : Source → Work β}
    {Q : Except CommandError β → Progress → Prop} :
    (source >>= next).Ends before Q ↔ (next before.source).Ends before Q :=
  Iff.rfl

theorem leaves_pure {Q : α → Prop} {a : α} (h : Q a) :
    (pure a : Work α).Leaves document needs Q :=
  fun _ => ⟨rfl, h⟩

theorem leaves_throw {Q : α → Prop} {error : CommandError} (h : needs → ¬error.MissesArtefact) :
    (throw error : Work α).Leaves document needs Q :=
  fun _ => ⟨rfl, h⟩

theorem Gives.leaves {Q : α → Prop} (h : work.Gives Q) : work.Leaves document needs Q := by
  intro errors
  refine (h document errors).mono ?_
  rintro ⟨result, after⟩ ⟨hsame, hresult⟩
  cases result with
  | ok a => exact ⟨hsame, hresult⟩
  | error error => exact ⟨hsame, fun _ => hresult trivial⟩

theorem Leaves.bind {Q : α → Prop} {R : β → Prop} (hwork : work.Leaves document needs Q)
    (hnext : ∀ a, Q a → (next a).Leaves document needs R) :
    (work >>= next).Leaves document needs R := by
  intro errors
  refine (hwork errors).bind ?_ fun error middle h => h
  rintro a ⟨_, errors'⟩ ⟨rfl, ha⟩
  exact hnext a ha errors'

/-- Tame work may stand before any work. -/
theorem Leaves.after {Q : β → Prop} (hwork : work.Tame)
    (hnext : ∀ a, (next a).Leaves document needs Q) : (work >>= next).Leaves document needs Q :=
  hwork.leaves.bind fun a _ => hnext a

/-- A look at the document. -/
theorem Leaves.source {next : Source → Work β} {Q : β → Prop}
    (h : (next document).Leaves document needs Q) : (source >>= next).Leaves document needs Q :=
  h

/-- A look at something that is there if the document has what is needed. -/
theorem leaves_look {result : Except CommandError α} (found : needs → ∃ a, result = .ok a) :
    (ofExcept result).Leaves document needs (result = .ok ·) := by
  intro errors
  cases result with
  | ok a => exact ⟨rfl, rfl⟩
  | error error =>
    refine ⟨rfl, fun hneeds => ?_⟩
    obtain ⟨a, ha⟩ := found hneeds
    cases ha

theorem Leaves.look {Q : β → Prop} {result : Except CommandError α}
    (found : needs → ∃ a, result = .ok a)
    (hnext : ∀ a, result = .ok a → (next a).Leaves document needs Q) :
    (ofExcept result >>= next).Leaves document needs Q :=
  (leaves_look found).bind hnext

end

theorem Gives.bind {work : Work α} {next : α → Work β} {Q : β → Prop} (hwork : work.Tame)
    (hnext : ∀ a, (next a).Gives Q) : (work >>= next).Gives Q :=
  fun document => .after hwork fun a => hnext a document

theorem tame_pure (a : α) : (pure a : Work α).Tame := fun _ => leaves_pure trivial

theorem tame_get : (get : Work Progress).Tame := fun _ _ => ⟨rfl, trivial⟩

theorem tame_record (operation error : String) : (record operation error).Tame :=
  fun _ _ => ⟨rfl, trivial⟩

theorem tame_ofExcept {result : Except CommandError α}
    (h : ∀ error, result = .error error → ¬error.MissesArtefact) : (ofExcept result).Tame := by
  intro document errors
  cases result with
  | ok a => exact ⟨rfl, trivial⟩
  | error error => exact ⟨rfl, fun _ => h error rfl⟩

theorem gives_ofMapping {result : Except MappingError α}
    (h : ∀ error, result = .error error → ¬(CommandError.mapping error).MissesArtefact) :
    (ofMapping result).Gives (result = .ok ·) := by
  intro document errors
  cases result with
  | ok a => exact ⟨rfl, rfl⟩
  | error error => exact ⟨rfl, fun _ => h error rfl⟩

theorem gives_precondition {Q : α → Prop} {command reason : String}
    (h : reason ∉ artefactComplaints) : (precondition command reason : Work α).Gives Q :=
  fun _ => leaves_throw fun _ => h

theorem tame_action {a : Action α} (h : a.SparesStore) : (Work.action a).Tame :=
  fun _ _ => ends_action h fun _ => ⟨rfl, trivial⟩

theorem tame_orRecord (operation : String) (message : ε → String) (result : Except ε α) :
    (orRecord operation message result).Tame := by
  cases result with
  | ok a => exact tame_pure _
  | error error => exact .bind (tame_record _ _) fun _ => tame_pure _

theorem tame_tryRemote (operation : String) (host : RemoteHost) (command : String)
    (options : ExecOptions) : (tryRemote operation host command options).Tame :=
  .bind (tame_action (every_request trivial)) fun _ => tame_orRecord _ _ _

theorem tame_remote (host : RemoteHost) (command : String) : (remote host command).Tame := by
  refine .bind (tame_action (every_request trivial)) fun answer => tame_ofExcept ?_
  cases answer with
  | ok _ => exact fun _ h => by cases h
  | error _ =>
    rintro _ h
    cases h
    exact id

theorem tame_cloud {operation : Provider.Operation α} (h : operation.SparesStore) :
    (cloud operation).Tame := by
  refine .bind (tame_action h) fun answer => tame_ofExcept ?_
  cases answer with
  | ok _ => exact fun _ h => by cases h
  | error _ =>
    rintro _ h
    cases h
    exact id

theorem tame_forM {elements : List α} {f : α → Work Unit} (h : ∀ a, (f a).Tame) :
    (elements.forM f).Tame := by
  induction elements with
  | nil => exact tame_pure _
  | cons a elements ih => exact .bind (h a) fun _ => ih

end Work

/-! ### Cloud operations -/

section

variable {α β : Type}

theorem sparesStore_pollRounds {operation : String} {policy : PollPolicy}
    {fetch : Action (Except CloudError α)} {accepts : α → Except CloudError Bool}
    {start : Duration} (h : fetch.SparesStore) (rounds : Nat) :
    (pollRounds operation policy fetch accepts start rounds).SparesStore :=
  every_pollRounds h trivial (fun _ => trivial) rounds

namespace Provider

theorem sparesStore_bind {operation : Operation α} {next : α → Operation β}
    (h : operation.SparesStore) (hnext : ∀ a, (next a).SparesStore) :
    Operation.SparesStore (operation >>= next) :=
  every_operation_bind h hnext

theorem sparesStore_call (c : DatacenterCall) : (call c).SparesStore :=
  every_call trivial

theorem sparesStore_awaitRequest (provider : Provider) (operation requestId : String) :
    (provider.awaitRequest operation requestId).SparesStore :=
  every_awaitRequest provider operation requestId trivial (fun _ => trivial) trivial

theorem sparesStore_awaitState (provider : Provider) (operation serverId : String)
    (wanted : String → Bool) : (provider.awaitState operation serverId wanted).SparesStore :=
  ⟨trivial, fun _ => sparesStore_pollRounds (every_request trivial) _⟩

theorem sparesStore_createTarget (provider : Provider) (spec : TargetSpec) :
    (provider.createTarget spec).SparesStore := by
  refine sparesStore_bind (sparesStore_call _) fun accepted => ?_
  refine sparesStore_bind (sparesStore_awaitRequest ..) fun _ => ?_
  refine sparesStore_bind (sparesStore_call _) fun volumes => ?_
  exact sparesStore_bind (sparesStore_call _) fun nics => trivial

theorem sparesStore_startTarget (provider : Provider) (serverId : String) :
    (provider.startTarget serverId).SparesStore :=
  sparesStore_bind (sparesStore_call _) fun _ =>
    sparesStore_bind (sparesStore_awaitState ..) fun _ => trivial

theorem sparesStore_stopTarget (provider : Provider) (serverId : String) :
    (provider.stopTarget serverId).SparesStore :=
  sparesStore_bind (sparesStore_call _) fun _ =>
    sparesStore_bind (sparesStore_awaitState ..) fun _ => trivial

theorem sparesStore_bootFromVolume (provider : Provider) (serverId volumeId : String) :
    (provider.bootFromVolume serverId volumeId).SparesStore :=
  sparesStore_bind (sparesStore_call _) fun _ =>
    sparesStore_bind (sparesStore_awaitState ..) fun _ => trivial

end Provider

end

/-! ### Parts of steps -/

/-- The devices of the inventory are those of a report. -/
def SystemInfo.Reported (info : SystemInfo) : Prop :=
  ∃ text, Devices.ofLsblk text = .ok info.blockDevices

namespace Work

theorem gives_collectDisks (host : RemoteHost) (listBlockDevices : String) :
    (collectDisks host listBlockDevices).Gives fun devices =>
      ∃ text, Devices.ofLsblk text = .ok devices := by
  refine .bind (tame_remote _ _) fun report => ?_
  split
  · next devices hdevices => exact fun _ => leaves_pure ⟨report, hdevices⟩
  · exact gives_precondition (notMem_artefactComplaints (c := 'u') (by decide) (by decide))

theorem tame_collectNetwork (host : RemoteHost) : (collectNetwork host).Tame := by
  refine .bind (tame_tryRemote _ _ _ _) fun addresses => ?_
  refine .bind (tame_tryRemote _ _ _ _) fun routes => ?_
  cases addresses with
  | none => exact tame_pure _
  | some addresses => exact .bind (tame_orRecord _ _ _) fun _ => tame_pure _

theorem tame_collectHardware (host : RemoteHost) : (collectHardware host).Tame := by
  refine .bind (tame_tryRemote _ _ _ _) fun report => ?_
  cases report with
  | none => exact tame_pure _
  | some report =>
    dsimp only
    split
    · exact tame_pure _
    · exact .bind (tame_record _ _) fun _ => tame_pure _

theorem gives_takeInventory (host : RemoteHost) (listBlockDevices : String) :
    (takeInventory host listBlockDevices).Gives SystemInfo.Reported := by
  intro document
  refine (gives_collectDisks host listBlockDevices).leaves.bind fun devices hdevices => ?_
  refine .after (tame_collectNetwork _) fun network => .after (tame_collectHardware _) ?_
  exact fun hardware => leaves_pure hdevices

theorem tame_failOnErrors (command : String) : (failOnErrors command).Tame := by
  refine .bind tame_get fun progress => .bind (fun _ _ => ⟨rfl, trivial⟩) fun _ => ?_
  refine tame_ofExcept fun error h => ?_
  rw [StepErrors.toExcept] at h
  split at h
  · cases h
  · cases h
    exact id

theorem tame_partitionDisk (s : Source) (target : RemoteHost) (disk : String)
    (mapped : MappedDevice) : (partitionDisk s target disk mapped).Tame := by
  rw [partitionDisk]
  split
  · exact tame_pure _
  · refine .bind (tame_tryRemote _ _ _ _) fun dump => ?_
    cases dump with
    | none => exact tame_pure _
    | some dump => exact .bind (tame_tryRemote _ _ _ _) fun _ => tame_pure _

theorem tame_makeFilesystem (s : Source) (target : RemoteHost) (device : BlockDevice)
    (targetDevice : String) : (makeFilesystem s target device targetDevice).Tame := by
  rw [makeFilesystem]
  dsimp only
  split
  · exact tame_record _ _
  · split
    · exact .bind (tame_pure _) fun _ => .bind (tame_tryRemote _ _ _ _) fun _ => tame_pure _
    · refine .bind (tame_action (every_request trivial)) fun _ => ?_
      exact .bind (tame_pure _) fun _ => .bind (tame_tryRemote _ _ _ _) fun _ => tame_pure _

theorem tame_formatDisk (s : Source) (target : RemoteHost) (inventory : SystemInfo)
    (mapping : DeviceMapping) (disk : String) (mapped : MappedDevice) :
    (formatDisk s target inventory mapping disk mapped).Tame := by
  rw [formatDisk]
  split
  · exact tame_record _ _
  · exact tame_forM fun _ => tame_makeFilesystem _ _ _ _

theorem tame_copyFilesystem (s : Source) (target : RemoteHost) (entry : MountEntry) :
    (copyFilesystem s target entry).Tame := by
  refine .bind (tame_action (every_request trivial)) fun answer => ?_
  split
  · exact tame_pure _
  · split
    · split
      · exact tame_pure _
      · exact tame_record _ _
    · exact tame_record _ _

theorem gives_resolve (table : MountTable) (path : String) :
    (ofMapping (table.resolve path)).Gives (table.resolve path = .ok ·) := by
  -- A path is refused for what it is; only a device may be missing.
  refine gives_ofMapping fun error h => ?_
  unfold MountTable.resolve at h
  dsimp only at h
  split at h
  · cases h
    simp [CommandError.MissesArtefact]
  · split at h
    · cases h
      simp [CommandError.MissesArtefact]
    · cases h

theorem tame_adjustConfigFile (target : RemoteHost) (table : MountTable)
    (replacements : List Replacement) (file : String) :
    (adjustConfigFile target table replacements file).Tame := by
  refine .bind (tame_orRecord _ _ _) fun path => ?_
  cases path with
  | none => exact tame_pure _
  | some path => exact tame_forM fun _ => .bind (tame_tryRemote _ _ _ _) fun _ => tame_pure _

theorem tame_adjustInterface (s : Source) (target : RemoteHost) (table : MountTable)
    (nics : List NicInfo) (interface : NetworkInterface) :
    (adjustInterface s target table nics interface).Tame := by
  rw [adjustInterface]
  split
  · exact tame_pure _
  · dsimp only
    split
    · exact tame_pure _
    · exact tame_forM fun _ => tame_adjustConfigFile _ _ _ _

theorem tame_bindAll (target : RemoteHost) (mounted : List String) (binds : List BindMount) :
    (bindAll target mounted binds).Tame := by
  induction binds generalizing mounted with
  | nil => exact tame_pure _
  | cons bind binds ih =>
    refine .bind (tame_tryRemote _ _ _ _) fun answer => ?_
    cases answer with
    | none => exact tame_pure _
    | some answer => exact ih _

theorem tame_runInRoot (target : RemoteHost) (root : String) (commands : List String) :
    (runInRoot target root commands).Tame := by
  induction commands with
  | nil => exact tame_pure _
  | cons command commands ih =>
    refine .bind (tame_tryRemote _ _ _ _) fun answer => ?_
    cases answer with
    | none => exact tame_pure _
    | some answer => exact ih

theorem tame_unmountAll (target : RemoteHost) (paths : List String) :
    (unmountAll target paths).Tame :=
  tame_forM fun _ => .bind (tame_tryRemote _ _ _ _) fun _ => tame_pure _

end Work

/-! ### What the first steps leave behind -/

/-- The target is there with its metadata, and the inventory of the source has been taken. -/
def Source.Provisioned (s : Source) : Prop :=
  ∃ host metadata info, s.target.remoteHost = some host ∧ host.cloudMetadata = some metadata
    ∧ s.systemInfo = some info

/-- A mapping is recorded that fits the inventory of the source. -/
def Source.Paired (s : Source) : Prop :=
  ∃ mapping info, s.target.deviceMapping = some mapping ∧ s.systemInfo = some info
    ∧ mapping.Fits info.blockDevices

namespace Work

variable {s : Source}

theorem exists_targetHost (provisioned : s.Provisioned) (command : String) :
    ∃ host, targetHost s command = .ok host := by
  obtain ⟨host, -, -, hhost, -⟩ := provisioned
  exact ⟨host, by rw [targetHost, hhost]⟩

theorem exists_cloudMetadata (provisioned : s.Provisioned) (command : String) :
    ∃ metadata, cloudMetadata s command = .ok metadata := by
  obtain ⟨host, metadata, -, hhost, hmetadata, -⟩ := provisioned
  refine ⟨metadata, bind_eq_ok_iff.mpr ⟨host, by rw [targetHost, hhost], ?_⟩⟩
  rw [hmetadata]

theorem exists_recordedMetadata (provisioned : s.Provisioned) (command : String) :
    ∃ metadata, recordedMetadata s command = .ok metadata := by
  obtain ⟨host, metadata, -, hhost, hmetadata, -⟩ := provisioned
  exact ⟨metadata, by rw [recordedMetadata, hhost, Option.bind_some, hmetadata]⟩

theorem exists_sourceInventory (provisioned : s.Provisioned) (command : String) :
    ∃ info, sourceInventory s command = .ok info := by
  obtain ⟨-, -, info, -, -, hinfo⟩ := provisioned
  exact ⟨info, by rw [sourceInventory, hinfo]⟩

theorem exists_deviceMapping (paired : s.Paired) : ∃ mapping, deviceMapping s = .ok mapping := by
  obtain ⟨mapping, -, hmapping, -⟩ := paired
  exact ⟨mapping, by rw [deviceMapping, Target.recordedMapping, hmapping]; rfl⟩

theorem exists_mountTable (paired : s.Paired) (command : String) :
    ∃ table, mountTable s command = .ok table := by
  obtain ⟨mapping, info, hmapping, hinfo, fits⟩ := paired
  obtain ⟨table, htable⟩ := MountTable.exists_ofMapping_eq_ok fits
  refine ⟨table, bind_eq_ok_iff.mpr ⟨info, by rw [sourceInventory, hinfo], ?_⟩⟩
  refine bind_eq_ok_iff.mpr ⟨mapping, ?_, mapError_eq_ok_iff.mpr htable⟩
  rw [deviceMapping, Target.recordedMapping, hmapping]
  rfl

/-! ### Steps that leave the document alone -/

section

variable (s : Source)

theorem copyPartitionTables_leaves :
    copyPartitionTables.Leaves s (s.Provisioned ∧ s.Paired) (· = none) := by
  refine .source (.look (fun ready => exists_targetHost ready.1 _) fun target _ => ?_)
  refine .look (fun ready => exists_deviceMapping ready.2) fun mapping _ => ?_
  exact .after (tame_forM fun _ => tame_partitionDisk _ _ _ _) fun _ => leaves_pure rfl

theorem makeFilesystems_leaves :
    makeFilesystems.Leaves s (s.Provisioned ∧ s.Paired) (· = none) := by
  refine .source (.look (fun ready => exists_targetHost ready.1 _) fun target _ => ?_)
  refine .look (fun ready => exists_sourceInventory ready.1 _) fun inventory _ => ?_
  refine .look (fun ready => exists_deviceMapping ready.2) fun mapping _ => ?_
  exact .after (tame_forM fun _ => tame_formatDisk _ _ _ _ _ _) fun _ => leaves_pure rfl

theorem mountAll_leaves : mountAll.Leaves s (s.Provisioned ∧ s.Paired) (· = none) := by
  refine .source (.look (fun ready => exists_targetHost ready.1 _) fun target _ => ?_)
  refine .look (fun ready => exists_mountTable ready.2 _) fun table _ => ?_
  exact .after (tame_forM fun _ => .bind (tame_tryRemote _ _ _ _) fun _ => tame_pure _) fun _ =>
    leaves_pure rfl

theorem copyFilesystems_leaves (command : String) :
    (copyFilesystems command).Leaves s (s.Provisioned ∧ s.Paired) fun _ => True := by
  refine .source (.look (fun ready => exists_targetHost ready.1 _) fun target _ => ?_)
  refine .look (fun ready => exists_mountTable ready.2 _) fun table _ => ?_
  exact (tame_forM fun _ => tame_copyFilesystem _ _ _).leaves

theorem copyAndSleep_leaves :
    copyAndSleep.Leaves s (s.Provisioned ∧ s.Paired) (· = some .sleep) :=
  (copyFilesystems_leaves s "Sync").bind fun _ _ => leaves_pure rfl

theorem copyOnceMore_leaves : copyOnceMore.Leaves s (s.Provisioned ∧ s.Paired) (· = none) :=
  (copyFilesystems_leaves s "FinalSync").bind fun _ _ => leaves_pure rfl

theorem rewriteMounts_leaves : rewriteMounts.Leaves s (s.Provisioned ∧ s.Paired) (· = none) := by
  refine .source (.look (fun ready => exists_targetHost ready.1 _) fun target _ => ?_)
  refine .look (fun ready => exists_sourceInventory ready.1 _) fun inventory _ => ?_
  refine .look (fun ready => exists_deviceMapping ready.2) fun mapping _ => ?_
  refine .look (fun ready => exists_mountTable ready.2 _) fun table _ => ?_
  refine (gives_resolve _ _).leaves.bind fun path _ => .after (tame_remote _ _) fun fstab => ?_
  dsimp only
  split
  · exact leaves_pure rfl
  · exact .after (tame_remote _ _) fun _ => leaves_pure rfl

theorem rewriteAddresses_leaves :
    rewriteAddresses.Leaves s (s.Provisioned ∧ s.Paired) (· = none) := by
  refine .source (.look (fun ready => exists_targetHost ready.1 _) fun target _ => ?_)
  refine .look (fun ready => exists_cloudMetadata ready.1 _) fun metadata _ => ?_
  refine .look (fun ready => exists_sourceInventory ready.1 _) fun inventory _ => ?_
  refine .look (fun ready => exists_mountTable ready.2 _) fun table _ => ?_
  exact .after (tame_forM fun _ => tame_adjustInterface _ _ _ _ _) fun _ => leaves_pure rfl

theorem installBootloader_leaves :
    installBootloader.Leaves s (s.Provisioned ∧ s.Paired) (· = none) := by
  refine .source (.look (fun ready => exists_targetHost ready.1 _) fun target _ => ?_)
  refine .look (fun ready => exists_mountTable ready.2 _) fun table _ => ?_
  split
  · exact (gives_precondition (by decide)).leaves
  · exact (gives_precondition (by decide)).leaves
  · refine .after (tame_bindAll _ _ _) fun answer => ?_
    dsimp only
    split
    · refine .after (tame_runInRoot _ _ _) fun _ => ?_
      exact .after (tame_unmountAll _ _) fun _ => leaves_pure rfl
    · exact .after (tame_unmountAll _ _) fun _ => leaves_pure rfl

variable (provider : Provider)

theorem stopTarget_leaves :
    (stopTarget provider).Leaves s (s.Provisioned ∧ s.Paired) (· = none) := by
  refine .source (.look (fun ready => exists_cloudMetadata ready.1 _) fun metadata _ => ?_)
  exact .after (tame_cloud (Provider.sparesStore_stopTarget _ _)) fun _ => leaves_pure rfl

theorem startTarget_leaves :
    (startTarget provider).Leaves s (s.Provisioned ∧ s.Paired) (· = none) := by
  refine .source (.look (fun ready => exists_cloudMetadata ready.1 _) fun metadata _ => ?_)
  exact .after (tame_cloud (Provider.sparesStore_startTarget _ _)) fun _ => leaves_pure rfl

theorem configureBootDevice_leaves :
    (configureBootDevice provider).Leaves s (s.Provisioned ∧ s.Paired) (· = none) := by
  refine .source (.look (fun ready => exists_mountTable ready.2 _) fun table _ => ?_)
  split
  · exact (gives_precondition (by decide)).leaves
  · refine .look (fun ready => exists_cloudMetadata ready.1 _) fun metadata _ => ?_
    split
    · exact (gives_precondition
        (notMem_artefactComplaints (c := 'n') (by decide) (by decide))).leaves
    · exact .after (tame_cloud (Provider.sparesStore_bootFromVolume _ _ _)) fun _ =>
        leaves_pure rfl

end

end Work

/-! ### Hook scripts -/

theorem sparesStore_runScript (source : Source) (context : Json) (hook : HookSpec) :
    (runScript source context hook).SparesStore := by
  rw [runScript]
  split
  · trivial
  · refine ⟨trivial, fun answer => ?_⟩
    cases answer <;> trivial

/-- **Hook scripts spare the store.** -/
theorem sparesStore_runScripts (source : Source) (phase : HookPhase) (status : SourceStatus) :
    (runScripts source phase status).SparesStore := by
  have hscripts (context : Json) (hooks : List HookSpec) :
      (hooks.mapM (runScript source context)).SparesStore := by
    induction hooks with
    | nil => trivial
    | cons hook hooks ih =>
      rw [List.mapM_cons]
      exact (sparesStore_runScript source context hook).bind fun _ _ => ih.bind fun _ _ => trivial
  refine (hscripts _ _).bind fun results _ => ?_
  split <;> trivial

end ServerMigration
