import ServerMigration.Proofs.Mapping.Counterparts
import ServerMigration.Proofs.Migration.Parts

/-!
# Preparing the disks of the target

Three steps prepare the disks of the target: one copies the partition tables, one creates the
filesystems and one mounts them.  Each of them does its parts in turn, and whatever fails, the
commands that it runs on the target are given counterparts of the source's devices only.

## Main definitions

* `Source.Identified` : a source whose devices have been paired with those of its target.
* `TableCopied`, `FilesystemMade`, `DiskFormatted`, `FilesystemMounted` : the parts of the steps.
* `Prepares` : a command of one of the steps that is given some device of the target.

## Main results

* `Work.runs_copyPartitionTables`, `Work.runs_makeFilesystems`, `Work.runs_mountAll` : the steps do
  their parts in turn.
* `MigrationStep.prepares_of_perform` : the commands that they run on the target prepare
  counterparts.
-/

namespace ServerMigration

open Program DeviceMapping

/-- The devices of the source have been inventoried and paired with those that the target had at
that time, and the mapping is recorded. -/
structure Source.Identified (s : Source) (info : SystemInfo) (target : Devices)
    (mapping : DeviceMapping) : Prop where
  inventory : s.systemInfo = some info
  recorded : s.target.deviceMapping = some mapping
  paired : ofDevices info.blockDevices target = .ok mapping

/-! ### The parts of the steps -/

section

variable (s : Source) (target : RemoteHost)

/-- The partition table of a disk is dumped on the source and applied to the counterpart, if the
counterpart has partitions. -/
inductive TableCopied : String × MappedDevice → SiteTrace → StepErrors → Prop
  | bare {disk : String} {mapped : MappedDevice} (h : mapped.children.isEmpty) :
      TableCopied (disk, mapped) [] []
  | undumped {disk : String} {mapped : MappedDevice} (h : mapped.children.isEmpty = false)
      (error : RemoteError) :
      TableCopied (disk, mapped)
        [⟨.remote s.remoteHost (dumpCommand s.target.blueprint.commands disk) {}, .error error⟩]
        (Work.complaint s!"dump partitions of {disk}" (.error error))
  | applied {disk : String} {mapped : MappedDevice} (h : mapped.children.isEmpty = false)
      (dump : String) (reply : Except RemoteError String) :
      TableCopied (disk, mapped)
        [⟨.remote s.remoteHost (dumpCommand s.target.blueprint.commands disk) {}, .ok dump⟩,
          ⟨.remote target (applyCommand s.target.blueprint.commands
            (retargetPartitionTable dump disk mapped.id) mapped.id) {}, reply⟩]
        (Work.complaint s!"partition {mapped.id}" reply)

/-- The failure of a device whose filesystem has a type without a template. -/
def unsupportedOn (id : String) (device : BlockDevice) : String :=
  s!"create filesystem on {id}: "
    ++ ("unsupported filesystem '" ++ device.fs.getD "" ++ "' on " ++ device.name)

/-- What creating the filesystem of a device is called. -/
def creationOn (id : String) (device : BlockDevice) : String :=
  let fs := device.fs.getD ""
  s!"create {fs} on {id}"

/-- A filesystem is created with the template of its type, under its identifier if that is known. -/
inductive FilesystemMade : BlockDevice × String → SiteTrace → StepErrors → Prop
  | unsupported {device : BlockDevice} {id : String}
      (h : s.target.blueprint.commands.mkfsOf (device.fs.getD "") = none) :
      FilesystemMade (device, id) [] [unsupportedOn id device]
  | known {device : BlockDevice} {id template uuid : String}
      (h : s.target.blueprint.commands.mkfsOf (device.fs.getD "") = some template)
      (identified : device.uuid = some uuid) (reply : Except RemoteError String) :
      FilesystemMade (device, id)
        [⟨.remote target (mkfsCommand template uuid (device.label.getD "") id) {}, reply⟩]
        (Work.complaint (creationOn id device) reply)
  | fresh {device : BlockDevice} {id template : String}
      (h : s.target.blueprint.commands.mkfsOf (device.fs.getD "") = some template)
      (unidentified : device.uuid = none) (uuid : Uuid) (reply : Except RemoteError String) :
      FilesystemMade (device, id)
        [⟨.freshId, uuid⟩,
          ⟨.remote target (mkfsCommand template uuid.text (device.label.getD "") id) {}, reply⟩]
        (Work.complaint (creationOn id device) reply)

/-- The filesystems of a mapped disk are created in turn, if it stands in the inventory. -/
def DiskFormatted (devices : Devices) (mapping : DeviceMapping) (entry : String × MappedDevice)
    (trace : SiteTrace) (told : StepErrors) : Prop :=
  match devices.get? entry.1 with
  | none => trace = [] ∧ told = [s!"{entry.1}: " ++ "missing from source inventory"]
  | some disk => InTurn (FilesystemMade s target) (filesystemsOf disk entry.2.id mapping) trace told

/-- A filesystem is mounted. -/
def FilesystemMounted (entry : MountEntry) (trace : SiteTrace) (told : StepErrors) : Prop :=
  ∃ reply, trace
      = [⟨.remote target (mountCommand s.target.blueprint.commands.mount entry) {}, reply⟩]
    ∧ told = Work.complaint s!"mount {entry.targetDevice} at {entry.targetMountpoint}" reply

end

namespace Work

section

variable (s : Source) (target : RemoteHost)

theorem partitionDisk_does (disk : String) (mapped : MappedDevice) :
    (partitionDisk s target disk mapped).Does fun _ => TableCopied s target (disk, mapped) := by
  rw [partitionDisk]
  split
  · next hbare => exact does_pure (.bare hbare)
  · next hchildren =>
    have hchildren := eq_false_of_ne_true hchildren
    refine (does_tryRemote _ _ _).bind ?_
    rintro output first toldFirst ⟨reply, rfl, rfl, rfl⟩
    cases reply with
    | error error => exact does_pure (.undumped hchildren error)
    | ok dump =>
      refine (does_tryRemote _ _ _).bind ?_
      rintro _ second toldSecond ⟨reply, rfl, -, rfl⟩
      refine does_pure ?_
      rw [List.append_nil, List.append_nil]
      exact .applied hchildren dump reply

theorem makeFilesystem_does (device : BlockDevice) (id : String) :
    (makeFilesystem s target device id).Does fun _ => FilesystemMade s target (device, id) := by
  rw [makeFilesystem]
  dsimp only
  split
  · next h =>
    refine (does_record _ _).mono ?_
    rintro _ _ _ ⟨rfl, rfl⟩
    exact .unsupported h
  · next template h =>
    split
    · next uuid huuid =>
      refine (does_pure (Q := fun a trace told => a = uuid ∧ trace = [] ∧ told = [])
        ⟨rfl, rfl, rfl⟩).bind ?_
      rintro _ _ _ ⟨rfl, rfl, rfl⟩
      refine (does_tryRemote _ _ _).bind ?_
      rintro _ _ _ ⟨reply, rfl, -, rfl⟩
      refine does_pure ?_
      simp only [List.append_nil, List.nil_append]
      exact .known h huuid reply
    · next huuid =>
      refine (does_request _).bind ?_
      rintro uuid _ _ ⟨rfl, rfl⟩
      refine (does_tryRemote _ _ _).bind ?_
      rintro _ _ _ ⟨reply, rfl, -, rfl⟩
      refine does_pure ?_
      simp only [List.append_nil, List.nil_append]
      exact .fresh h huuid uuid reply

theorem formatDisk_does (inventory : SystemInfo) (mapping : DeviceMapping)
    (entry : String × MappedDevice) :
    (formatDisk s target inventory mapping entry.1 entry.2).Does fun _ =>
      DiskFormatted s target inventory.blockDevices mapping entry := by
  rw [formatDisk]
  split
  · next h =>
    refine (does_record _ _).mono fun _ trace told htold => ?_
    rw [DiskFormatted, h]
    exact htold
  · next disk h =>
    refine (Does.forM fun _ => makeFilesystem_does s target _ _).mono fun _ trace told parts => ?_
    rw [DiskFormatted, h]
    exact parts

end

/-! ### The steps -/

section

variable {s : Source} {host : RemoteHost} {info : SystemInfo} {mapping : DeviceMapping}
  {errors : StepErrors} {trace : SiteTrace} {result : Except CommandError (Option Signal)}
  {after : Progress}

/-- Work that looks at its document, finds what it needs and then does its parts in turn. -/
theorem runs_parts {α : Type} {elements : List α} {f : α → Work Unit}
    {Part : α → SiteTrace → StepErrors → Prop} (does : ∀ a, (f a).Does fun _ => Part a)
    (h : Runs (do elements.forM f; return (none : Option Signal)) ⟨s, errors⟩ trace result after) :
    ∃ told, result = .ok none ∧ after = ⟨s, errors ++ told⟩ ∧ InTurn Part elements trace told := by
  have hdoes : (do elements.forM f; return (none : Option Signal) : Work (Option Signal)).Does
      fun signal trace told => signal = none ∧ InTurn Part elements trace told := by
    refine (Does.forM does).bind fun _ first toldFirst parts => does_pure ?_
    rw [List.append_nil, List.append_nil]
    exact ⟨rfl, parts⟩
  obtain ⟨_, told, hresult, hafter, rfl, parts⟩ := hdoes s errors trace result after h
  exact ⟨told, hresult, hafter, parts⟩

theorem deviceMapping_eq_ok (hmapping : s.target.deviceMapping = some mapping) :
    deviceMapping s = .ok mapping := by
  rw [deviceMapping, Target.recordedMapping, hmapping]
  rfl

/-- **The partition tables are copied in turn.** -/
theorem runs_copyPartitionTables (hhost : s.target.remoteHost = some host)
    (hmapping : s.target.deviceMapping = some mapping)
    (h : Runs copyPartitionTables ⟨s, errors⟩ trace result after) :
    ∃ told, result = .ok none ∧ after = ⟨s, errors ++ told⟩
      ∧ InTurn (TableCopied s host) mapping trace told := by
  rw [copyPartitionTables, runs_source_bind_iff, targetHost_eq_ok_iff.mpr hhost, runs_look_iff,
    deviceMapping_eq_ok hmapping, runs_look_iff] at h
  exact runs_parts (fun entry => partitionDisk_does s host entry.1 entry.2) h

/-- **The filesystems are created in turn.** -/
theorem runs_makeFilesystems (hhost : s.target.remoteHost = some host)
    (hinfo : s.systemInfo = some info) (hmapping : s.target.deviceMapping = some mapping)
    (h : Runs makeFilesystems ⟨s, errors⟩ trace result after) :
    ∃ told, result = .ok none ∧ after = ⟨s, errors ++ told⟩
      ∧ InTurn (DiskFormatted s host info.blockDevices mapping) mapping trace told := by
  rw [makeFilesystems, runs_source_bind_iff, targetHost_eq_ok_iff.mpr hhost, runs_look_iff,
    sourceInventory_eq_ok_iff.mpr hinfo, runs_look_iff, deviceMapping_eq_ok hmapping,
    runs_look_iff] at h
  exact runs_parts (formatDisk_does s host info mapping) h

/-- **The filesystems of the mount table are mounted in turn.** -/
theorem runs_mountAll {table : MountTable} (hhost : s.target.remoteHost = some host)
    (htable : mountTable s "MountFilesystems" = .ok table)
    (h : Runs mountAll ⟨s, errors⟩ trace result after) :
    ∃ told, result = .ok none ∧ after = ⟨s, errors ++ told⟩
      ∧ InTurn (FilesystemMounted s host) (table.filter (·.targetMountpoint ≠ "")) trace told := by
  rw [mountAll, runs_source_bind_iff, targetHost_eq_ok_iff.mpr hhost, runs_look_iff, htable,
    runs_look_iff] at h
  refine runs_parts (fun entry => (does_tryRemote _ _ _).bind ?_) h
  rintro _ _ _ ⟨reply, rfl, -, rfl⟩
  refine does_pure ?_
  rw [List.append_nil, List.append_nil]
  exact ⟨reply, rfl, rfl⟩

end

end Work

/-- The mount table that a step of an identified source finds. -/
theorem Source.Identified.mountTable_eq_ok {s : Source} {info : SystemInfo} {target : Devices}
    {mapping : DeviceMapping} {table : MountTable} (identified : s.Identified info target mapping)
    (htable : MountTable.ofMapping info.blockDevices mapping = .ok table) (command : String) :
    Work.mountTable s command = .ok table :=
  bind_eq_ok_iff.mpr ⟨info, Work.sourceInventory_eq_ok_iff.mpr identified.inventory,
    bind_eq_ok_iff.mpr ⟨mapping, Work.deviceMapping_eq_ok identified.recorded,
      mapError_eq_ok_iff.mpr htable⟩⟩

/-! ### Commands on the target -/

/-- The command belongs to a step that prepares the disks of the target, and what it prepares is
this device. -/
inductive Prepares (templates : CommandTemplates) (id : String) : MigrationStep → String → Prop
  | partition (layout : String) :
      Prepares templates id .createPartitions (applyCommand templates layout id)
  | format {fs template : String} (h : templates.mkfsOf fs = some template) (uuid label : String) :
      Prepares templates id .createFilesystems (mkfsCommand template uuid label id)
  | mount {entry : MountEntry} (h : entry.targetDevice = id) :
      Prepares templates id .mountFilesystems (mountCommand templates.mount entry)

/-- The steps that prepare the disks of the target. -/
def MigrationStep.preparing : List MigrationStep :=
  [createPartitions, createFilesystems, mountFilesystems]

section

variable {s : Source} {host : RemoteHost} {info : SystemInfo} {target devices : Devices}
  {mapping : DeviceMapping} {trace : SiteTrace} {told : StepErrors}
  {command : RemoteHost × String}

theorem TableCopied.prepares {entry : String × MappedDevice}
    (copied : TableCopied s host entry trace told) (h : command ∈ commandsRun trace) :
    command = (s.remoteHost, dumpCommand s.target.blueprint.commands entry.1)
      ∨ command.1 = host
        ∧ Prepares s.target.blueprint.commands entry.2.id .createPartitions command.2 := by
  cases copied with
  | bare => exact absurd h List.not_mem_nil
  | undumped => exact .inl (List.mem_singleton.mp h)
  | applied =>
    rcases List.mem_cons.mp h with rfl | h
    · exact .inl rfl
    · rw [List.mem_singleton.mp h]
      exact .inr ⟨rfl, .partition _⟩

theorem FilesystemMade.prepares {made : BlockDevice × String}
    (part : FilesystemMade s host made trace told) (h : command ∈ commandsRun trace) :
    command.1 = host
      ∧ Prepares s.target.blueprint.commands made.2 .createFilesystems command.2 := by
  cases part with
  | unsupported => exact absurd h List.not_mem_nil
  | known template =>
    rw [List.mem_singleton.mp h]
    exact ⟨rfl, .format template _ _⟩
  | fresh template =>
    rw [List.mem_singleton.mp h]
    exact ⟨rfl, .format template _ _⟩

theorem FilesystemMounted.prepares {entry : MountEntry}
    (mounted : FilesystemMounted s host entry trace told) (h : command ∈ commandsRun trace) :
    command.1 = host
      ∧ Prepares s.target.blueprint.commands entry.targetDevice .mountFilesystems command.2 := by
  obtain ⟨reply, rfl, -⟩ := mounted
  rw [List.mem_singleton.mp h]
  exact ⟨rfl, .mount rfl⟩

/-- A filesystem is only created on a counterpart. -/
theorem exists_mapped_of_mem_filesystemsOf {disk : BlockDevice} {entry : String × MappedDevice}
    {made : BlockDevice × String} (hentry : entry ∈ mapping)
    (h : made ∈ filesystemsOf disk entry.2.id mapping) :
    ∃ mapped ∈ everyMapped mapping, made.2 = mapped.id := by
  rcases List.mem_append.mp h with h | h
  · split at h
    · rw [List.mem_singleton.mp h]
      exact ⟨entry.2, mem_everyMapped_of_mem hentry, rfl⟩
    · exact absurd h List.not_mem_nil
  · obtain ⟨partition, -, hmade⟩ := List.mem_filterMap.mp h
    obtain ⟨mapped, hmapped, rfl⟩ := Option.map_eq_some_iff.mp hmade
    exact ⟨mapped, mem_everyMapped_of_counterpart? hmapped, rfl⟩

theorem DiskFormatted.prepares {entry : String × MappedDevice} (hentry : entry ∈ mapping)
    (formatted : DiskFormatted s host devices mapping entry trace told)
    (h : command ∈ commandsRun trace) :
    command.1 = host ∧ ∃ mapped ∈ everyMapped mapping,
      Prepares s.target.blueprint.commands mapped.id .createFilesystems command.2 := by
  unfold DiskFormatted at formatted
  split at formatted
  · rw [formatted.1] at h
    exact absurd h List.not_mem_nil
  · obtain ⟨made, hmade, first, told, part, hfirst⟩ := formatted.exists_of_mem_commandsRun h
    obtain ⟨mapped, hmapped, hid⟩ := exists_mapped_of_mem_filesystemsOf hentry hmade
    obtain ⟨hhost, hprepares⟩ := part.prepares hfirst
    exact ⟨hhost, mapped, hmapped, hid ▸ hprepares⟩

/-- **Whatever fails, the steps that prepare the disks of the target prepare counterparts.**  Their
only commands on the source dump the partition tables of mapped disks. -/
theorem MigrationStep.prepares_of_perform {provider : Provider} {step : MigrationStep}
    {run : CommandRun Source} (identified : s.Identified info target mapping)
    (hhost : s.target.remoteHost = some host) (hstep : step ∈ preparing)
    (h : (step.perform provider s).Yields trace run) (hmem : command ∈ commandsRun trace) :
    (command.1 = host ∧ ∃ mapped ∈ everyMapped mapping,
        Prepares s.target.blueprint.commands mapped.id step command.2)
      ∨ step = .createPartitions ∧ ∃ disk ∈ Dict.keys mapping,
        command = (s.remoteHost, dumpCommand s.target.blueprint.commands disk) := by
  have hruns := runs_of_yields_perform h
  simp only [preparing, List.mem_cons, List.not_mem_nil, or_false] at hstep
  rcases hstep with rfl | rfl | rfl
  · obtain ⟨told, -, -, parts⟩ :=
      Work.runs_copyPartitionTables hhost identified.recorded hruns
    obtain ⟨entry, hentry, first, _, copied, hfirst⟩ := parts.exists_of_mem_commandsRun hmem
    rcases copied.prepares hfirst with hdump | ⟨htarget, hprepares⟩
    · exact .inr ⟨rfl, entry.1, List.mem_map_of_mem hentry, hdump⟩
    · exact .inl ⟨htarget, entry.2, mem_everyMapped_of_mem hentry, hprepares⟩
  · obtain ⟨told, -, -, parts⟩ := Work.runs_makeFilesystems hhost identified.inventory
      identified.recorded hruns
    obtain ⟨entry, hentry, first, _, formatted, hfirst⟩ := parts.exists_of_mem_commandsRun hmem
    exact .inl (formatted.prepares hentry hfirst)
  · cases htable : Work.mountTable s "MountFilesystems" with
    | error error =>
      -- Without a table the step ends before it asks anything.
      have hruns : Runs Work.mountAll ⟨s, []⟩ trace run.outcome ⟨run.entity, run.errors⟩ := hruns
      rw [Work.mountAll, Work.runs_source_bind_iff, Work.targetHost_eq_ok_iff.mpr hhost,
        Work.runs_look_iff, htable] at hruns
      rw [Work.trace_eq_nil_of_runs_missing hruns] at hmem
      exact absurd hmem List.not_mem_nil
    | ok table =>
      obtain ⟨told, -, -, parts⟩ := Work.runs_mountAll hhost htable hruns
      obtain ⟨entry, hentry, first, _, mounted, hfirst⟩ := parts.exists_of_mem_commandsRun hmem
      obtain ⟨found, hfound, htable⟩ := bind_eq_ok_iff.mp htable
      obtain ⟨recorded, hrecorded, htable⟩ := bind_eq_ok_iff.mp htable
      cases (Work.deviceMapping_eq_ok identified.recorded).symm.trans hrecorded
      obtain ⟨mapped, hmapped, -, hdevice, -⟩ := MountTable.exists_mapped_of_mem
        (mapError_eq_ok_iff.mp htable) (List.mem_filter.mp hentry).1
      obtain ⟨htarget, hprepares⟩ := mounted.prepares hfirst
      exact .inl ⟨htarget, mapped, hmapped, hdevice ▸ hprepares⟩

end

end ServerMigration
