import ServerMigration.Proofs.Mapping.Coverage
import ServerMigration.Proofs.Migration.Preparation

/-!
# Which filesystems are created

The disks of a target are prepared by commands that are given counterparts of the source's devices,
and so never by a command that is given the disk the target boots from.  If every device of the
source stands under its own name, every filesystem whose type has a template is created once, on the
counterpart of its device, whichever of the commands fail.

## Main definitions

* `formattings` : the filesystems that are to be created for a mapping.
* `CreatesOwn` : commands that create the filesystems of devices on their own counterparts.
* `Preparation` : how the disks of a target are prepared.

## Main results

* `map_fst_formattings_perm` : exactly the disks and partitions with a filesystem get one.
* `MigrationStep.createsOwn_of_perform` : the filesystems are created on their own counterparts.
* `Source.Identified.preparation` : how the disks of the target are prepared once the devices of the
  source have been identified.
-/

namespace ServerMigration

open Program DeviceMapping

variable {devices target : Devices} {mapping : DeviceMapping} {disk device : BlockDevice}
  {trace : SiteTrace} {told : StepErrors}

/-! ### Counterparts by name -/

namespace DeviceMapping

/-- The name of a counterpart that is found stands beside the name under which it is found. -/
theorem mem_namePairs_of_counterpart? {name : String} {mapped : MappedDevice}
    (h : mapping.counterpart? name = some mapped) : (name, mapped.id) ∈ namePairs mapping := by
  unfold counterpart? at h
  split at h
  · next hdisk =>
    cases h
    exact List.mem_flatMap.mpr ⟨_, Dict.mem_of_get? hdisk, List.mem_cons_self⟩
  · obtain ⟨disk, hdisk, hchild⟩ := List.exists_of_findSome?_eq_some h
    obtain ⟨entry, hentry, rfl⟩ := List.mem_map.mp hdisk
    exact List.mem_flatMap.mpr ⟨entry, hentry,
      List.mem_cons_of_mem _ (List.mem_map_of_mem (Dict.mem_of_get? hchild))⟩

/-- Every partition of a mapped disk has a counterpart. -/
theorem isSome_counterpart? (orderly : devices.Orderly)
    (h : ofDevices devices target = .ok mapping) (hdisk : disk ∈ devices.values)
    {partition : BlockDevice} (hpartition : partition ∈ Dict.values disk.children) :
    (mapping.counterpart? partition.name).isSome := by
  obtain ⟨placed, -, -, hentry⟩ := exists_mem_of_disk orderly.nodup_names h hdisk
  obtain ⟨index, -, hchild⟩ := get?_replica (orderly.children_of_mem hdisk).nodup_names
    (unnumbered_eq_nil h hdisk) placed.name (mem_partitions.mpr hpartition)
  unfold counterpart?
  split
  · rfl
  · refine List.findSome?_isSome_iff.mpr ⟨_, List.mem_map_of_mem hentry, ?_⟩
    rw [hchild]
    rfl

end DeviceMapping

/-! ### The filesystems of a mapping -/

/-- The filesystems that are to be created for a mapping, each with the device of the target. -/
def formattings (devices : Devices) (mapping : DeviceMapping) : List (BlockDevice × String) :=
  mapping.flatMap fun entry => (devices.get? entry.1).elim [] fun disk =>
    filesystemsOf disk entry.2.id mapping

theorem DiskFormatted.inTurn {s : Source} {host : RemoteHost} {entry : String × MappedDevice}
    (fits : mapping.Fits devices) (hentry : entry ∈ mapping)
    (formatted : DiskFormatted s host devices mapping entry trace told) :
    InTurn (FilesystemMade s host) ((devices.get? entry.1).elim [] fun disk =>
      filesystemsOf disk entry.2.id mapping) trace told := by
  obtain ⟨disk, hdisk, -⟩ := fits entry.1 entry.2 hentry
  rw [DiskFormatted, hdisk] at formatted
  rw [hdisk]
  exact formatted

/-- **The filesystems of a mapping are created in turn.** -/
theorem MigrationStep.inTurn_formattings {provider : Provider} {s : Source} {host : RemoteHost}
    {info : SystemInfo} {run : CommandRun Source} (identified : s.Identified info target mapping)
    (orderly : info.blockDevices.Orderly) (hhost : s.target.remoteHost = some host)
    (h : (createFilesystems.perform provider s).Yields trace run) :
    InTurn (FilesystemMade s host) (formattings info.blockDevices mapping) trace run.errors := by
  obtain ⟨told, -, hafter, parts⟩ := Work.runs_makeFilesystems hhost identified.inventory
    identified.recorded (runs_of_yields_perform h)
  obtain ⟨-, rfl⟩ := Progress.mk.inj hafter
  have fits := fits_of_ofDevices orderly identified.paired
  exact parts.flatMap fun entry hentry _ _ formatted => formatted.inTurn fits hentry

theorem map_fst_filesystemsOf {id : String}
    (h : ∀ partition ∈ disk.partitions, (mapping.counterpart? partition.name).isSome) :
    (filesystemsOf disk id mapping).map (·.1)
      = (disk :: disk.partitions).filter (·.fs.isSome) := by
  have hpartitions : (disk.partitions.filter (·.fs.isSome)).filterMap (fun partition =>
      ((mapping.counterpart? partition.name).map fun mapped => (partition, mapped.id)).map (·.1))
        = disk.partitions.filter (·.fs.isSome) := by
    conv_rhs => rw [← List.filterMap_some (l := disk.partitions.filter (·.fs.isSome))]
    refine List.filterMap_congr fun partition hmem => ?_
    have hsome := h partition (List.mem_filter.mp hmem).1
    obtain ⟨mapped, hmapped⟩ := Option.isSome_iff_exists.mp hsome
    rw [hmapped]
    rfl
  rw [filesystemsOf, List.map_append, List.map_filterMap, hpartitions, List.filter_cons]
  split <;> rfl

/-- **Exactly the disks and partitions with a filesystem get one.** -/
theorem map_fst_formattings_perm (orderly : devices.Orderly)
    (h : ofDevices devices target = .ok mapping) :
    ((formattings devices mapping).map (·.1)).Perm (devices.surface.filter (·.fs.isSome)) := by
  have hplaced : ∀ placed ∈ placedDisks devices target,
      ((devices.get? placed.1.name).elim [] fun disk =>
        filesystemsOf disk placed.2.name mapping).map (·.1)
          = (placed.1 :: placed.1.partitions).filter (·.fs.isSome) := by
    intro placed hmem
    have hdisk := mem_values_of_mem_placedDisks h hmem
    rw [orderly.get?_of_mem hdisk]
    exact map_fst_filesystemsOf fun partition hpartition =>
      isSome_counterpart? orderly h hdisk (mem_partitions.mp hpartition)
  have hperm := (mapping_perm orderly.nodup_names h).flatMap_right fun entry =>
    ((devices.get? entry.1).elim [] fun disk => filesystemsOf disk entry.2.id mapping).map (·.1)
  rw [replicas, List.flatMap_map] at hperm
  rw [formattings, List.map_flatMap]
  refine hperm.trans ?_
  have hdisks := ((surface_perm devices).filter (·.fs.isSome))
  rw [← map_fst_placedDisks h, List.flatMap_map, List.filter_flatMap] at hdisks
  exact (List.flatMap_congr hplaced) ▸ hdisks

theorem exists_mem_formattings_iff (orderly : devices.Orderly)
    (h : ofDevices devices target = .ok mapping) :
    (∃ id, (device, id) ∈ formattings devices mapping) ↔
      device ∈ devices.surface ∧ device.fs.isSome := by
  have hperm := map_fst_formattings_perm orderly h
  constructor
  · rintro ⟨id, hmem⟩
    exact List.mem_filter.mp (hperm.mem_iff.mp (List.mem_map_of_mem hmem))
  · intro hmem
    obtain ⟨made, hmade, rfl⟩ := List.mem_map.mp (hperm.mem_iff.mpr (List.mem_filter.mpr hmem))
    exact ⟨made.2, hmade⟩

/-- Every filesystem is created on the counterpart of its device. -/
theorem exists_counterpart?_of_mem_formattings (orderly : devices.Orderly)
    (h : ofDevices devices target = .ok mapping) {made : BlockDevice × String}
    (hmem : made ∈ formattings devices mapping) :
    ∃ mapped, mapping.counterpart? made.1.name = some mapped ∧ made.2 = mapped.id := by
  obtain ⟨entry, hentry, hmem⟩ := List.mem_flatMap.mp hmem
  obtain ⟨disk, hdisk, targetDisk, rfl⟩ := exists_disk_of_mem orderly.nodup_names h hentry
  rw [orderly.get?_of_mem hdisk] at hmem
  rcases List.mem_append.mp hmem with hown | hpartition
  · have sorted : Dict.Sorted mapping := mapping_eq h ▸ Dict.sorted_ofList _
    split at hown
    · rw [List.mem_singleton.mp hown]
      refine ⟨replica disk targetDisk, ?_, rfl⟩
      rw [counterpart?, sorted.get?_of_mem hentry]
    · exact absurd hown List.not_mem_nil
  · obtain ⟨partition, -, hmade⟩ := List.mem_filterMap.mp hpartition
    obtain ⟨mapped, hmapped, rfl⟩ := Option.map_eq_some_iff.mp hmade
    exact ⟨mapped, hmapped, rfl⟩

/-! ### The commands -/

/-- The command creates the filesystem of a device on a device of the target, with the template of
its type, its label, and its identifier if that is known. -/
def Creates (templates : CommandTemplates) (host : RemoteHost) (made : BlockDevice × String)
    (command : RemoteHost × String) : Prop :=
  ∃ template uuid, made.1.fs.bind templates.mkfsOf = some template
    ∧ (∀ known, made.1.uuid = some known → uuid = known)
    ∧ command = (host, mkfsCommand template uuid (made.1.label.getD "") made.2)

theorem FilesystemMade.exists_creates {s : Source} {host : RemoteHost}
    {made : BlockDevice × String} (part : FilesystemMade s host made trace told)
    (hfs : (made.1.fs.bind s.target.blueprint.commands.mkfsOf).isSome) :
    ∃ command, commandsRun trace = [command]
      ∧ Creates s.target.blueprint.commands host made command := by
  obtain ⟨template, htemplate⟩ := Option.isSome_iff_exists.mp hfs
  obtain ⟨fs, hsome, hfound⟩ := Option.bind_eq_some_iff.mp htemplate
  cases part with
  | unsupported unsupported =>
    rw [hsome, Option.getD_some, hfound] at unsupported
    cases unsupported
  | known found identified reply =>
    rw [hsome, Option.getD_some, hfound] at found
    cases found
    refine ⟨_, rfl, template, _, htemplate, fun known hknown => ?_, rfl⟩
    exact Option.some.inj (identified.symm.trans hknown)
  | fresh found unidentified uuid reply =>
    rw [hsome, Option.getD_some, hfound] at found
    cases found
    refine ⟨_, rfl, template, _, htemplate, fun known hknown => ?_, rfl⟩
    cases unidentified.symm.trans hknown

theorem FilesystemMade.commandsRun_eq_nil {s : Source} {host : RemoteHost}
    {made : BlockDevice × String} (part : FilesystemMade s host made trace told)
    (hfs : made.1.fs.isSome)
    (hnone : (made.1.fs.bind s.target.blueprint.commands.mkfsOf).isSome = false) :
    commandsRun trace = [] := by
  obtain ⟨fs, hsome⟩ := Option.isSome_iff_exists.mp hfs
  rw [hsome, Option.bind_some] at hnone
  cases part with
  | unsupported => rfl
  | known found | fresh found =>
    rw [hsome, Option.getD_some] at found
    rw [found] at hnone
    cases hnone

/-- The commands create the filesystems whose types have a template, each once and on the
counterpart of its device. -/
def CreatesOwn (templates : CommandTemplates) (host : RemoteHost) (devices : Devices)
    (mapping : DeviceMapping) (commands : List (RemoteHost × String)) : Prop :=
  ∃ formatted : List (BlockDevice × String),
    (formatted.map (·.1)).Perm
        (devices.surface.filter fun device => (device.fs.bind templates.mkfsOf).isSome)
      ∧ (formatted.map (·.1.name)).Nodup
      ∧ (∀ made ∈ formatted, (made.1.name, made.2) ∈ namePairs mapping)
      ∧ List.Forall₂ (Creates templates host) formatted commands

/-- **Whatever fails, every filesystem whose type has a template is created once, on the counterpart
of its device.** -/
theorem MigrationStep.createsOwn_of_perform {provider : Provider} {s : Source} {host : RemoteHost}
    {info : SystemInfo} {run : CommandRun Source} (identified : s.Identified info target mapping)
    (orderly : info.blockDevices.Orderly) (named : (info.blockDevices.tree.map (·.name)).Nodup)
    (hhost : s.target.remoteHost = some host)
    (h : (createFilesystems.perform provider s).Yields trace run) :
    CreatesOwn s.target.blueprint.commands host info.blockDevices mapping (commandsRun trace) := by
  have inTurn := inTurn_formattings identified orderly hhost h
  have hperm := map_fst_formattings_perm orderly identified.paired
  have hfs : ∀ made ∈ formattings info.blockDevices mapping, made.1.fs.isSome :=
    fun made hmem => ((exists_mem_formattings_iff orderly identified.paired).mp ⟨made.2, hmem⟩).2
  -- A type with a template is a type, so it makes no difference which is asked for first.
  have hsupported : ∀ device ∈ info.blockDevices.surface,
      ((device.fs.bind s.target.blueprint.commands.mkfsOf).isSome && device.fs.isSome)
        = (device.fs.bind s.target.blueprint.commands.mkfsOf).isSome := by
    intro device _
    cases device.fs with
    | none => rfl
    | some fs => exact Bool.and_true _
  have hformatted := hperm.filter fun device =>
    (device.fs.bind s.target.blueprint.commands.mkfsOf).isSome
  rw [List.filter_map, List.filter_filter, List.filter_congr hsupported] at hformatted
  refine ⟨_, hformatted, ?_, fun made hmem => ?_, ?_⟩
  · have hnames := hformatted.map (·.name)
    rw [List.map_map] at hnames
    exact hnames.nodup_iff.mpr ((nodup_surface named).sublist (List.filter_sublist.map _))
  · obtain ⟨mapped, hmapped, hid⟩ := exists_counterpart?_of_mem_formattings orderly
      identified.paired (List.mem_filter.mp hmem).1
    exact hid ▸ mem_namePairs_of_counterpart? hmapped
  · exact inTurn.forall₂_commandsRun (fun made _ _ _ part hsome => part.exists_creates hsome)
      fun made hmem _ _ part hnone => part.commandsRun_eq_nil (hfs made hmem) hnone

/-! ### The preparation of a target -/

/-- How the disks of a target are prepared, whichever commands fail. -/
structure Preparation (provider : Provider) (s : Source) (host : RemoteHost) (info : SystemInfo)
    (target : Devices) (mapping : DeviceMapping) : Prop where
  /-- The commands on the target prepare counterparts.  On the source, the partition tables of
  mapped disks are dumped. -/
  confined : ∀ step ∈ MigrationStep.preparing, ∀ trace run,
    (step.perform provider s).Yields trace run → ∀ command ∈ commandsRun trace,
      (command.1 = host ∧ ∃ mapped ∈ everyMapped mapping,
          Prepares s.target.blueprint.commands mapped.id step command.2)
        ∨ step = .createPartitions ∧ ∃ disk ∈ Dict.keys mapping,
          command = (s.remoteHost, dumpCommand s.target.blueprint.commands disk)
  /-- The counterparts are the disks that were unallocated, and partitions of these. -/
  placed : ∀ mapped ∈ everyMapped mapping, ∃ disk ∈ unallocated target,
    mapped.id = disk.name ∨ ∃ index, mapped.id = nthPartition disk.name index
  /-- A disk that is named neither like an unallocated one nor like a partition of one is no
  counterpart. -/
  spared : ∀ boot ∈ target.values,
    (∀ disk ∈ unallocated target,
      disk.name ≠ boot.name ∧ ∀ index, nthPartition disk.name index ≠ boot.name) →
    ∀ mapped ∈ everyMapped mapping, mapped.id ≠ boot.name
  /-- No name has two counterparts. -/
  single : ((namePairs mapping).map (·.1)).Nodup
  /-- The partition tables of all mapped disks are copied in turn. -/
  tables : ∀ trace run, (MigrationStep.createPartitions.perform provider s).Yields trace run →
    InTurn (TableCopied s host) mapping trace run.errors
  /-- Every filesystem is created once, on its own counterpart. -/
  filesystems : info.blockDevices.Orderly →
    ∀ trace run, (MigrationStep.createFilesystems.perform provider s).Yields trace run →
      CreatesOwn s.target.blueprint.commands host info.blockDevices mapping (commandsRun trace)
  /-- All filesystems of the mount table are mounted in turn. -/
  mounts : ∀ table, MountTable.ofMapping info.blockDevices mapping = .ok table →
    ∀ trace run, (MigrationStep.mountFilesystems.perform provider s).Yields trace run →
      InTurn (FilesystemMounted s host) (table.filter (·.targetMountpoint ≠ "")) trace run.errors

/-- **The disks of the target of an identified source are prepared on the counterparts of its
devices, and every filesystem on its own one, whichever commands fail.** -/
theorem Source.Identified.preparation (provider : Provider) {s : Source} {host : RemoteHost}
    {info : SystemInfo} (identified : s.Identified info target mapping)
    (named : (info.blockDevices.tree.map (·.name)).Nodup)
    (hhost : s.target.remoteHost = some host) :
    Preparation provider s host info target mapping where
  confined step hstep trace run h command hmem :=
    MigrationStep.prepares_of_perform identified hhost hstep h hmem
  placed mapped hmem := (onTarget_of_mem identified.paired hmem).placed
  spared boot _ apart mapped hmem hsame := by
    obtain ⟨disk, hdisk, hid | ⟨index, hid⟩⟩ := (onTarget_of_mem identified.paired hmem).placed
    · exact (apart disk hdisk).1 (hid.symm.trans hsame)
    · exact (apart disk hdisk).2 index (hid.symm.trans hsame)
  single := nodup_map_fst_namePairs named identified.paired
  tables trace run h := by
    obtain ⟨told, -, hafter, parts⟩ := Work.runs_copyPartitionTables hhost identified.recorded
      (MigrationStep.runs_of_yields_perform h)
    obtain ⟨-, rfl⟩ := Progress.mk.inj hafter
    exact parts
  filesystems orderly trace run h :=
    MigrationStep.createsOwn_of_perform identified orderly named hhost h
  mounts table htable trace run h := by
    have hlook := identified.mountTable_eq_ok htable "MountFilesystems"
    obtain ⟨told, -, hafter, parts⟩ :=
      Work.runs_mountAll hhost hlook (MigrationStep.runs_of_yields_perform h)
    obtain ⟨-, rfl⟩ := Progress.mk.inj hafter
    exact parts

/-- A source with these devices that has been paired with its target. -/
def identifiedSource (devices : Devices) (mapping : DeviceMapping) : Source :=
  { (default : Source) with
    remoteHost := { (default : RemoteHost) with systemInfo := some { blockDevices := devices } }
    target := { blueprint := {}, deviceMapping := some mapping, remoteHost := some default } }

theorem identified_identifiedSource (h : ofDevices devices target = .ok mapping) :
    (identifiedSource devices mapping).Identified { blockDevices := devices } target mapping :=
  ⟨rfl, rfl, h⟩

/-- A disk with a root filesystem and swap space. -/
def rootAndSwap : Devices :=
  [("sda", { blank "sda" 20 with children :=
    [("sda1", { blank "sda1" 16 with fs := "ext4", uuid := "0f3a", mountpoint := "/" }),
      ("sda2", { blank "sda2" 4 with fs := "swap", mountpoint := "[SWAP]" })] })]

/-- The disk that the target boots from, and one for `rootAndSwap`. -/
def bootAndEmpty : Devices :=
  [("vda", { blank "vda" 10 with fs := "ext4" }), ("vdb", blank "vdb" 20)]

/-- The counterparts of `rootAndSwap` on `bootAndEmpty`. -/
def rootAndSwapMapping : DeviceMapping :=
  [("sda", ⟨"vdb", "", [("sda1", ⟨"vdb1", mountDirectory (some "/") false, []⟩),
    ("sda2", ⟨"vdb2", "", []⟩)]⟩)]

/-- A root filesystem and swap space are prepared beside the disk that the target boots from. -/
theorem rootAndSwap_prepared :
    (identifiedSource rootAndSwap rootAndSwapMapping).Identified { blockDevices := rootAndSwap }
        bootAndEmpty rootAndSwapMapping
      ∧ (rootAndSwap.tree.map (·.name)).Nodup
      ∧ (identifiedSource rootAndSwap rootAndSwapMapping).target.remoteHost = some default
      ∧ Preparation {} (identifiedSource rootAndSwap rootAndSwapMapping) default
        { blockDevices := rootAndSwap } bootAndEmpty rootAndSwapMapping := by
  have hpaired : ofDevices rootAndSwap bootAndEmpty = .ok rootAndSwapMapping := by
    with_unfolding_all rfl
  have identified := identified_identifiedSource hpaired
  have named : (rootAndSwap.tree.map (·.name)).Nodup := by decide +kernel
  exact ⟨identified, named, rfl, identified.preparation {} named rfl⟩

/-- A disk with a filesystem that stands under the name of another one. -/
def misnamed : Devices :=
  [("sdb", { blank "sda" 20 with fs := "ext4" })]

/-- The counterpart of the disk of `misnamed`. -/
def misnamedMapping : DeviceMapping :=
  [("sda", ⟨"vdb", "", []⟩)]

/-- A disk with one partition. -/
def onePartition : Devices :=
  [("sda", { blank "sda" 20 with children := [("sda1", blank "sda1" 20)] })]

/-- An empty disk, and a disk in use that is named like a partition of it. -/
def lookalike : Devices :=
  [("vd", blank "vd" 20), ("vd1", { blank "vd1" 10 with fs := "ext4" })]

/-- The counterparts of `onePartition` on `lookalike`. -/
def lookalikeMapping : DeviceMapping :=
  [("sda", ⟨"vd", "", [("sda1", ⟨"vd1", "", []⟩)]⟩)]

/-- The filesystem of a device that stands under another name is not created, and a partition can
get the name of the disk that the target boots from. -/
theorem misnamed_not_prepared :
    (¬ ∀ (s : Source) (host : RemoteHost) (info : SystemInfo) (target : Devices)
        (mapping : DeviceMapping), s.Identified info target mapping →
        (info.blockDevices.tree.map (·.name)).Nodup → s.target.remoteHost = some host →
        ∀ trace run, (MigrationStep.createFilesystems.perform {} s).Yields trace run →
          CreatesOwn s.target.blueprint.commands host info.blockDevices mapping
            (commandsRun trace))
      ∧ ¬ ∀ (devices target : Devices) (mapping : DeviceMapping),
        (devices.tree.map (·.name)).Nodup → ofDevices devices target = .ok mapping →
        ∀ boot ∈ target.values, boot.isUnallocated = false →
          ∀ mapped ∈ everyMapped mapping, mapped.id ≠ boot.name := by
  constructor
  · intro h
    have hpaired : ofDevices misnamed bootAndEmpty = .ok misnamedMapping := by
      with_unfolding_all rfl
    have hruns : (MigrationStep.createFilesystems.perform {}
        (identifiedSource misnamed misnamedMapping)).Yields [] _ := .done _
    obtain ⟨formatted, hperm, -, -, hcommands⟩ := h _ _ _ _ _ (identified_identifiedSource hpaired)
      (by decide +kernel) rfl _ _ hruns
    -- No command is run, but the disk has a filesystem whose type has a template.
    cases List.forall₂_nil_right_iff.mp hcommands
    exact absurd hperm.length_eq (by decide +kernel)
  · intro h
    have hpaired : ofDevices onePartition lookalike = .ok lookalikeMapping := by
      with_unfolding_all rfl
    have hboot : { blank "vd1" 10 with fs := "ext4" } ∈ Dict.values lookalike := by
      simp [lookalike, Dict.values]
    have hpartition : (⟨"vd1", "", []⟩ : MappedDevice) ∈ everyMapped lookalikeMapping := by
      simp [everyMapped, lookalikeMapping]
    exact h _ _ _ (by decide +kernel) hpaired _ hboot rfl _ hpartition rfl

end ServerMigration
