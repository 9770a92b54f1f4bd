import Mathlib
import ServerMigration.Proofs.Mapping.Fitting
import ServerMigration.Proofs.Mapping.Replica

/-!
# What the mount table covers

The mount table of a pairing lists the disks and the partitions that are mounted, each with its
mount directory.  Devices below a partition, such as logical volumes, have no counterpart, and so
they are not listed.

## Main definitions

* `MountEntry.Describes` : an entry is that of a mounted device.
* `MountTable.Tabulates` : some entries are those of the mounted ones among some devices, one for
  each of them.
* `MountTable.Lists` : the same without the number of the entries.

## Main results

* `MountTable.exists_tabulates_surface` : the table has one entry for every mounted disk and
  partition.
* `MountTable.covered_iff` : a mounted device on any level is covered by the table if a disk or a
  partition is mounted at the same place.
-/

namespace ServerMigration

/-- The entry is that of a mounted device, with its mount directory on the target. -/
structure MountEntry.Describes (entry : MountEntry) (device : BlockDevice) : Prop where
  named : entry.sourceDevice = device.name
  mounted : device.mountPath? = some entry.sourceMountpoint
  directory : entry.targetMountpoint = mountDirectory (some entry.sourceMountpoint) false
  content : entry.fs = device.fs ∧ entry.uuid = device.uuid ∧ entry.label = device.label

namespace Devices.Orderly

variable {devices : Devices}

/-- The names of orderly devices differ. -/
theorem nodup_names (orderly : Orderly devices) : (devices.values.map (·.name)).Nodup := by
  obtain ⟨sorted, named, -⟩ := orderly
  have hkeys : devices.values.map (·.name) = devices.map (·.1) := by
    rw [Dict.values, List.map_map]
    exact List.map_congr_left fun entry hmem => (named entry hmem).symm
  rw [hkeys]
  refine List.pairwise_map.mpr (sorted.imp fun {a b} hlt hsame => ?_)
  exact String.lt_irrefl b.1 (hsame ▸ hlt)

end Devices.Orderly

namespace MountTable

open DeviceMapping

variable {devices target : Devices} {mapping : DeviceMapping} {disk device : BlockDevice}
  {mapped : MappedDevice} {entry : MountEntry} {entries : List MountEntry} {table : MountTable}

/-! ### The entry of a device -/

theorem isMounted_iff (mounted : MountedLike device mapped) :
    mapped.isMounted ↔ device.mountPath?.isSome := by
  rw [← mounted.1, MappedDevice.isMounted, decide_eq_true_iff]

/-- The entry of a device describes it, if the counterpart is mounted like the device. -/
theorem describes_entryOf (mounted : MountedLike device mapped) (h : mapped.isMounted)
    (disk : BlockDevice) (mappedDisk : MappedDevice) :
    (entryOf disk device mappedDisk mapped).Describes device := by
  obtain ⟨path, hpath⟩ := Option.isSome_iff_exists.mp ((isMounted_iff mounted).mp h)
  have hmountpoint : (entryOf disk device mappedDisk mapped).sourceMountpoint = path := by
    rw [entryOf, hpath, Option.getD_some]
  refine ⟨rfl, ?_, ?_, rfl, rfl, rfl⟩
  · rw [hmountpoint, hpath]
  · rw [hmountpoint]
    exact mounted.2 path hpath

/-! ### Entries of mounted devices -/

/-- The entries are those of the mounted ones among the devices, one for each of them. -/
def Tabulates (entries : List MountEntry) (devices : List BlockDevice) : Prop :=
  ∃ listed, List.Forall₂ MountEntry.Describes entries listed
    ∧ listed.Perm (devices.filter (·.mountPath?.isSome))

/-- The entries are those of the mounted ones among the devices. -/
structure Lists (entries : List MountEntry) (devices : List BlockDevice) : Prop where
  sound : ∀ entry ∈ entries, ∃ device ∈ devices, entry.Describes device
  complete : ∀ device ∈ devices, device.mountPath?.isSome →
    ∃ entry ∈ entries, entry.Describes device

namespace Tabulates

variable {more : List MountEntry} {listed others : List BlockDevice}

theorem nil : Tabulates [] [] := ⟨[], .nil, .refl _⟩

theorem append (first : Tabulates entries listed) (second : Tabulates more others) :
    Tabulates (entries ++ more) (listed ++ others) := by
  obtain ⟨described, hfirst, hperm⟩ := first
  obtain ⟨described', hsecond, hperm'⟩ := second
  refine ⟨described ++ described', List.rel_append hfirst hsecond, ?_⟩
  rw [List.filter_append]
  exact hperm.append hperm'

/-- Neither the order of the entries nor that of the devices matters. -/
theorem perm (tabulates : Tabulates entries listed) (hentries : more.Perm entries)
    (hdevices : listed.Perm others) : Tabulates more others := by
  obtain ⟨described, hdescribed, hperm⟩ := tabulates
  obtain ⟨described', hdescribed', hperm'⟩ := List.perm_comp_forall₂ hentries hdescribed
  exact ⟨described', hdescribed', hperm'.trans (hperm.trans (hdevices.filter _))⟩

/-- Tables of parts, one behind the other. -/
theorem flatten {α : Type} {devicesOf : α → List BlockDevice} {parts : List α}
    {tables : List (List MountEntry)}
    (h : List.Forall₂ (fun part table => Tabulates table (devicesOf part)) parts tables) :
    Tabulates tables.flatten (parts.flatMap devicesOf) := by
  induction h with
  | nil => exact nil
  | cons hpart _ ih =>
    rw [List.flatten_cons, List.flatMap_cons]
    exact hpart.append ih

theorem lists (tabulates : Tabulates entries listed) : Lists entries listed := by
  obtain ⟨described, hdescribed, hperm⟩ := tabulates
  have hsound : ∀ entry ∈ entries, ∃ device ∈ described, entry.Describes device := by
    clear hperm
    induction hdescribed with
    | nil => simp
    | cons hfirst _ ih => simpa [hfirst] using fun entry hmem => .inr (ih entry hmem)
  have hcomplete : ∀ device ∈ described, ∃ entry ∈ entries, entry.Describes device := by
    clear hperm hsound
    induction hdescribed with
    | nil => simp
    | cons hfirst _ ih => simpa [hfirst] using fun device hmem => .inr (ih device hmem)
  refine ⟨fun entry hentry => ?_, fun device hdevice hpath => ?_⟩
  · obtain ⟨device, hdevice, hdescribes⟩ := hsound entry hentry
    exact ⟨device, (List.mem_filter.mp (hperm.mem_iff.mp hdevice)).1, hdescribes⟩
  · exact hcomplete device (hperm.mem_iff.mpr (List.mem_filter.mpr ⟨hdevice, hpath⟩))

end Tabulates

/-! ### The entries of a disk -/

/-- A device has an entry of its own if it is mounted. -/
theorem tabulates_singleton (mounted : MountedLike device mapped) (disk : BlockDevice)
    (mappedDisk : MappedDevice) :
    Tabulates (if mapped.isMounted then [entryOf disk device mappedDisk mapped] else [])
      [device] := by
  split
  · next h =>
    have hpath := (isMounted_iff mounted).mp h
    exact ⟨[device], .cons (describes_entryOf mounted h disk mappedDisk) .nil, by simp [hpath]⟩
  · next h =>
    have hpath := mt (isMounted_iff mounted).mpr h
    exact ⟨[], .nil, by simp [hpath]⟩

/-- The entry of a partition whose counterpart is given. -/
def childEntry (disk : BlockDevice) (mappedDisk : MappedDevice)
    (child : String × MappedDevice) : Except MappingError MountEntry := do
  return entryOf disk (← lookUp disk.children child.1 "partition") mappedDisk child.2

/-- Every partition that has a number has a counterpart on the target disk. -/
theorem forall₂_mappedPartitions {partitions : List BlockDevice}
    (numbered : unnumbered partitions = []) (targetDisk : String) :
    List.Forall₂ (fun partition child => child.1 = partition.name ∧ MountedLike partition child.2)
      partitions (mappedPartitions targetDisk partitions) := by
  induction partitions with
  | nil => exact .nil
  | cons partition partitions ih =>
    have hnumber := List.filter_eq_nil_iff.mp numbered
    obtain ⟨hfirst, hrest⟩ := List.forall_mem_cons.mp hnumber
    rw [mappedPartitions, List.filterMap_cons]
    cases hindex : partitionNumber? partition.name with
    | none => simp [hindex] at hfirst
    | some index =>
      exact .cons ⟨rfl, mountedLike_of_mountpoint rfl⟩ (ih (List.filter_eq_nil_iff.mpr hrest))

/-- The entries of mounted partitions of a disk, in the order of their counterparts. -/
theorem describes_of_childEntry (orderly : Devices.Orderly disk.children)
    {partitions : List BlockDevice} {children : List (String × MappedDevice)}
    (within : ∀ p ∈ partitions, p ∈ Dict.values disk.children)
    (mounted : ∀ child ∈ children, child.2.isMounted)
    (alike : List.Forall₂ (fun partition child =>
      child.1 = partition.name ∧ MountedLike partition child.2) partitions children)
    (h : List.Forall₂ (fun child entry => childEntry disk mapped child = .ok entry) children
      entries) : List.Forall₂ MountEntry.Describes entries partitions := by
  induction alike generalizing entries with
  | nil =>
    cases h
    exact .nil
  | @cons partition child _ _ hlike _ ih =>
    obtain ⟨entry, others, hentry, hothers, rfl⟩ := List.forall₂_cons_left_iff.mp h
    obtain ⟨hpartition, hwithin⟩ := List.forall_mem_cons.mp within
    obtain ⟨hmounted, hrest⟩ := List.forall_mem_cons.mp mounted
    obtain ⟨found, hfound, hsame⟩ := bind_eq_ok_iff.mp hentry
    rw [hlike.1, lookUp, orderly.get?_of_mem hpartition] at hfound
    cases hfound
    cases hsame
    exact .cons (describes_entryOf hlike.2 hmounted _ _) (ih hwithin hrest hothers)

/-- The entries of the partitions of a disk. -/
theorem tabulates_nested (orderly : Devices.Orderly disk.children)
    (numbered : unnumbered disk.partitions = []) (targetDisk : String)
    (h : ((replica disk targetDisk).children.filter (·.2.isMounted)).mapM
      (childEntry disk (replica disk targetDisk)) = .ok entries) :
    Tabulates entries (Dict.values disk.children) := by
  -- The children stand in the order of their names, and the partitions in that of their numbers.
  have hchildren := (children_perm orderly.nodup_names numbered targetDisk).filter (·.2.isMounted)
  obtain ⟨inOrder, hinOrder, hperm⟩ :=
    List.perm_comp_forall₂ hchildren.symm (forall₂_of_mapM_eq_ok h)
  have alike := List.rel_filter (p := fun partition : BlockDevice => partition.mountPath?.isSome)
    (q := fun child : String × MappedDevice => child.2.isMounted)
    (fun _ _ hlike => (isMounted_iff hlike.2).symm) (forall₂_mappedPartitions numbered targetDisk)
  have hdescribed := describes_of_childEntry orderly
    (fun p hp => mem_partitions.mp (List.mem_filter.mp hp).1)
    (fun child hchild => (List.mem_filter.mp hchild).2) alike hinOrder
  have tabulates : Tabulates inOrder disk.partitions := ⟨_, hdescribed, .refl _⟩
  exact tabulates.perm hperm.symm (partitions_perm disk)

/-- **The entries of a disk are those of the disk and of its partitions.** -/
theorem tabulates_diskEntries (orderly : devices.Orderly) (hdisk : disk ∈ devices.values)
    (numbered : unnumbered disk.partitions = []) {targetDisk : String}
    (h : diskEntries devices disk.name (replica disk targetDisk) = .ok entries) :
    Tabulates entries (disk :: Dict.values disk.children) := by
  obtain ⟨found, hfound, h⟩ := bind_eq_ok_iff.mp h
  rw [lookUp, orderly.get?_of_mem hdisk] at hfound
  cases hfound
  obtain ⟨nested, hnested, h⟩ := bind_eq_ok_iff.mp h
  cases h
  have hown : MountedLike disk (replica disk targetDisk) := mountedLike_of_mountpoint rfl
  exact (tabulates_singleton hown _ _).append
    (tabulates_nested (orderly.children_of_mem hdisk) numbered targetDisk hnested)

/-! ### The whole table -/

/-- **The mount table of a pairing has one entry for every mounted disk and partition.** -/
theorem exists_tabulates_surface (orderly : devices.Orderly)
    (h : ofDevices devices target = .ok mapping) :
    ∃ table, ofMapping devices mapping = .ok table ∧ Tabulates table devices.surface := by
  obtain ⟨table, htable⟩ := exists_ofMapping_eq_ok (fits_of_ofDevices orderly h)
  refine ⟨table, htable, ?_⟩
  obtain ⟨tables, htables, hsame⟩ := bind_eq_ok_iff.mp htable
  cases hsame
  -- The mapping has its entries in the order of the names, and the disks are placed in another one.
  obtain ⟨inOrder, hinOrder, hperm⟩ :=
    List.perm_comp_forall₂ (mapping_perm orderly.nodup_names h).symm (forall₂_of_mapM_eq_ok htables)
  rw [replicas, List.forall₂_map_left_iff] at hinOrder
  have hdisks : ∀ placed ∈ placedDisks devices target, placed.1 ∈ devices.values :=
    fun placed hmem => mem_values_of_mem_placedDisks h hmem
  have hparts : List.Forall₂ (fun (placed : BlockDevice × BlockDevice) entries =>
      Tabulates entries (placed.1 :: Dict.values placed.1.children)) _ inOrder :=
    ((List.forall₂_and_left _ _).mpr ⟨hdisks, hinOrder⟩).imp fun placed entries h' =>
      tabulates_diskEntries orderly h'.1 (unnumbered_eq_nil h h'.1) h'.2
  have hsurface := (inNaturalOrder_perm devices.values).flatMap_right fun disk =>
    disk :: Dict.values disk.children
  rw [← map_fst_placedDisks h, List.flatMap_map] at hsurface
  exact (Tabulates.flatten hparts).perm ((stableSort_perm _ _).trans hperm.symm.flatten) hsurface

theorem exists_lists_surface (orderly : devices.Orderly)
    (h : ofDevices devices target = .ok mapping) :
    ∃ table, ofMapping devices mapping = .ok table ∧ Lists table devices.surface := by
  obtain ⟨table, htable, tabulates⟩ := exists_tabulates_surface orderly h
  exact ⟨table, htable, tabulates.lists⟩

/-- An entry of the table has a mount directory. -/
theorem Lists.directory_ne_empty {listed : List BlockDevice} (lists : Lists entries listed)
    (h : entry ∈ entries) : entry.targetMountpoint ≠ "" := by
  obtain ⟨device, -, describes⟩ := lists.sound entry h
  obtain ⟨-, hslash, -⟩ := mountPath?_eq_some_iff.mp describes.mounted
  rw [describes.directory]
  exact mountDirectory_ne_empty hslash

/-- **A mounted device of a reported source is covered by the mount table exactly if a disk or a
partition is mounted at its place.**  In particular every mounted disk and partition is covered,
and a filesystem on a device below a partition is left out without any error. -/
theorem covered_iff {text : String} (hreport : Devices.ofLsblk text = .ok devices)
    (h : ofDevices devices target = .ok mapping) :
    ∃ table, ofMapping devices mapping = .ok table ∧ Lists table devices.surface
      ∧ ∀ device ∈ devices.tree, ∀ path, device.mountPath? = some path →
        ((∃ entry ∈ table, entry.sourceMountpoint = path ∧ entry.targetMountpoint ≠ "") ↔
          ∃ covered ∈ devices.surface, covered.mountPath? = some path) := by
  obtain ⟨table, htable, lists⟩ := exists_lists_surface (Devices.orderly_of_ofLsblk hreport) h
  refine ⟨table, htable, lists, fun device _ path _ => ⟨?_, ?_⟩⟩
  · rintro ⟨entry, hentry, rfl, -⟩
    obtain ⟨covered, hcovered, describes⟩ := lists.sound entry hentry
    exact ⟨covered, hcovered, describes.mounted⟩
  · rintro ⟨covered, hcovered, hpath⟩
    have hsome : covered.mountPath?.isSome := by
      rw [hpath]
      rfl
    obtain ⟨entry, hentry, describes⟩ := lists.complete covered hcovered hsome
    have hplace : some entry.sourceMountpoint = some path := describes.mounted.symm.trans hpath
    exact ⟨entry, hentry, Option.some.inj hplace, lists.directory_ne_empty hentry⟩

/-- A report of a disk with a root filesystem and with a logical volume below its other
partition. -/
def volumeReport : String :=
  "\x7b\"blockdevices\":[\x7b\"name\":\"vda\",\"size\":32212254720,\"children\":["
    ++ "\x7b\"name\":\"vda1\",\"size\":10737418240,\"mountpoint\":\"/\"\x7d,"
    ++ "\x7b\"name\":\"vda2\",\"size\":21474836480,\"children\":["
    ++ "\x7b\"name\":\"data-srv\",\"size\":21474836480,\"mountpoint\":\"/srv\"\x7d]\x7d]\x7d]\x7d"

/-- The logical volume. -/
def volume : BlockDevice :=
  { blank "data-srv" 20 with mountpoint := "/srv" }

/-- The devices of the report. -/
def volumeDevices : Devices :=
  [("vda", { blank "vda" 30 with children :=
    [("vda1", { blank "vda1" 10 with mountpoint := "/" }),
      ("vda2", { blank "vda2" 20 with children := [("data-srv", volume)] })] })]

open Json.Token in
/-- The tokens of the report. -/
def volumeTokens : List Json.Token :=
  [openObject, string "blockdevices", colon, openArray,
    openObject, string "name", colon, string "vda", comma, string "size", colon,
    number (.whole 32212254720), comma, string "children", colon, openArray,
    openObject, string "name", colon, string "vda1", comma, string "size", colon,
    number (.whole 10737418240), comma, string "mountpoint", colon, string "/", closeObject, comma,
    openObject, string "name", colon, string "vda2", comma, string "size", colon,
    number (.whole 21474836480), comma, string "children", colon, openArray,
    openObject, string "name", colon, string "data-srv", comma, string "size", colon,
    number (.whole 21474836480), comma, string "mountpoint", colon, string "/srv", closeObject,
    closeArray, closeObject, closeArray, closeObject, closeArray, closeObject]

theorem tokens_volumeReport : Json.tokens volumeReport = volumeTokens := by
  unfold Json.tokens volumeReport
  -- The characters are read off literal by literal, which is fast, and lexed by the kernel.
  simp only [String.toList_append, String.reduceToList]
  decide +kernel

set_option maxRecDepth 10000 in
theorem ofLsblk_volumeReport : Devices.ofLsblk volumeReport = .ok volumeDevices := by
  rw [Devices.ofLsblk, Json.parse?, tokens_volumeReport]
  cbv

/-- An empty disk of thirty GiB. -/
def emptyDisk : Devices :=
  [("vdb", blank "vdb" 30)]

/-- The counterparts of `volumeDevices` on `emptyDisk`. -/
def volumeMapping : DeviceMapping :=
  [("vda", ⟨"vdb", "", [("vda1", ⟨"vdb1", mountDirectory (some "/") false, []⟩),
    ("vda2", ⟨"vdb2", "", []⟩)]⟩)]

theorem ofDevices_volumeDevices : ofDevices volumeDevices emptyDisk = .ok volumeMapping := by
  with_unfolding_all rfl

/-- The root filesystem of the report is covered, and the logical volume is not. -/
theorem volumeReport_covered :
    ∃ table, ofMapping volumeDevices volumeMapping = .ok table
      ∧ Devices.ofLsblk volumeReport = .ok volumeDevices
      ∧ ofDevices volumeDevices emptyDisk = .ok volumeMapping
      ∧ Lists table volumeDevices.surface
      ∧ ∀ device ∈ volumeDevices.tree, ∀ path, device.mountPath? = some path →
        ((∃ entry ∈ table, entry.sourceMountpoint = path ∧ entry.targetMountpoint ≠ "") ↔
          ∃ covered ∈ volumeDevices.surface, covered.mountPath? = some path) := by
  obtain ⟨table, htable, lists, hcovered⟩ :=
    covered_iff ofLsblk_volumeReport ofDevices_volumeDevices
  exact ⟨table, htable, ofLsblk_volumeReport, ofDevices_volumeDevices, lists, hcovered⟩

/-- The filesystem of a logical volume is silently left behind. -/
theorem volume_not_covered :
    ¬ ∀ (text : String) (devices target : Devices) (mapping : DeviceMapping) (table : MountTable),
      Devices.ofLsblk text = .ok devices → ofDevices devices target = .ok mapping →
      ofMapping devices mapping = .ok table →
      ∀ device ∈ devices.tree, ∀ path, device.mountPath? = some path →
        ∃ entry ∈ table, entry.sourceMountpoint = path ∧ entry.targetMountpoint ≠ "" := by
  intro h
  have hvolume : volume ∈ volumeDevices.tree := by
    simp [volumeDevices, Devices.tree, BlockDevice.tree_eq]
  obtain ⟨table, htable, lists⟩ := exists_lists_surface
    (Devices.orderly_of_ofLsblk ofLsblk_volumeReport) ofDevices_volumeDevices
  obtain ⟨entry, hentry, hplace, -⟩ := h volumeReport volumeDevices emptyDisk volumeMapping table
    ofLsblk_volumeReport ofDevices_volumeDevices htable volume hvolume "/srv" (by decide)
  -- Neither the disk nor one of its partitions is mounted there.
  obtain ⟨device, hdevice, describes⟩ := lists.sound entry hentry
  have hnowhere : ∀ device ∈ volumeDevices.surface, device.mountPath? ≠ some "/srv" := by
    decide
  exact hnowhere device hdevice (hplace ▸ describes.mounted)

end MountTable

end ServerMigration
