import Mathlib.Data.List.Nodup
import Mathlib.Data.List.Perm.Basic
import ServerMigration.Proofs.Device.PartitionNames
import ServerMigration.Proofs.Dict
import ServerMigration.Proofs.Inventory.Tree
import ServerMigration.Proofs.Mapping.FirstFit

/-!
# A successful pairing replicates the source

When the pairing succeeds, the target's disks take over the layout of the source: every disk has a
counterpart of its size, every partition one of its number, and every mounted device its mount
directory.

## Main definitions

* `DeviceMapping.replica` : the counterpart of a disk.
* `DeviceMapping.renamings` : the names of disks and partitions with the names they get.
* `DeviceMapping.Replicates` : what the counterpart of a disk has to be like.
* `DeviceMapping.Unambiguous` : no name of a target disk can be taken for that of a partition.

## Main results

* `DeviceMapping.mapping_perm` : the entries of the mapping, from the placements.
* `DeviceMapping.mapping_replicates` : the mapping of a successful pairing.
-/

namespace ServerMigration

namespace DeviceMapping

variable {source target : Devices} {mapping : DeviceMapping} {pool disks : List BlockDevice}
  {disk device : BlockDevice}

/-! ### Mount directories -/

/-- There is a mount directory if the device is mounted at a path, and then it is the one of that
path. -/
def MountedLike (device : BlockDevice) (mapped : MappedDevice) : Prop :=
  (mapped.mountpoint ≠ "" ↔ device.mountPath?.isSome)
    ∧ ∀ path, device.mountPath? = some path → mapped.mountpoint = mountDirectory (some path) false

/-- A device that is mounted at a path is no swap space, and the path begins with a slash. -/
theorem mountPath?_eq_some_iff {path : String} :
    device.mountPath? = some path ↔
      device.mountpoint = some path ∧ path.toList.head? = some '/' ∧ device.isSwap = false := by
  rw [BlockDevice.mountPath?, Option.filter_eq_some_iff]
  simp

theorem mountDirectory_ne_empty {path : String} (h : path.toList.head? = some '/') :
    mountDirectory (some path) false ≠ "" := by
  have hempty : path ≠ "" := by
    rintro rfl
    cases h
  have hswap : path ≠ "[SWAP]" := by
    rintro rfl
    exact absurd h (by decide)
  have hdirectory : mountDirectory (some path) false
      = targetMountRoot ++ "/" ++ String.ofList (mountpointDigest path) := by
    simp [mountDirectory, hempty, hswap]
  rw [hdirectory]
  intro h
  have hchars := congrArg String.toList h
  simp [targetMountRoot] at hchars

theorem mountedLike_of_mountpoint {mapped : MappedDevice}
    (h : mapped.mountpoint = mountDirectory device.mountPath? device.isSwap) :
    MountedLike device mapped := by
  cases hpath : device.mountPath? with
  | none =>
    rw [hpath] at h
    refine ⟨?_, fun path hsome => ?_⟩
    · rw [h, hpath]
      simp [mountDirectory]
    · rw [hpath] at hsome
      cases hsome
  | some path =>
    obtain ⟨-, hslash, hswap⟩ := mountPath?_eq_some_iff.mp hpath
    rw [hpath, hswap] at h
    refine ⟨?_, fun path' hsome => ?_⟩
    · rw [h, hpath]
      simp [mountDirectory_ne_empty hslash]
    · cases hpath.symm.trans hsome
      exact h

/-! ### The counterpart of a disk -/

/-- The counterpart of a disk on a target disk, if all its partitions have numbers. -/
def replica (disk : BlockDevice) (targetDisk : String) : MappedDevice where
  id := targetDisk
  mountpoint := mountDirectory disk.mountPath? disk.isSwap
  children := Dict.ofList (mappedPartitions targetDisk disk.partitions)

theorem mappedDisk_eq_ok (h : unnumbered disk.partitions = []) (targetDisk : String) :
    mappedDisk disk targetDisk = .ok (replica disk targetDisk) := by
  rw [mappedDisk, h]
  rfl

/-- The partitions with a number are mapped to those of the same number. -/
theorem mem_mappedPartitions_iff {partitions : List BlockDevice} {targetDisk : String}
    {entry : String × MappedDevice} :
    entry ∈ mappedPartitions targetDisk partitions ↔
      ∃ partition ∈ partitions, ∃ index, partitionNumber? partition.name = some index
        ∧ entry = (partition.name, mappedPartition targetDisk partition index) := by
  simp only [mappedPartitions, List.mem_filterMap, Option.map_eq_some_iff, @eq_comm _ entry]

theorem map_fst_mappedPartitions {partitions : List BlockDevice} (h : unnumbered partitions = [])
    (targetDisk : String) :
    (mappedPartitions targetDisk partitions).map (·.1) = partitions.map (·.name) := by
  rw [mappedPartitions, List.map_filterMap, ← List.filterMap_eq_map]
  refine List.filterMap_congr fun partition hmem => ?_
  have hnumber := List.filter_eq_nil_iff.mp h partition hmem
  cases hindex : partitionNumber? partition.name with
  | none => simp [hindex] at hnumber
  | some index => rfl

theorem map_id_mappedPartitions (partitions : List BlockDevice) (targetDisk : String) :
    (mappedPartitions targetDisk partitions).map (·.2.id)
      = (partitions.filterMap fun partition => partitionNumber? partition.name).map
        (nthPartition targetDisk) := by
  rw [mappedPartitions, List.map_filterMap, List.map_filterMap]
  refine List.filterMap_congr fun partition _ => ?_
  cases partitionNumber? partition.name <;> rfl

/-! ### Partitions in on-disk order -/

/-- The key by which partitions are ordered before their names are looked at. -/
def numberOf (partition : BlockDevice) : Option Nat :=
  (partitionNumber? partition.name).map (·.toNat)

theorem partitionOrder_eq :
    BlockDevice.partitionOrder
      = compareLex (compareOn numberOf) (compareOn fun partition => partition.name) := by
  funext a b
  rw [BlockDevice.partitionOrder, compareLex, compareOn, compareOn]
  refine congrArg (fun first : Ordering => first.then (compareStrings a.name b.name)) ?_
  rw [numberOf, numberOf]
  cases partitionNumber? a.name <;> cases partitionNumber? b.name <;> rfl

instance : Std.TransCmp BlockDevice.partitionOrder := by
  rw [partitionOrder_eq]
  infer_instance

/-- Partitions whose numbers differ stand in the order of their numbers. -/
theorem partitions_ascend (disk : BlockDevice)
    (distinct : ((Dict.values disk.children).filterMap fun p => partitionNumber? p.name).Nodup) :
    disk.partitions.Pairwise fun p q => ∀ m n, partitionNumber? p.name = some m →
      partitionNumber? q.name = some n → m < n := by
  have hsorted : disk.partitions.Pairwise fun p q => (BlockDevice.partitionOrder p q).isLE :=
    stableSort_pairwise _
  have hdistinct := List.pairwise_filterMap.mp
    (((partitions_perm disk).filterMap _).nodup_iff.mpr distinct)
  refine (hsorted.and hdistinct).imp fun {p q} h m n hm hn => ?_
  obtain ⟨hle, hne⟩ := h
  have hne : m ≠ n := hne m hm n hn
  rw [partitionOrder_eq, compareLex, Ordering.isLE_then_iff_and] at hle
  have hnumbers : (compare m.toNat n.toNat).isLE := by
    have hfirst := hle.1
    rwa [compareOn, numberOf, numberOf, hm, hn] at hfirst
  have hnat : m.toNat ≤ n.toNat := Nat.isLE_compare.mp hnumbers
  exact UInt32.lt_iff_toNat_lt.mpr
    (Nat.lt_of_le_of_ne hnat fun hsame => hne (UInt32.toNat_inj.mp hsame))

/-! ### The entries of the mapping -/

/-- The placements of a successful pairing hold all disks, in their order. -/
theorem map_fst_placements (h : surplus pool disks = []) :
    (placements pool disks).map (·.1) = disks := by
  have hplaced := surplus_eq_nil_iff.mp h
  rw [placements, List.map_filterMap]
  conv_rhs => rw [← map_snd_withEarlier disks, ← List.filterMap_eq_map]
  refine List.filterMap_congr fun entry hmem => ?_
  obtain ⟨target, htarget⟩ := Option.isSome_iff_exists.mp (hplaced entry hmem)
  obtain ⟨earlier, disk⟩ := entry
  dsimp only at htarget ⊢
  rw [htarget]
  rfl

/-- A disk is placed on a target disk of its size. -/
theorem sizeGib_of_mem_placements {placed : BlockDevice × BlockDevice}
    (h : placed ∈ placements pool disks) :
    placed.2 ∈ pool ∧ placed.2.sizeGib = placed.1.sizeGib := by
  obtain ⟨⟨earlier, disk⟩, -, hmap⟩ := List.mem_filterMap.mp h
  obtain ⟨target, htarget, rfl⟩ := Option.map_eq_some_iff.mp hmap
  have hmem := List.mem_of_getElem? htarget
  obtain ⟨hpool, hsize⟩ := List.mem_filter.mp hmem
  exact ⟨hpool, by simpa using hsize⟩

/-- No target disk is given away twice. -/
theorem exists_rest_of_placements (pool disks : List BlockDevice) :
    ∃ rest, ((placements pool disks).map (·.2) ++ rest).Perm pool := by
  have paired := paired_foldl (.start pool) disks
  exact ⟨_, paired.given⟩

/-- The disks of a source, each with the target disk it gets. -/
def placedDisks (source target : Devices) : List (BlockDevice × BlockDevice) :=
  placements (candidates target) (inNaturalOrder source.values)

/-- The counterparts of the disks that were placed. -/
def replicas (pairs : List (BlockDevice × BlockDevice)) : List (String × MappedDevice) :=
  pairs.map fun placed => (placed.1.name, replica placed.1 placed.2.name)

theorem map_fst_replicas (pairs : List (BlockDevice × BlockDevice)) :
    (replicas pairs).map (·.1) = (pairs.map (·.1)).map (·.name) := by
  rw [replicas, List.map_map, List.map_map]
  rfl

/-- A pairing that succeeds places every disk. -/
theorem map_fst_placedDisks (h : ofDevices source target = .ok mapping) :
    (placedDisks source target).map (·.1) = inNaturalOrder source.values :=
  map_fst_placements (complaints_eq_nil_iff.mp (ofDevices_eq_ok_iff.mp h).1).1

theorem mem_values_of_mem_placedDisks (h : ofDevices source target = .ok mapping)
    {placed : BlockDevice × BlockDevice} (hmem : placed ∈ placedDisks source target) :
    placed.1 ∈ source.values := by
  rw [← mem_inNaturalOrder, ← map_fst_placedDisks h]
  exact List.mem_map_of_mem hmem

/-- A pairing that succeeds finds a number in the name of every partition. -/
theorem unnumbered_eq_nil (h : ofDevices source target = .ok mapping)
    (hdisk : disk ∈ source.values) : unnumbered disk.partitions = [] :=
  (complaints_eq_nil_iff.mp (ofDevices_eq_ok_iff.mp h).1).2 disk (mem_inNaturalOrder.mpr hdisk)

/-- **The mapping is made of the counterparts of the disks.** -/
theorem mapping_eq (h : ofDevices source target = .ok mapping) :
    mapping = Dict.ofList (replicas (placedDisks source target)) := by
  rw [(ofDevices_eq_ok_iff.mp h).2]
  refine congrArg Dict.ofList ?_
  rw [counterparts, replicas, ← List.filterMap_eq_map]
  refine List.filterMap_congr fun placed hmem => ?_
  have hdisk : placed.1 ∈ source.values := mem_values_of_mem_placedDisks h hmem
  dsimp only
  rw [mappedDisk_eq_ok (unnumbered_eq_nil h hdisk)]
  rfl

/-- A mapping of disks whose names differ has one entry for each of them. -/
theorem mapping_perm (named : (source.values.map (·.name)).Nodup)
    (h : ofDevices source target = .ok mapping) :
    mapping.Perm (replicas (placedDisks source target)) := by
  rw [mapping_eq h]
  refine Dict.ofList_perm ?_
  rw [map_fst_replicas, map_fst_placedDisks h]
  exact ((inNaturalOrder_perm _).map _).nodup_iff.mpr named

/-- Every entry of the mapping is that of a disk. -/
theorem exists_disk_of_mem (named : (source.values.map (·.name)).Nodup)
    (h : ofDevices source target = .ok mapping) {entry : String × MappedDevice}
    (hmem : entry ∈ mapping) :
    ∃ disk ∈ source.values, ∃ targetDisk, entry = (disk.name, replica disk targetDisk) := by
  obtain ⟨placed, hplaced, rfl⟩ := List.mem_map.mp ((mapping_perm named h).mem_iff.mp hmem)
  exact ⟨placed.1, mem_values_of_mem_placedDisks h hplaced, placed.2.name, rfl⟩

/-- Every disk has an entry in the mapping, for an unallocated target disk of its size. -/
theorem exists_mem_of_disk (named : (source.values.map (·.name)).Nodup)
    (h : ofDevices source target = .ok mapping) (hdisk : disk ∈ source.values) :
    ∃ device ∈ unallocated target, device.sizeGib = disk.sizeGib
      ∧ (disk.name, replica disk device.name) ∈ mapping := by
  have hplaced : disk ∈ (placedDisks source target).map (·.1) := by
    rw [map_fst_placedDisks h]
    exact mem_inNaturalOrder.mpr hdisk
  obtain ⟨placed, hmem, rfl⟩ := List.mem_map.mp hplaced
  obtain ⟨hdevice, hsize⟩ := sizeGib_of_mem_placements hmem
  exact ⟨placed.2, mem_inNaturalOrder.mp hdevice, hsize,
    (mapping_perm named h).mem_iff.mpr (List.mem_map_of_mem hmem)⟩

/-- The children of the counterpart are those of the partitions. -/
theorem children_perm (named : ((Dict.values disk.children).map (·.name)).Nodup)
    (numbered : unnumbered disk.partitions = []) (targetDisk : String) :
    (replica disk targetDisk).children.Perm (mappedPartitions targetDisk disk.partitions) := by
  refine Dict.ofList_perm ?_
  rw [map_fst_mappedPartitions numbered]
  exact ((partitions_perm disk).map _).nodup_iff.mpr named

/-! ### Names on the target -/

/-- No unallocated disk of the target is named like a partition of another one, or like another one
with a `p` behind it. -/
def Unambiguous (target : Devices) : Prop :=
  ∀ disk ∈ unallocated target, ∀ other ∈ unallocated target,
    (∀ index, other.name ≠ nthPartition disk.name index) ∧ other.name ≠ disk.name ++ "p"

/-- A name can only be that of the partition whose number it ends in. -/
theorem unambiguous_iff :
    Unambiguous target ↔ ∀ disk ∈ unallocated target, ∀ other ∈ unallocated target,
      (partitionNumber? other.name).all (fun index => other.name ≠ nthPartition disk.name index)
        ∧ other.name ≠ disk.name ++ "p" := by
  refine forall₂_congr fun disk _ => forall₂_congr fun other _ => and_congr_left' ?_
  constructor
  · intro h
    simp [h]
  · intro h index hsame
    rw [hsame, partitionNumber?_nthPartition] at h
    simp at h

instance : Decidable (Unambiguous target) := decidable_of_iff' _ unambiguous_iff

/-- The name of a target disk and the names of some partitions of it. -/
def namesOn (targetDisk : String) (numbers : List UInt32) : List String :=
  targetDisk :: numbers.map (nthPartition targetDisk)

theorem nthPartition_ne (disk : String) (index : UInt32) : nthPartition disk index ≠ disk := by
  intro h
  have hlength := congrArg String.length h
  have hdigits : 0 < (toString index.toNat).length := by
    rw [Nat.toString_eq_ofList_toDigits, String.length_ofList]
    exact Nat.length_toDigits_pos
  rw [nthPartition_eq, partitionStem, String.length_append, String.length_append] at hlength
  omega

theorem nodup_namesOn {numbers : List UInt32} (h : numbers.Nodup) (targetDisk : String) :
    (namesOn targetDisk numbers).Nodup := by
  refine List.nodup_cons.mpr ⟨fun hmem => ?_, ?_⟩
  · obtain ⟨index, -, hsame⟩ := List.mem_map.mp hmem
    exact nthPartition_ne targetDisk index hsame
  · exact h.map fun i j hsame => (eq_of_nthPartition_eq hsame).1

/-- Names on different target disks differ. -/
theorem disjoint_namesOn (unambiguous : Unambiguous target) (hdisk : disk ∈ unallocated target)
    (hdevice : device ∈ unallocated target) (hne : disk.name ≠ device.name)
    (numbers others : List UInt32) :
    List.Disjoint (namesOn disk.name numbers) (namesOn device.name others) := by
  intro name hmem hmem'
  have hfree := unambiguous disk hdisk device hdevice
  have hfree' := unambiguous device hdevice disk hdisk
  rcases List.mem_cons.mp hmem with rfl | hmem
  · rcases List.mem_cons.mp hmem' with hsame | hmem'
    · exact hne hsame
    · obtain ⟨index, -, hsame⟩ := List.mem_map.mp hmem'
      exact hfree'.1 index hsame.symm
  · obtain ⟨index, -, rfl⟩ := List.mem_map.mp hmem
    rcases List.mem_cons.mp hmem' with hsame | hmem'
    · exact hfree.1 index hsame.symm
    · obtain ⟨index', -, hsame⟩ := List.mem_map.mp hmem'
      rcases (eq_of_nthPartition_eq hsame).2 with h | h | h
      · exact hne h.symm
      · exact hfree.2 h
      · exact hfree'.2 h

/-! ### What a mapping replicates -/

/-- What the counterpart of a disk is like: an unallocated disk of the target of the same size, with
one child for each partition.  The children have the numbers of the partitions, and so they stand in
the same order on the disk. -/
structure Replicates (target : Devices) (disk : BlockDevice) (mapped : MappedDevice) : Prop where
  placed : ∃ device ∈ unallocated target, device.name = mapped.id ∧ device.sizeGib = disk.sizeGib
  mounted : MountedLike disk mapped
  children : (Dict.keys mapped.children).Perm ((Dict.values disk.children).map (·.name))
  numbered : ∀ partition ∈ Dict.values disk.children, ∃ child,
    Dict.get? mapped.children partition.name = some child
      ∧ (partitionNumber? partition.name).isSome
      ∧ partitionNumber? child.id = partitionNumber? partition.name
      ∧ MountedLike partition child
  inOrder : disk.partitions.Pairwise fun partition later => ∀ child child',
    Dict.get? mapped.children partition.name = some child →
    Dict.get? mapped.children later.name = some child' →
    ∃ m n, partitionNumber? child.id = some m ∧ partitionNumber? child'.id = some n ∧ m < n

/-- The child for a partition is the one of its number. -/
theorem get?_replica (named : ((Dict.values disk.children).map (·.name)).Nodup)
    (numbered : unnumbered disk.partitions = []) (targetDisk : String) {partition : BlockDevice}
    (h : partition ∈ disk.partitions) :
    ∃ index, partitionNumber? partition.name = some index
      ∧ Dict.get? (replica disk targetDisk).children partition.name
        = some (mappedPartition targetDisk partition index) := by
  have hnumber := List.filter_eq_nil_iff.mp numbered partition h
  cases hindex : partitionNumber? partition.name with
  | none => simp [hindex] at hnumber
  | some index =>
    have hmapped : (partition.name, mappedPartition targetDisk partition index)
        ∈ mappedPartitions targetDisk disk.partitions :=
      mem_mappedPartitions_iff.mpr ⟨partition, h, index, hindex, rfl⟩
    have hchild := (children_perm named numbered targetDisk).mem_iff.mpr hmapped
    exact ⟨index, rfl, (Dict.sorted_ofList _).get?_of_mem hchild⟩

theorem replicates_replica (named : ((Dict.values disk.children).map (·.name)).Nodup)
    (numbered : unnumbered disk.partitions = [])
    (distinct : ((Dict.values disk.children).filterMap fun p => partitionNumber? p.name).Nodup)
    (hdevice : device ∈ unallocated target) (hsize : device.sizeGib = disk.sizeGib) :
    Replicates target disk (replica disk device.name) where
  placed := ⟨device, hdevice, rfl, hsize⟩
  mounted := mountedLike_of_mountpoint rfl
  children := by
    have hkeys := (children_perm named numbered device.name).map Prod.fst
    rw [map_fst_mappedPartitions numbered] at hkeys
    exact hkeys.trans ((partitions_perm disk).map _)
  numbered partition hmem := by
    have hlisted : partition ∈ disk.partitions := mem_partitions.mpr hmem
    obtain ⟨index, hindex, hget⟩ := get?_replica named numbered device.name hlisted
    refine ⟨_, hget, by rw [hindex]; rfl, ?_, mountedLike_of_mountpoint rfl⟩
    rw [hindex]
    exact partitionNumber?_nthPartition device.name index
  inOrder := by
    refine (partitions_ascend disk distinct).imp_of_mem fun {p q} hp hq h child child' hc hc' => ?_
    obtain ⟨m, hm, hget⟩ := get?_replica named numbered device.name hp
    obtain ⟨n, hn, hget'⟩ := get?_replica named numbered device.name hq
    cases hget.symm.trans hc
    cases hget'.symm.trans hc'
    exact ⟨m, n, partitionNumber?_nthPartition device.name m,
      partitionNumber?_nthPartition device.name n, h m n hm hn⟩

/-- The names of an inventory in which no name occurs twice on any level. -/
theorem nodup_surface (named : (source.tree.map (·.name)).Nodup) :
    (source.surface.map (·.name)).Nodup :=
  named.sublist (source.surface_sublist_tree.map _)

theorem nodup_disks (named : (source.tree.map (·.name)).Nodup) :
    (source.values.map (·.name)).Nodup :=
  named.sublist (source.values_sublist_tree.map _)

theorem nodup_partitions (named : (source.tree.map (·.name)).Nodup) (h : disk ∈ source.values) :
    ((Dict.values disk.children).map (·.name)).Nodup := by
  have hnames := nodup_surface named
  rw [Devices.surface, List.map_flatMap] at hnames
  have hdisk := (List.nodup_flatMap.mp hnames).1 disk h
  rw [List.map_cons] at hdisk
  exact (List.nodup_cons.mp hdisk).2

/-! ### The renaming -/

/-- The names of the disks and partitions that were placed, each with the name it gets. -/
def renamings (pairs : List (BlockDevice × BlockDevice)) : List (String × String) :=
  pairs.flatMap fun placed => (placed.1.name, placed.2.name)
    :: (mappedPartitions placed.2.name placed.1.partitions).map fun (name, mapped) =>
      (name, mapped.id)

theorem map_fst_renamings {pairs : List (BlockDevice × BlockDevice)}
    (numbered : ∀ placed ∈ pairs, unnumbered placed.1.partitions = []) :
    (renamings pairs).map (·.1)
      = (pairs.map (·.1)).flatMap fun disk => disk.name :: disk.partitions.map (·.name) := by
  rw [renamings, List.map_flatMap, List.flatMap_map]
  refine List.flatMap_congr fun placed hmem => ?_
  rw [List.map_cons, List.map_map, ← map_fst_mappedPartitions (numbered placed hmem) placed.2.name]
  rfl

theorem map_snd_renamings (pairs : List (BlockDevice × BlockDevice)) :
    (renamings pairs).map (·.2) = pairs.flatMap fun placed => namesOn placed.2.name
      (placed.1.partitions.filterMap fun partition => partitionNumber? partition.name) := by
  rw [renamings, List.map_flatMap]
  refine List.flatMap_congr fun placed _ => ?_
  rw [List.map_cons, List.map_map, namesOn, ← map_id_mappedPartitions]
  rfl

/-- The pairs of names of a mapping, disk by disk. -/
theorem namePairs_perm (named : (source.tree.map (·.name)).Nodup)
    (h : ofDevices source target = .ok mapping) :
    (namePairs mapping).Perm (renamings (placedDisks source target)) := by
  refine ((mapping_perm (nodup_disks named) h).flatMap_right _).trans ?_
  rw [replicas, List.flatMap_map]
  refine List.Perm.flatMap_left _ fun placed hmem => ?_
  have hdisk : placed.1 ∈ source.values := mem_values_of_mem_placedDisks h hmem
  have hchildren :=
    children_perm (nodup_partitions named hdisk) (unnumbered_eq_nil h hdisk) placed.2.name
  exact (hchildren.map _).cons _

/-- The disks in the order in which they are paired, each with its partitions. -/
theorem surface_perm (source : Devices) :
    ((inNaturalOrder source.values).flatMap fun disk => disk :: disk.partitions).Perm
      source.surface := by
  refine ((inNaturalOrder_perm _).flatMap_right _).trans ?_
  exact List.Perm.flatMap_left _ fun disk _ => (partitions_perm disk).cons _

/-- Every disk and partition is renamed once. -/
theorem nodup_map_fst_namePairs (named : (source.tree.map (·.name)).Nodup)
    (h : ofDevices source target = .ok mapping) : ((namePairs mapping).map (·.1)).Nodup := by
  refine ((namePairs_perm named h).map _).nodup_iff.mpr ?_
  have numbered : ∀ placed ∈ placedDisks source target, unnumbered placed.1.partitions = [] :=
    fun placed hmem => unnumbered_eq_nil h (mem_values_of_mem_placedDisks h hmem)
  rw [map_fst_renamings numbered, map_fst_placedDisks h]
  have hsurface := (surface_perm source).map (·.name)
  simp only [List.map_flatMap, List.map_cons] at hsurface
  exact hsurface.nodup_iff.mpr (nodup_surface named)

/-- The names of the target disks that were given away differ. -/
theorem pairwise_placedDisks (source : Devices)
    (distinct : ((unallocated target).map (·.name)).Nodup) :
    (placedDisks source target).Pairwise fun placed other => placed.2.name ≠ other.2.name := by
  obtain ⟨rest, hrest⟩ := exists_rest_of_placements (candidates target)
    (inNaturalOrder source.values)
  have hcandidates : ((candidates target).map (·.name)).Nodup :=
    ((inNaturalOrder_perm _).map _).nodup_iff.mpr distinct
  have hgiven := (hrest.map fun disk => disk.name).nodup_iff.mpr hcandidates
  rw [List.map_append, List.map_map] at hgiven
  exact List.pairwise_map.mp hgiven.of_append_left

/-- **No two disks or partitions are renamed to the same name.** -/
theorem nodup_map_snd_namePairs (named : (source.tree.map (·.name)).Nodup)
    (numbered : ∀ disk ∈ source.values,
      ((Dict.values disk.children).filterMap fun p => partitionNumber? p.name).Nodup)
    (unambiguous : Unambiguous target)
    (distinct : ((unallocated target).map (·.name)).Nodup)
    (h : ofDevices source target = .ok mapping) : ((namePairs mapping).map (·.2)).Nodup := by
  refine ((namePairs_perm named h).map _).nodup_iff.mpr ?_
  rw [map_snd_renamings]
  refine List.nodup_flatMap.mpr ⟨fun placed hmem => ?_, ?_⟩
  · -- On one target disk the numbers tell the partitions apart.
    refine nodup_namesOn ?_ _
    exact ((partitions_perm placed.1).filterMap _).nodup_iff.mpr
      (numbered _ (mem_values_of_mem_placedDisks h hmem))
  · -- No target disk is given away twice, and their names differ.
    refine (pairwise_placedDisks source distinct).imp_of_mem
      fun {placed other} hplaced hother hne => ?_
    have hmem := (sizeGib_of_mem_placements hplaced).1
    have hmem' := (sizeGib_of_mem_placements hother).1
    exact disjoint_namesOn unambiguous (mem_inNaturalOrder.mp hmem) (mem_inNaturalOrder.mp hmem')
      hne _ _

/-! ### The result of a pairing -/

/-- **The mapping of a successful pairing replicates the source.**  It has one entry for every disk,
and each entry replicates its disk.  The renaming of the disks and partitions is a function and is
injective, if names are unambiguous on both sides. -/
theorem mapping_replicates (named : (source.tree.map (·.name)).Nodup)
    (numbered : ∀ disk ∈ source.values,
      ((Dict.values disk.children).filterMap fun p => partitionNumber? p.name).Nodup)
    (unambiguous : Unambiguous target)
    (distinct : ((unallocated target).map (·.name)).Nodup)
    (h : ofDevices source target = .ok mapping) :
    (Dict.keys mapping).Perm (source.values.map (·.name))
      ∧ (∀ disk ∈ source.values, ∃ mapped, mapping.get? disk.name = some mapped
        ∧ Replicates target disk mapped)
      ∧ ((namePairs mapping).map (·.1)).Nodup ∧ ((namePairs mapping).map (·.2)).Nodup := by
  have hperm := mapping_perm (nodup_disks named) h
  refine ⟨?_, fun disk hdisk => ?_, nodup_map_fst_namePairs named h,
    nodup_map_snd_namePairs named numbered unambiguous distinct h⟩
  · have hkeys := hperm.map Prod.fst
    rw [map_fst_replicas, map_fst_placedDisks h] at hkeys
    exact hkeys.trans ((inNaturalOrder_perm _).map _)
  · obtain ⟨device, hdevice, hsize, hentry⟩ := exists_mem_of_disk (nodup_disks named) h hdisk
    refine ⟨replica disk device.name, ?_, ?_⟩
    · rw [mapping_eq h] at hentry ⊢
      exact (Dict.sorted_ofList _).get?_of_mem hentry
    · exact replicates_replica (nodup_partitions named hdisk) (unnumbered_eq_nil h hdisk)
        (numbered _ hdisk) hdevice hsize

/-- A disk, or a partition, that holds nothing. -/
def blank (name : String) (gib : Nat) : BlockDevice where
  name
  size := (gib * BlockDevice.gib).toUInt64
  fs := none
  uuid := none
  label := none
  mountpoint := none
  bootable := false
  children := []

/-- Two disks of twenty GiB, one of them with a root filesystem and swap space. -/
def rootAndData : Devices :=
  [("nvme0n1", { blank "nvme0n1" 20 with
      children := [("nvme0n1p1", { blank "nvme0n1p1" 16 with fs := "ext4", mountpoint := "/" }),
        ("nvme0n1p2", { blank "nvme0n1p2" 4 with fs := "swap", mountpoint := "[SWAP]" })] }),
    ("sda", { blank "sda" 20 with children := [("sda1", { blank "sda1" 20 with fs := "xfs" })] })]

/-- Two empty disks of twenty GiB beside the one that the target boots from. -/
def bootAndSpare : Devices :=
  [("nvme1n1", blank "nvme1n1" 20), ("vda", { blank "vda" 10 with fs := "ext4" }),
    ("vdb", blank "vdb" 20)]

/-- The layout of `rootAndData` is replicated, the disk of the root filesystem on a disk whose
partitions are named with a separator. -/
theorem rootAndData_replicated :
    ∃ mapping, ofDevices rootAndData bootAndSpare = .ok mapping
      ∧ (rootAndData.tree.map (·.name)).Nodup
      ∧ (∀ disk ∈ rootAndData.values,
        ((Dict.values disk.children).filterMap fun p => partitionNumber? p.name).Nodup)
      ∧ Unambiguous bootAndSpare
      ∧ ((unallocated bootAndSpare).map (·.name)).Nodup
      ∧ (Dict.keys mapping).Perm (rootAndData.values.map (·.name))
      ∧ (∀ disk ∈ rootAndData.values, ∃ mapped, mapping.get? disk.name = some mapped
        ∧ Replicates bootAndSpare disk mapped)
      ∧ ((namePairs mapping).map (·.1)).Nodup ∧ ((namePairs mapping).map (·.2)).Nodup := by
  have hnothing :
      complaints (candidates bootAndSpare) (inNaturalOrder rootAndData.values) = [] := by
    decide +kernel
  have named : (rootAndData.tree.map (·.name)).Nodup := by decide +kernel
  have numbered : ∀ disk ∈ rootAndData.values,
      ((Dict.values disk.children).filterMap fun p => partitionNumber? p.name).Nodup := by
    decide +kernel
  have unambiguous : Unambiguous bootAndSpare := by decide +kernel
  have distinct : ((unallocated bootAndSpare).map (·.name)).Nodup := by decide +kernel
  have h := ofDevices_eq_ok_iff.mpr ⟨hnothing, rfl⟩
  exact ⟨_, h, named, numbered, unambiguous, distinct,
    mapping_replicates named numbered unambiguous distinct h⟩

/-- Two disks of the same size. -/
def twoDisks : Devices :=
  [("sda", blank "sda" 20), ("sdb", blank "sdb" 20)]

/-- An inventory that lists two unallocated disks under one name, and a third one. -/
def sharedName : Devices :=
  [("left", blank "vdb" 20), ("right", blank "vdb" 20), ("spare", blank "vdc" 20)]

/-- If two unallocated disks of the target share a name, two disks of the source can be renamed to
it, although no name can be taken for that of a partition. -/
theorem sharedName_not_injective :
    ¬ ∀ (source target : Devices) (mapping : DeviceMapping),
      (source.tree.map (·.name)).Nodup →
      (∀ disk ∈ source.values,
        ((Dict.values disk.children).filterMap fun p => partitionNumber? p.name).Nodup) →
      Unambiguous target → ofDevices source target = .ok mapping →
      ((namePairs mapping).map (·.2)).Nodup := by
  intro h
  have hpaired : ofDevices twoDisks sharedName = .ok
      [("sda", ⟨"vdb", "", []⟩), ("sdb", ⟨"vdb", "", []⟩)] := rfl
  have hinjective := h twoDisks sharedName _ (by decide +kernel) (by decide +kernel)
    (by decide +kernel) hpaired
  exact absurd hinjective (by decide +kernel)

end DeviceMapping

end ServerMigration
