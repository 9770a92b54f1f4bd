import ServerMigration.Proofs.Mapping.Replica
import ServerMigration.Proofs.Mapping.Fitting

/-!
# Where the counterparts lie

Whatever a mapping pairs, it pairs with the unallocated disks of the target and with partitions of
these, and the mount directories that it gives out have names of one length.

## Main definitions

* `DeviceMapping.everyMapped` : the counterparts of all disks and partitions.
* `DeviceMapping.OnTarget` : what a counterpart has to be like.

## Main results

* `DeviceMapping.onTarget_of_mem` : every counterpart lies on the unallocated disks of the target.
* `MountTable.exists_mapped_of_mem` : the mount table mounts counterparts.
-/

namespace ServerMigration

/-! ### Mount directories -/

theorem Blake3.length_deriveKey (context material : List UInt8) :
    (deriveKey context material).length = 32 := by
  rw [deriveKey, List.length_flatMap]
  have hword : ∀ w : UInt32, (wordBytes w).length = 4 := fun _ => rfl
  simp [hword]

/-- All digests of mountpoints have the same length. -/
theorem length_mountpointDigest (path : String) : (mountpointDigest path).length = 32 := by
  rw [mountpointDigest, List.length_flatMap]
  have hbyte : ∀ b : UInt8, (Text.hexByte b).length = 2 := fun _ => rfl
  simp [hbyte, Blake3.length_deriveKey]

/-- All mount directories have names of the same length. -/
theorem length_mountDirectory {mountpoint : Option String} {isSwap : Bool}
    (h : mountDirectory mountpoint isSwap ≠ "") :
    (mountDirectory mountpoint isSwap).length = 37 := by
  unfold mountDirectory at h ⊢
  split at h
  · next path =>
    split at h
    · exact absurd rfl h
    · next hmounted =>
      rw [if_neg hmounted]
      have hroot : (targetMountRoot ++ "/").length = 5 := rfl
      rw [String.length_append, hroot, String.length_ofList, length_mountpointDigest]
  · exact absurd rfl h

namespace DeviceMapping

variable {source target : Devices} {mapping : DeviceMapping} {mapped : MappedDevice}

/-- The counterparts of all disks and partitions. -/
def everyMapped (mapping : DeviceMapping) : List MappedDevice :=
  mapping.flatMap fun entry => entry.2 :: entry.2.children.map (·.2)

/-- A counterpart is an unallocated disk of the target or a partition of one, with some mount
directory. -/
structure OnTarget (target : Devices) (mapped : MappedDevice) : Prop where
  placed : ∃ disk ∈ unallocated target,
    mapped.id = disk.name ∨ ∃ index, mapped.id = nthPartition disk.name index
  directory : ∃ mountpoint isSwap, mapped.mountpoint = mountDirectory mountpoint isSwap

theorem mem_everyMapped_of_mem {entry : String × MappedDevice} (h : entry ∈ mapping) :
    entry.2 ∈ everyMapped mapping :=
  List.mem_flatMap.mpr ⟨entry, h, List.mem_cons_self⟩

theorem mem_everyMapped_of_mem_children {entry child : String × MappedDevice} (h : entry ∈ mapping)
    (hchild : child ∈ entry.2.children) : child.2 ∈ everyMapped mapping :=
  List.mem_flatMap.mpr ⟨entry, h, List.mem_cons_of_mem _ (List.mem_map_of_mem hchild)⟩

/-- What is found under a name is one of the counterparts. -/
theorem mem_everyMapped_of_counterpart? {name : String}
    (h : mapping.counterpart? name = some mapped) : mapped ∈ everyMapped mapping := by
  unfold counterpart? at h
  split at h
  · next hdisk =>
    cases h
    exact mem_everyMapped_of_mem (Dict.mem_of_get? hdisk)
  · obtain ⟨disk, hdisk, hchild⟩ := List.exists_of_findSome?_eq_some h
    obtain ⟨entry, hentry, rfl⟩ := List.mem_map.mp hdisk
    exact mem_everyMapped_of_mem_children hentry (Dict.mem_of_get? hchild)

/-- Every entry of a mapping is that of a disk that was placed. -/
theorem exists_placed_of_mem (h : ofDevices source target = .ok mapping)
    {entry : String × MappedDevice} (hmem : entry ∈ mapping) :
    ∃ placed ∈ placedDisks source target,
      entry = (placed.1.name, replica placed.1 placed.2.name) := by
  rw [mapping_eq h] at hmem
  obtain ⟨placed, hplaced, rfl⟩ := List.mem_map.mp (Dict.mem_ofList hmem)
  exact ⟨placed, hplaced, rfl⟩

/-- **Every counterpart lies on the unallocated disks of the target.** -/
theorem onTarget_of_mem (h : ofDevices source target = .ok mapping)
    (hmem : mapped ∈ everyMapped mapping) : OnTarget target mapped := by
  obtain ⟨entry, hentry, hmem⟩ := List.mem_flatMap.mp hmem
  obtain ⟨placed, hplaced, rfl⟩ := exists_placed_of_mem h hentry
  have hdisk : placed.2 ∈ unallocated target :=
    mem_inNaturalOrder.mp (sizeGib_of_mem_placements hplaced).1
  rcases List.mem_cons.mp hmem with rfl | hmem
  · exact ⟨⟨placed.2, hdisk, .inl rfl⟩, _, _, rfl⟩
  · obtain ⟨child, hchild, rfl⟩ := List.mem_map.mp hmem
    obtain ⟨partition, -, index, -, rfl⟩ := mem_mappedPartitions_iff.mp (Dict.mem_ofList hchild)
    exact ⟨⟨placed.2, hdisk, .inr ⟨index, rfl⟩⟩, _, _, rfl⟩

end DeviceMapping

namespace MountTable

open DeviceMapping

variable {source : Devices} {mapping : DeviceMapping} {table : MountTable} {entry : MountEntry}

/-- Every entry of the table is that of a device whose counterpart is mounted. -/
theorem exists_entryOf_of_mem (h : ofMapping source mapping = .ok table) (hmem : entry ∈ table) :
    ∃ disk device mappedDisk, ∃ mapped ∈ everyMapped mapping, mapped.isMounted
      ∧ entry = entryOf disk device mappedDisk mapped := by
  obtain ⟨entries, hentries, hsame⟩ := bind_eq_ok_iff.mp h
  cases hsame
  obtain ⟨listed, hlisted, hentry⟩ :=
    List.mem_flatten.mp ((stableSort_perm _ _).mem_iff.mp hmem)
  obtain ⟨pair, hpair, hdisk⟩ := (mem_iff_of_mapM_eq_ok hentries).mp hlisted
  obtain ⟨disk, -, hdisk⟩ := bind_eq_ok_iff.mp hdisk
  obtain ⟨nested, hnested, hsame⟩ := bind_eq_ok_iff.mp hdisk
  cases hsame
  rcases List.mem_append.mp hentry with hown | hentry
  · split at hown
    · next hmounted =>
      rw [List.mem_singleton.mp hown]
      exact ⟨_, _, _, pair.2, mem_everyMapped_of_mem hpair, hmounted, rfl⟩
    · exact absurd hown List.not_mem_nil
  · obtain ⟨child, hchild, hsame⟩ := (mem_iff_of_mapM_eq_ok hnested).mp hentry
    obtain ⟨partition, -, hsame⟩ := bind_eq_ok_iff.mp hsame
    cases hsame
    obtain ⟨hchild, hmounted⟩ := List.mem_filter.mp hchild
    exact ⟨_, _, _, child.2, mem_everyMapped_of_mem_children hpair hchild, hmounted, rfl⟩

/-- The table mounts counterparts that are mounted. -/
theorem exists_mapped_of_mem (h : ofMapping source mapping = .ok table) (hmem : entry ∈ table) :
    ∃ mapped ∈ everyMapped mapping, mapped.isMounted ∧ entry.targetDevice = mapped.id
      ∧ entry.targetMountpoint = mapped.mountpoint := by
  obtain ⟨_, _, _, mapped, hmapped, hmounted, rfl⟩ := exists_entryOf_of_mem h hmem
  exact ⟨mapped, hmapped, hmounted, rfl, rfl⟩

end MountTable

end ServerMigration
