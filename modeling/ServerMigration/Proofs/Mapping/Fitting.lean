import ServerMigration.Mapping.MountTable
import ServerMigration.Proofs.Inventory.Orderly
import ServerMigration.Proofs.StableSort

/-!
# A mapping and the inventory it was made from

## Main definitions

* `DeviceMapping.Fits` : every device that is mapped stands in an inventory.

## Main results

* `DeviceMapping.fits_of_ofDevices` : a mapping fits the inventory that it was made from.
* `MountTable.exists_ofMapping_eq_ok` : such an inventory and such a mapping have a mount table.
-/

namespace ServerMigration

namespace DeviceMapping

variable {devices target : Devices} {mapping : DeviceMapping}

/-- Every disk that is mapped stands in the inventory, and so does every partition of it that is
mapped. -/
def Fits (mapping : DeviceMapping) (devices : Devices) : Prop :=
  ∀ name mapped, (name, mapped) ∈ mapping → ∃ disk, devices.get? name = some disk
    ∧ ∀ partition child, (partition, child) ∈ mapped.children →
      ∃ device, Dict.get? disk.children partition = some device

/-- The counterpart of a disk has children for partitions of the disk only. -/
theorem exists_partition_of_mem {disk : BlockDevice} {targetDisk : String} {mapped : MappedDevice}
    (h : mappedDisk disk targetDisk = .ok mapped) {name : String} {child : MappedDevice}
    (hmem : (name, child) ∈ mapped.children) :
    ∃ partition ∈ Dict.values disk.children, partition.name = name := by
  rw [mappedDisk] at h
  split at h
  · cases h
    obtain ⟨partition, hpartition, hnamed⟩ := List.mem_filterMap.mp (Dict.mem_ofList hmem)
    obtain ⟨index, -, hsame⟩ := Option.map_eq_some_iff.mp hnamed
    cases hsame
    exact ⟨partition, (stableSort_perm _ _).mem_iff.mp hpartition, rfl⟩
  · cases h

theorem fits_of_pairs (orderly : devices.Orderly)
    (pairs : ∀ entry ∈ mapping, ∃ disk ∈ devices.values, ∃ targetDisk,
      entry.1 = disk.name ∧ mappedDisk disk targetDisk = .ok entry.2) :
    mapping.Fits devices := by
  intro name mapped hmem
  obtain ⟨disk, hdisk, targetDisk, rfl, hmapped⟩ := pairs _ hmem
  refine ⟨disk, orderly.get?_of_mem hdisk, fun partition child hchild => ?_⟩
  obtain ⟨device, hdevice, rfl⟩ := exists_partition_of_mem hmapped hchild
  exact ⟨device, (orderly.children_of_mem hdisk).get?_of_mem hdevice⟩

/-- Pairing a disk adds nothing to the mapping but the counterpart of that disk. -/
theorem mem_of_pairDisk {state : Pairing} {disk : BlockDevice} {entry : String × MappedDevice}
    (h : entry ∈ (pairDisk state disk).mapping) :
    entry ∈ state.mapping
      ∨ ∃ targetDisk, entry.1 = disk.name ∧ mappedDisk disk targetDisk = .ok entry.2 := by
  rw [pairDisk] at h
  split at h
  · exact .inl h
  · next taken pool _ =>
    split at h
    · next mapped hmapped =>
      rcases Dict.mem_insert h with rfl | h
      · exact .inr ⟨taken.name, rfl, hmapped⟩
      · exact .inl h
    · exact .inl h

theorem mem_of_foldl_pairDisk {disks : List BlockDevice} {state : Pairing}
    {entry : String × MappedDevice} (h : entry ∈ (disks.foldl pairDisk state).mapping) :
    entry ∈ state.mapping ∨ ∃ disk ∈ disks, ∃ targetDisk,
      entry.1 = disk.name ∧ mappedDisk disk targetDisk = .ok entry.2 := by
  induction disks generalizing state with
  | nil => exact .inl h
  | cons disk disks ih =>
    rcases ih h with h | ⟨later, hlater, hentry⟩
    · rcases mem_of_pairDisk h with h | hentry
      · exact .inl h
      · exact .inr ⟨disk, List.mem_cons_self, hentry⟩
    · exact .inr ⟨later, List.mem_cons_of_mem _ hlater, hentry⟩

/-- **A mapping fits the inventory that it was made from.** -/
theorem fits_of_ofDevices (orderly : devices.Orderly)
    (h : ofDevices devices target = .ok mapping) : mapping.Fits devices := by
  refine fits_of_pairs orderly fun entry hmem => ?_
  unfold ofDevices at h
  dsimp only at h
  split at h
  · cases h
    rcases mem_of_foldl_pairDisk hmem with hmem | ⟨disk, hdisk, hentry⟩
    · exact absurd hmem List.not_mem_nil
    · exact ⟨disk, (stableSort_perm _ _).mem_iff.mp hdisk, hentry⟩
  · cases h

end DeviceMapping

namespace MountTable

variable {devices : Devices} {mapping : DeviceMapping}

theorem exists_diskEntries_eq_ok {name : String} {mapped : MappedDevice} {disk : BlockDevice}
    (hdisk : devices.get? name = some disk)
    (hchildren : ∀ partition child, (partition, child) ∈ mapped.children →
      ∃ device, Dict.get? disk.children partition = some device) :
    ∃ entries, diskEntries devices name mapped = .ok entries := by
  have hlook : lookUp devices name "device" = .ok disk := by rw [lookUp, hdisk]
  have hnested : ∃ nested, (mapped.children.filter (·.2.isMounted)).mapM (fun entry => do
      return entryOf disk (← lookUp disk.children entry.1 "partition") mapped entry.2)
        = .ok nested := by
    refine exists_mapM_eq_ok fun ⟨partition, child⟩ hmem => ?_
    obtain ⟨device, hdevice⟩ := hchildren partition child (List.mem_filter.mp hmem).1
    refine ⟨entryOf disk device mapped child, ?_⟩
    rw [lookUp, hdevice]
    rfl
  obtain ⟨nested, hnested⟩ := hnested
  refine ⟨_, bind_eq_ok_iff.mpr ⟨disk, hlook, bind_eq_ok_iff.mpr ⟨nested, hnested, rfl⟩⟩⟩

/-- **An inventory and a mapping that fits it have a mount table.** -/
theorem exists_ofMapping_eq_ok (fits : mapping.Fits devices) :
    ∃ table, ofMapping devices mapping = .ok table := by
  have hentries : ∃ entries,
      mapping.mapM (fun entry => diskEntries devices entry.1 entry.2) = .ok entries := by
    refine exists_mapM_eq_ok fun ⟨name, mapped⟩ hmem => ?_
    obtain ⟨disk, hdisk, hchildren⟩ := fits name mapped hmem
    exact exists_diskEntries_eq_ok hdisk hchildren
  obtain ⟨entries, hentries⟩ := hentries
  exact ⟨ofEntries entries.flatten, bind_eq_ok_iff.mpr ⟨entries, hentries, rfl⟩⟩

end MountTable

end ServerMigration
