import ServerMigration.Device.BlockDevice

/-!
# All devices of an inventory

## Main definitions

* `Devices.tree` : the devices on all levels.
* `Devices.surface` : the disks and their partitions.
-/

namespace ServerMigration

mutual

/-- A device and everything below it. -/
def BlockDevice.tree : BlockDevice → List BlockDevice
  | ⟨name, size, fs, uuid, label, mountpoint, bootable, children⟩ =>
    ⟨name, size, fs, uuid, label, mountpoint, bootable, children⟩ :: Devices.tree children

/-- The devices of an inventory on all levels, each followed by what is below it. -/
def Devices.tree : Devices → List BlockDevice
  | [] => []
  | (_, device) :: devices => device.tree ++ Devices.tree devices

end

/-- The disks of an inventory, each followed by its partitions. -/
def Devices.surface (devices : Devices) : List BlockDevice :=
  devices.values.flatMap fun disk => disk :: Dict.values disk.children

theorem BlockDevice.tree_eq (device : BlockDevice) :
    device.tree = device :: Devices.tree device.children := by
  cases device
  rw [tree]

namespace Devices

theorem values_sublist_tree (devices : Devices) : devices.values.Sublist devices.tree := by
  induction devices with
  | nil => exact List.Sublist.slnil
  | cons entry devices ih =>
    obtain ⟨name, device⟩ := entry
    rw [tree, BlockDevice.tree_eq]
    exact (ih.trans (List.sublist_append_right _ _)).cons_cons device

/-- Everything below a device of an inventory stands in its tree. -/
theorem tree_subset_of_mem {devices : Devices} {device : BlockDevice}
    (h : device ∈ devices.values) : device.tree ⊆ devices.tree := by
  induction devices with
  | nil => exact absurd h List.not_mem_nil
  | cons entry devices ih =>
    obtain ⟨name, first⟩ := entry
    rw [tree]
    rcases List.mem_cons.mp h with rfl | h
    · exact List.subset_append_left _ _
    · exact List.Subset.trans (ih h) (List.subset_append_right _ _)

/-- The disks and partitions stand in the tree in their order. -/
theorem surface_sublist_tree (devices : Devices) : devices.surface.Sublist devices.tree := by
  induction devices with
  | nil => exact List.Sublist.slnil
  | cons entry devices ih =>
    obtain ⟨name, device⟩ := entry
    rw [tree, BlockDevice.tree_eq]
    exact ((values_sublist_tree device.children).cons_cons device).append ih

end Devices

end ServerMigration
