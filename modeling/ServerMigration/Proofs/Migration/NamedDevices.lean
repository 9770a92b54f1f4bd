import Mathlib.Data.List.Nodup
import ServerMigration.Migration.Fstab
import ServerMigration.Proofs.Inventory.Orderly
import ServerMigration.Proofs.Inventory.Tree

/-!
# Devices under their names

A device is looked up by the name under which it stands, in a forest of any depth.  If no name is
given twice, every device is found under its own.

## Main definitions

* `Devices.entries` : the devices on all levels with the names under which they stand.

## Main results

* `deviceNamed?_eq_some_iff` : a device is found under the name under which it stands.
* `mem_tree_of_deviceNamed?` : a device that is found by its name stands in the tree.
-/

namespace ServerMigration

variable {devices : Devices} {device : BlockDevice} {name : String}

/-! ### Forests -/

mutual

/-- The devices below a device with the names under which they stand. -/
def BlockDevice.entriesBelow : BlockDevice → List (String × BlockDevice)
  | ⟨_, _, _, _, _, _, _, children⟩ => Devices.entries children

/-- The devices of an inventory on all levels with the names under which they stand. -/
def Devices.entries : Devices → List (String × BlockDevice)
  | [] => []
  | (key, device) :: devices => (key, device) :: (device.entriesBelow ++ Devices.entries devices)

end

/-- An induction over a forest goes through what lies below its first tree and through its other
trees. -/
@[elab_as_elim]
theorem Devices.forestInduction {motive : Devices → Prop} (nil : motive [])
    (cons : ∀ key device devices, motive device.children → motive devices →
      motive ((key, device) :: devices)) : ∀ devices, motive devices
  | [] => nil
  | (key, ⟨name, size, fs, uuid, label, mountpoint, bootable, children⟩) :: devices =>
    cons key ⟨name, size, fs, uuid, label, mountpoint, bootable, children⟩ devices
      (forestInduction nil cons children) (forestInduction nil cons devices)

theorem Devices.entries_cons (key : String) (device : BlockDevice) (devices : Devices) :
    Devices.entries ((key, device) :: devices)
      = (key, device) :: (Devices.entries device.children ++ Devices.entries devices) := by
  cases device
  rw [Devices.entries, BlockDevice.entriesBelow]

/-! ### Orderly inventories -/

theorem Devices.Orderly.tail {entry : String × BlockDevice} (orderly : Orderly (entry :: devices)) :
    devices.Orderly := by
  obtain ⟨sorted, named, below⟩ := orderly
  exact .intro (List.pairwise_cons.mp sorted).2 (fun e h => named e (List.mem_cons_of_mem _ h))
    fun e h => below e (List.mem_cons_of_mem _ h)

/-- In an orderly inventory the names under which devices stand are their own. -/
theorem Devices.Orderly.entries_eq (orderly : devices.Orderly) :
    devices.entries = devices.tree.map fun device => (device.name, device) := by
  induction devices using Devices.forestInduction with
  | nil => rfl
  | cons key device devices below ih =>
    have hbelow := below (orderly.children_of_mem List.mem_cons_self)
    have hrest := ih orderly.tail
    obtain ⟨-, named, -⟩ := orderly
    have hkey : key = device.name := named _ List.mem_cons_self
    rw [Devices.entries_cons, Devices.tree, BlockDevice.tree_eq, hbelow, hrest, hkey,
      List.cons_append, List.map_cons, List.map_append]

/-- In an orderly inventory no name is given twice if no two devices share a name. -/
theorem Devices.Orderly.nodup_entries (orderly : devices.Orderly)
    (named : (devices.tree.map (·.name)).Nodup) : (devices.entries.map (·.1)).Nodup := by
  rw [orderly.entries_eq, List.map_map]
  exact named

theorem mem_entries_of_mem {entry : String × BlockDevice} (h : entry ∈ devices) :
    entry ∈ devices.entries := by
  induction devices with
  | nil => exact absurd h List.not_mem_nil
  | cons first devices ih =>
    obtain ⟨key, device⟩ := first
    rw [Devices.entries_cons]
    rcases List.mem_cons.mp h with rfl | h
    · exact List.mem_cons_self
    · exact List.mem_cons_of_mem _ (List.mem_append_right _ (ih h))

/-- The devices of a level come before all that are below them. -/
theorem deviceNamed?_eq (devices : Devices) (name : String) :
    deviceNamed? devices name = (devices.lookup name).or (deviceNamed?.findBelow name devices) := by
  rw [deviceNamed?]
  cases devices.lookup name <;> rfl

theorem findBelow_cons (key : String) (device : BlockDevice) (devices : Devices) :
    deviceNamed?.findBelow name ((key, device) :: devices)
      = (deviceNamed? device.children name).or (deviceNamed?.findBelow name devices) := by
  obtain ⟨_, _, _, _, _, _, _, children⟩ := device
  rw [deviceNamed?.findBelow, deviceNamed?_eq]
  cases children.lookup name with
  | some found => rfl
  | none => cases deviceNamed?.findBelow name children <;> rfl

theorem mem_entries_of_findBelow (h : deviceNamed?.findBelow name devices = some device) :
    (name, device) ∈ devices.entries := by
  induction devices using Devices.forestInduction with
  | nil =>
    rw [deviceNamed?.findBelow] at h
    cases h
  | cons key first devices below ih =>
    rw [findBelow_cons, deviceNamed?_eq, Option.or_assoc] at h
    rw [Devices.entries_cons]
    refine List.mem_cons_of_mem _ ?_
    rcases Option.or_eq_some_iff.mp h with hfound | ⟨-, h⟩
    · exact List.mem_append_left _ (mem_entries_of_mem (Dict.mem_of_get? hfound))
    · rcases Option.or_eq_some_iff.mp h with hfound | ⟨-, hfound⟩
      · exact List.mem_append_left _ (below hfound)
      · exact List.mem_append_right _ (ih hfound)

/-- A device that is found under a name stands under it. -/
theorem mem_entries_of_deviceNamed? (h : deviceNamed? devices name = some device) :
    (name, device) ∈ devices.entries := by
  rw [deviceNamed?_eq] at h
  rcases Option.or_eq_some_iff.mp h with hfound | ⟨-, hfound⟩
  · exact mem_entries_of_mem (Dict.mem_of_get? hfound)
  · exact mem_entries_of_findBelow hfound

/-- No device is overlooked. -/
theorem deviceNamed?_ne_none (h : (name, device) ∈ devices.entries) :
    deviceNamed? devices name ≠ none := by
  induction devices using Devices.forestInduction with
  | nil => exact absurd h List.not_mem_nil
  | cons key first devices below ih =>
    rw [deviceNamed?_eq, Ne, Option.or_eq_none_iff, findBelow_cons, Option.or_eq_none_iff]
    rintro ⟨hlevel, hbelow, hrest⟩
    rw [List.lookup_cons] at hlevel
    split at hlevel
    · cases hlevel
    · next hkey =>
      rw [Devices.entries_cons, List.mem_cons, List.mem_append] at h
      rcases h with h | h | h
      · obtain ⟨rfl, rfl⟩ := Prod.mk.inj h
        simp at hkey
      · exact below h hbelow
      · refine ih h ?_
        rw [deviceNamed?_eq, hlevel, hrest]
        rfl

/-- **If no name is given twice, a device is found under the name under which it stands, on
whichever level.** -/
theorem deviceNamed?_eq_some_iff (unique : (devices.entries.map (·.1)).Nodup) :
    deviceNamed? devices name = some device ↔ (name, device) ∈ devices.entries := by
  refine ⟨mem_entries_of_deviceNamed?, fun h => ?_⟩
  obtain ⟨found, hfound⟩ := Option.ne_none_iff_exists'.mp (deviceNamed?_ne_none h)
  have hsame := List.inj_on_of_nodup_map unique (mem_entries_of_deviceNamed? hfound) h rfl
  rw [hfound, (Prod.mk.inj hsame).2]

/-- **A device that is found by its name stands in the tree and has that name.** -/
theorem mem_tree_of_deviceNamed? (orderly : devices.Orderly)
    (h : deviceNamed? devices name = some device) : device ∈ devices.tree ∧ device.name = name := by
  have hentry := mem_entries_of_deviceNamed? h
  rw [orderly.entries_eq] at hentry
  obtain ⟨found, hfound, hsame⟩ := List.mem_map.mp hentry
  obtain ⟨hname, rfl⟩ := Prod.mk.inj hsame
  exact ⟨hfound, hname⟩

end ServerMigration
