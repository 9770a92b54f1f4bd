import ServerMigration.Proofs.Mapping.Replica
import ServerMigration.Proofs.Text.NaturalOrder

/-!
# Pairing disks place by place

If the unallocated disks of the target have the sizes of the source's disks in the same order, the
first fit pairs them place by place.

## Main results

* `DeviceMapping.targetOf_take` : every disk gets the target disk at its place.
* `DeviceMapping.exists_ofDevices_by_place` : the mapping, if the sizes agree at every place.
* `DeviceMapping.inNaturalOrder_eq_of_ascending` : disks whose names have no digits are in natural
  order if their names ascend.
-/

namespace ServerMigration.DeviceMapping

variable {source target : Devices} {pool disks : List BlockDevice} {disk device : BlockDevice}
  {i : Nat}

/-- An element stands among those with its property behind the ones before it. -/
theorem getElem?_filter_of_take {α : Type} {p : α → Bool} {l : List α} {x : α} (hi : l[i]? = some x)
    (hx : p x = true) : (l.filter p)[((l.take i).filter p).length]? = some x := by
  obtain ⟨hlt, rfl⟩ := List.getElem?_eq_some_iff.mp hi
  have hcut : l.filter p = (l.take i).filter p ++ l[i] :: (l.drop (i + 1)).filter p := by
    conv_lhs => rw [← List.take_append_drop i l, List.drop_eq_getElem_cons hlt]
    rw [List.filter_append, List.filter_cons_of_pos hx]
  rw [hcut, List.getElem?_append_right (Nat.le_refl _), Nat.sub_self]
  rfl

/-- The number of disks of a size depends on the sizes only. -/
theorem length_ofSize (size : UInt64) (disks : List BlockDevice) :
    (ofSize size disks).length = (disks.map (·.sizeGib)).count size := by
  rw [ofSize, List.count, List.countP_map, List.countP_eq_length_filter]
  rfl

/-- **If the sizes agree at every place, a disk gets the target disk at its place.** -/
theorem targetOf_take (sizes : pool.map (·.sizeGib) = disks.map (·.sizeGib))
    (hdisk : disks[i]? = some disk) (hdevice : pool[i]? = some device) :
    targetOf pool (disks.take i) disk = some device := by
  have hsize : device.sizeGib = disk.sizeGib := by
    have hplace := congrArg (·[i]?) sizes
    simpa [hdisk, hdevice] using hplace
  have hbefore : (ofSize disk.sizeGib (disks.take i)).length
      = (ofSize disk.sizeGib (pool.take i)).length := by
    rw [length_ofSize, length_ofSize, List.map_take, List.map_take, sizes]
  rw [targetOf, hbefore]
  exact getElem?_filter_of_take hdevice (by simp [hsize])

theorem mem_placements (hdisk : disks[i]? = some disk)
    (h : targetOf pool (disks.take i) disk = some device) :
    (disk, device) ∈ placements pool disks := by
  have hplace : (disks.take i, disk) ∈ withEarlier disks :=
    List.mem_map.mpr ⟨(disk, i), List.mk_mem_zipIdx_iff_getElem?.mpr hdisk, rfl⟩
  refine List.mem_filterMap.mpr ⟨_, hplace, ?_⟩
  dsimp only
  rw [h]
  rfl

/-- **If the sizes agree at every place, every disk is mapped to the target disk at its place.** -/
theorem exists_ofDevices_by_place (named : (source.values.map (·.name)).Nodup)
    (numbered : ∀ disk ∈ source.values, ∀ partition ∈ Dict.values disk.children,
      (partitionNumber? partition.name).isSome)
    (sizes : (candidates target).map (·.sizeGib)
      = (inNaturalOrder source.values).map (·.sizeGib)) :
    ∃ mapping, ofDevices source target = .ok mapping
      ∧ ∀ (i : Nat) (disk device : BlockDevice),
        (inNaturalOrder source.values)[i]? = some disk → (candidates target)[i]? = some device →
        mapping.get? disk.name = some (replica disk device.name) := by
  have henough : ∀ size,
      (ofSize size source.values).length ≤ (ofSize size (unallocated target)).length := by
    intro size
    have hcount : (ofSize size (inNaturalOrder source.values)).length
        = (ofSize size (candidates target)).length := by
      rw [length_ofSize, length_ofSize, sizes]
    rw [← length_ofSize_inNaturalOrder, ← length_ofSize_candidates]
    exact Nat.le_of_eq hcount
  have hnothing := (complaints_candidates_eq_nil_iff source target).mpr ⟨henough, numbered⟩
  have h := ofDevices_eq_ok_iff.mpr ⟨hnothing, rfl⟩
  refine ⟨_, h, fun i disk device hdisk hdevice => ?_⟩
  have hplaced := mem_placements hdisk (targetOf_take sizes hdisk hdevice)
  have hentry := (mapping_perm named h).mem_iff.mpr (List.mem_map_of_mem hplaced)
  exact (Dict.sorted_ofList _).get?_of_mem hentry

/-! ### Names without digits -/

/-- **Disks whose names have no digits are in natural order if their names ascend.** -/
theorem inNaturalOrder_eq_of_ascending {sorted : List BlockDevice} (hperm : disks.Perm sorted)
    (plain : ∀ disk ∈ sorted, ∀ c ∈ disk.name.toList, c.isDigit = false)
    (ascending : sorted.Pairwise fun a b => a.name < b.name) : inNaturalOrder disks = sorted := by
  have hnamed : (disks.map (·.name)).Nodup := by
    refine (hperm.map _).nodup_iff.mpr (List.pairwise_map.mpr (ascending.imp fun {a b} hlt => ?_))
    rintro hsame
    exact String.lt_irrefl _ (hsame ▸ hlt)
  have hsort : inNaturalOrder disks
      = stableSort (fun a b => compareStrings a.name b.name) disks := by
    refine stableSort_congr fun a ha b hb => ?_
    exact Text.naturalCompare_eq_compareStrings (plain a (hperm.mem_iff.mp ha))
      (plain b (hperm.mem_iff.mp hb))
  rw [hsort]
  exact eq_of_perm_of_pairwise_lt (stableSort_pairwise_lt hnamed) ascending
    ((stableSort_perm _ _).trans hperm)

end ServerMigration.DeviceMapping
