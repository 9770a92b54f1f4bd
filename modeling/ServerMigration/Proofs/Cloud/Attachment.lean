import ServerMigration.Migration.Provisioning
import ServerMigration.Proofs.Cloud.Operations
import ServerMigration.Proofs.Mapping.ByPlace

/-!
# Where the volumes of a target are seen

The volumes that are requested for a target are attached in the order of the request, and the
target sees them under the names of their slots.  Sizing the target, pairing its disks with those of
the source and looking up the volume of a disk order the disks independently of one another; they
agree on which volume belongs to which disk.

## Main definitions

* `slotName` : the name under which a slot is seen.
* `Provisioned` : a target with the volumes that were requested for it.

## Main results

* `Provisioned.candidates_eq` : the disks that the target may give away are its data volumes.
* `Provider.createTarget_lines_up` : the volumes, the names and the disks agree.
-/

namespace ServerMigration

open Program DeviceMapping

/-! ### Sizes -/

section

variable {disk : BlockDevice}

theorem BlockDevice.sizeGib_toNat (disk : BlockDevice) :
    disk.sizeGib.toNat = (disk.size.toNat + gib - 1) / gib := by
  have hsize := disk.size.toNat_lt
  rw [sizeGib, Nat.toUInt64_eq, UInt64.toNat_ofNat_of_lt']
  simp only [gib, UInt64.size] at hsize ⊢
  omega

/-- The size in GiB covers the bytes, and one GiB less would not. -/
theorem BlockDevice.sizeGib_covers (disk : BlockDevice) :
    disk.size.toNat ≤ disk.sizeGib.toNat * gib
      ∧ disk.sizeGib.toNat * gib < disk.size.toNat + gib := by
  rw [sizeGib_toNat]
  simp only [gib]
  omega

theorem BlockDevice.sizeGib_of_size {size : UInt64} (h : disk.size.toNat = size.toNat * gib) :
    disk.sizeGib = size := by
  refine UInt64.toNat_inj.mp ?_
  rw [sizeGib_toNat, h]
  simp only [gib]
  omega

end

/-! ### Names of slots and volumes -/

/-- The name under which a server sees the slot at a place, counted from zero. -/
def slotName (place : Nat) : String :=
  String.ofList ['v', 'd', Char.ofNat ('a'.toNat + place)]

theorem toNat_letter {place : Nat} (h : place < 26) :
    (Char.ofNat ('a'.toNat + place)).toNat = 97 + place := by
  have hvalid : ('a'.toNat + place).isValidChar := by
    refine .inl ?_
    have ha : 'a'.toNat = 97 := rfl
    omega
  rw [Char.ofNat, dif_pos hvalid]
  rfl

/-- The names of the twenty-six slots ascend. -/
theorem slotName_lt_of_lt {i j : Nat} (h : i < j) (hj : j < 26) : slotName i < slotName j := by
  have hletter : Char.ofNat ('a'.toNat + i) < Char.ofNat ('a'.toNat + j) := by
    change (Char.ofNat ('a'.toNat + i)).toNat < (Char.ofNat ('a'.toNat + j)).toNat
    rw [toNat_letter (Nat.lt_trans h hj), toNat_letter hj]
    omega
  rw [slotName, slotName, String.lt_iff, String.toList_ofList, String.toList_ofList]
  -- The first two letters of the names are the same.
  refine List.cons_lt_cons_iff.mpr (.inr ⟨rfl, List.cons_lt_cons_iff.mpr (.inr ⟨rfl, ?_⟩)⟩)
  exact List.cons_lt_cons_iff.mpr (.inl hletter)

theorem isDigit_eq_false {c : Char} (h : 57 < c.toNat) : c.isDigit = false := by
  have hnine : ¬c.toNat ≤ '9'.toNat := Nat.not_le.mpr h
  have hle : ¬c.val ≤ '9'.val := fun hle => hnine (UInt32.le_iff_toNat_le.mp hle)
  rw [Char.isDigit, decide_eq_false hle, Bool.and_false]

theorem slotName_plain {place : Nat} (h : place < 26) :
    ∀ c ∈ (slotName place).toList, c.isDigit = false := by
  have hletter : (Char.ofNat ('a'.toNat + place)).isDigit = false := by
    refine isDigit_eq_false ?_
    rw [toNat_letter h]
    omega
  rw [slotName, String.toList_ofList]
  exact List.forall_mem_cons.mpr ⟨rfl, List.forall_mem_cons.mpr ⟨rfl,
    List.forall_mem_singleton.mpr hletter⟩⟩

theorem eq_of_slotName_eq {i j : Nat} (hi : i < 26) (hj : j < 26) (h : slotName i = slotName j) :
    i = j := by
  rcases Nat.lt_trichotomy i j with hlt | hsame | hlt
  · exact absurd (slotName_lt_of_lt hlt hj) (h ▸ String.lt_irrefl _)
  · exact hsame
  · exact absurd (slotName_lt_of_lt hlt hi) (h ▸ String.lt_irrefl _)

/-- The name of the volume that is requested at a place. -/
def volumeName (target : String) : Nat → String
  | 0 => bootstrapName target
  | number + 1 => diskName target (number + 1)

theorem bootstrapName_ne_diskName (target : String) (number : Nat) :
    bootstrapName target ≠ diskName target number := by
  intro h
  have hboot : bootstrapName target = target ++ "-bootstrap" := rfl
  have hdisk : diskName target number = target ++ ("-disk-" ++ toString number) := by
    rw [← String.append_assoc]
    rfl
  rw [hboot, hdisk, String.append_right_inj] at h
  have hchars := congrArg String.toList h
  rw [String.toList_append] at hchars
  cases hchars

theorem eq_of_diskName_eq {target : String} {m n : Nat}
    (h : diskName target m = diskName target n) : m = n :=
  Text.eq_of_toString_eq ((String.append_right_inj (target ++ "-disk-")).mp h)

/-- Volumes that are requested at different places have different names. -/
theorem volumeName_injective (target : String) : Function.Injective (volumeName target) := by
  intro i j h
  match i, j with
  | 0, 0 => rfl
  | 0, j + 1 => exact absurd h (bootstrapName_ne_diskName target _)
  | i + 1, 0 => exact absurd h.symm (bootstrapName_ne_diskName target _)
  | i + 1, j + 1 => exact eq_of_diskName_eq h

/-! ### What the provider attaches and the target reports -/

/-- The volume is the one that was requested, in this slot. -/
structure VolumeInfo.Fulfils (volume : VolumeInfo) (request : VolumeRequest) (slot : Nat) :
    Prop where
  named : volume.name = request.name
  sized : volume.sizeGib = request.sizeGib
  placed : volume.deviceNumber.map (·.toNat) = some slot

/-- The disk is what a server sees of the volume.  Only the disk in the first slot is in use. -/
structure BlockDevice.Shows (disk : BlockDevice) (volume : VolumeInfo) : Prop where
  named : volume.deviceName = some disk.name
  sized : disk.size.toNat = volume.sizeGib.toNat * BlockDevice.gib
  used : disk.isUnallocated = false ↔ volume.deviceNumber = some 1

/-- The volumes are attached in the order in which they were requested, listed in any order, and
reported by the target as its disks. -/
structure Provisioned (requests : List VolumeRequest) (attached listed : List VolumeInfo)
    (disks : List BlockDevice) (target : Devices) : Prop where
  attaches : List.Forall₂ (fun volume (request, slot) => volume.Fulfils request slot) attached
    (requests.zipIdx 1)
  lists : listed.Perm attached
  shows : List.Forall₂ BlockDevice.Shows disks attached
  reports : target.values.Perm disks

section

variable {α β γ : Type} {R : α → β → Prop} {xs : List α} {ys : List β}

theorem exists_of_forall₂ (h : List.Forall₂ R xs ys) {i : Nat} {x : α} (hx : xs[i]? = some x) :
    ∃ y, ys[i]? = some y ∧ R x y := by
  obtain ⟨hi, rfl⟩ := List.getElem?_eq_some_iff.mp hx
  have hi' : i < ys.length := h.length_eq ▸ hi
  exact ⟨ys[i], List.getElem?_eq_getElem hi', h.get hi hi'⟩

theorem map_eq_of_forall₂ {f : α → γ} {g : β → γ} (h : List.Forall₂ R xs ys)
    (hfg : ∀ x y, R x y → f x = g y) : xs.map f = ys.map g := by
  induction h with
  | nil => rfl
  | cons hxy _ ih => rw [List.map_cons, List.map_cons, hfg _ _ hxy, ih]

/-- The only element with a property is the one that is found. -/
theorem find?_eq_of_unique {p : α → Bool} {x : α} (hmem : x ∈ xs) (hx : p x = true)
    (unique : ∀ y ∈ xs, p y = true → y = x) : xs.find? p = some x := by
  cases hfind : xs.find? p with
  | none => exact absurd hx (List.find?_eq_none.mp hfind x hmem)
  | some y => rw [unique y (List.mem_of_find?_eq_some hfind) (List.find?_some hfind)]

end

namespace Provisioned

variable {requests : List VolumeRequest} {attached listed : List VolumeInfo}
  {disks : List BlockDevice} {target : Devices} {volume other : VolumeInfo} {disk : BlockDevice}
  {i j : Nat}

theorem length_attached (provisioned : Provisioned requests attached listed disks target) :
    attached.length = requests.length := by
  rw [provisioned.attaches.length_eq, List.length_zipIdx]

/-- A volume is the one requested at its place, in the slot of that place. -/
theorem fulfils (provisioned : Provisioned requests attached listed disks target)
    (h : attached[i]? = some volume) :
    ∃ request, requests[i]? = some request ∧ volume.Fulfils request (i + 1) := by
  obtain ⟨⟨request, slot⟩, hplace, fulfils⟩ := exists_of_forall₂ provisioned.attaches h
  rw [List.getElem?_zipIdx, Option.map_eq_some_iff] at hplace
  obtain ⟨request', hrequest, hsame⟩ := hplace
  cases hsame
  rw [Nat.add_comm 1 i] at fulfils
  exact ⟨request, hrequest, fulfils⟩

/-- The target sees a volume under the name of its place. -/
theorem deviceName_eq (provisioned : Provisioned requests attached listed disks target)
    (few : requests.length ≤ 26) (h : attached[i]? = some volume) :
    volume.deviceName = some (slotName i) ∧ i < 26 := by
  obtain ⟨request, hrequest, fulfils⟩ := provisioned.fulfils h
  have hi : i < requests.length := (List.getElem?_eq_some_iff.mp hrequest).1
  have hi : i < 26 := Nat.lt_of_lt_of_le hi few
  obtain ⟨number, hnumber, hslot⟩ := Option.map_eq_some_iff.mp fulfils.placed
  refine ⟨?_, hi⟩
  have hrange : 1 ≤ number.toNat ∧ number.toNat ≤ 26 := by omega
  rw [VolumeInfo.deviceName, hnumber, Option.bind_eq_bind, Option.bind_some, if_pos hrange, hslot,
    Nat.add_sub_cancel, slotName]

/-- No two volumes are seen under the same name. -/
theorem eq_of_deviceName_eq (provisioned : Provisioned requests attached listed disks target)
    (few : requests.length ≤ 26) (hvolume : volume ∈ listed) (hother : other ∈ listed)
    (h : volume.deviceName = other.deviceName) : volume = other := by
  obtain ⟨i, hi⟩ := List.getElem?_of_mem (provisioned.lists.mem_iff.mp hvolume)
  obtain ⟨j, hj⟩ := List.getElem?_of_mem (provisioned.lists.mem_iff.mp hother)
  obtain ⟨hname, hi'⟩ := provisioned.deviceName_eq few hi
  obtain ⟨hname', hj'⟩ := provisioned.deviceName_eq few hj
  rw [hname, hname'] at h
  cases eq_of_slotName_eq hi' hj' (Option.some.inj h)
  exact Option.some.inj (hi.symm.trans hj)

/-- The disk at a place has the name of that place. -/
theorem name_eq (provisioned : Provisioned requests attached listed disks target)
    (few : requests.length ≤ 26) (h : disks[i]? = some disk) : disk.name = slotName i ∧ i < 26 := by
  obtain ⟨volume, hvolume, shows⟩ := exists_of_forall₂ provisioned.shows h
  obtain ⟨hname, hi⟩ := provisioned.deviceName_eq few hvolume
  exact ⟨Option.some.inj (shows.named.symm.trans hname), hi⟩

/-- The disks have the sizes that were requested. -/
theorem sizes_eq (provisioned : Provisioned requests attached listed disks target) :
    disks.map (·.sizeGib) = requests.map (·.sizeGib) := by
  have hattached : attached.map (·.sizeGib) = (requests.zipIdx 1).map (·.1.sizeGib) :=
    map_eq_of_forall₂ provisioned.attaches fun _ _ h => h.sized
  have hdisks : disks.map (·.sizeGib) = attached.map (·.sizeGib) :=
    map_eq_of_forall₂ provisioned.shows fun _ _ h => BlockDevice.sizeGib_of_size h.sized
  rw [hdisks, hattached]
  conv_rhs => rw [← List.zipIdx_map_fst 1 requests, List.map_map]
  rfl

theorem deviceNumber_eq_one_iff
    (provisioned : Provisioned requests attached listed disks target)
    (h : attached[i]? = some volume) : volume.deviceNumber = some 1 ↔ i = 0 := by
  obtain ⟨request, -, fulfils⟩ := provisioned.fulfils h
  obtain ⟨number, hnumber, hslot⟩ := Option.map_eq_some_iff.mp fulfils.placed
  rw [hnumber, Option.some.injEq, ← UInt32.toNat_inj, hslot]
  exact Nat.add_eq_right

/-- The first disk is in use, and the others are not. -/
theorem isUnallocated_iff (provisioned : Provisioned requests attached listed disks target)
    (h : disks[i]? = some disk) : disk.isUnallocated ↔ i ≠ 0 := by
  obtain ⟨volume, hvolume, shows⟩ := exists_of_forall₂ provisioned.shows h
  rw [ne_eq, ← provisioned.deviceNumber_eq_one_iff hvolume, ← shows.used, Bool.not_eq_false]

theorem filter_isUnallocated (provisioned : Provisioned requests attached listed disks target) :
    disks.filter (·.isUnallocated) = disks.tail := by
  cases disks with
  | nil => rfl
  | cons first rest =>
    have hfirst : ¬first.isUnallocated := fun h =>
      (provisioned.isUnallocated_iff (i := 0) rfl).mp h rfl
    rw [List.filter_cons_of_neg hfirst, List.tail_cons]
    refine List.filter_eq_self.mpr fun disk hmem => ?_
    obtain ⟨i, hi⟩ := List.getElem?_of_mem hmem
    exact (provisioned.isUnallocated_iff (i := i + 1) hi).mpr (Nat.succ_ne_zero i)

theorem pairwise_name (provisioned : Provisioned requests attached listed disks target)
    (few : requests.length ≤ 26) : disks.Pairwise fun a b => a.name < b.name := by
  refine List.pairwise_iff_getElem.mpr fun i j hi hj hlt => ?_
  obtain ⟨hname, -⟩ := provisioned.name_eq few (List.getElem?_eq_getElem hi)
  obtain ⟨hname', hj⟩ := provisioned.name_eq few (List.getElem?_eq_getElem hj)
  rw [hname, hname']
  exact slotName_lt_of_lt hlt hj

/-- **The disks that the target may give away are those behind the first one, in their order.** -/
theorem candidates_eq (provisioned : Provisioned requests attached listed disks target)
    (few : requests.length ≤ 26) : candidates target = disks.tail := by
  have hperm : (unallocated target).Perm disks.tail := by
    rw [← provisioned.filter_isUnallocated]
    exact provisioned.reports.filter _
  refine inNaturalOrder_eq_of_ascending hperm (fun disk hmem => ?_)
    ((provisioned.pairwise_name few).sublist (List.tail_sublist disks))
  obtain ⟨i, hi⟩ := List.getElem?_of_mem (List.mem_of_mem_tail hmem)
  obtain ⟨hname, hi⟩ := provisioned.name_eq few hi
  rw [hname]
  exact slotName_plain hi

end Provisioned

/-! ### The request for a target -/

namespace Provider

variable {provider : Provider} {spec : TargetSpec} {request : VolumeRequest} {i : Nat}

theorem name_of_volumeRequests (h : (provider.volumeRequests spec)[i]? = some request) :
    request.name = volumeName spec.name i := by
  cases i with
  | zero =>
    cases h
    rfl
  | succ i =>
    rw [volumeRequests, List.getElem?_cons_succ, List.getElem?_map, Option.map_eq_some_iff] at h
    obtain ⟨⟨size, place⟩, hplace, rfl⟩ := h
    rw [List.getElem?_zipIdx, Option.map_eq_some_iff] at hplace
    obtain ⟨size', -, hsame⟩ := hplace
    cases hsame
    rw [Nat.zero_add]
    rfl

theorem sizes_of_volumeRequests (provider : Provider) (spec : TargetSpec) :
    (provider.volumeRequests spec).map (·.sizeGib)
      = provider.bootstrapVolumeSizeGib :: spec.diskSizesGib := by
  rw [volumeRequests, List.map_cons, List.map_map]
  congr 1
  exact List.zipIdx_map_fst 0 spec.diskSizesGib

end Provider

/-- A specification for a source takes over its name and the sizes of its disks in natural order. -/
theorem of_specFor {source : Source} {inventory : SystemInfo} {spec : TargetSpec}
    (h : specFor source inventory = .ok spec) :
    spec.name = source.name
      ∧ spec.diskSizesGib = (inNaturalOrder inventory.blockDevices.values).map (·.sizeGib) := by
  rw [specFor] at h
  split at h
  · cases h
  · split at h
    · cases h
    · cases h
      exact ⟨rfl, rfl⟩

namespace Provisioned

variable {provider : Provider} {spec : TargetSpec} {attached listed : List VolumeInfo}
  {disks : List BlockDevice} {target : Devices} {volume other : VolumeInfo} {i : Nat}

/-- The volumes have the names that were requested. -/
theorem volume_name
    (provisioned : Provisioned (provider.volumeRequests spec) attached listed disks target)
    (h : attached[i]? = some volume) : volume.name = volumeName spec.name i := by
  obtain ⟨request, hrequest, fulfils⟩ := provisioned.fulfils h
  rw [fulfils.named, Provider.name_of_volumeRequests hrequest]

/-- No two volumes have the same name. -/
theorem eq_of_name_eq
    (provisioned : Provisioned (provider.volumeRequests spec) attached listed disks target)
    (hvolume : volume ∈ listed) (hother : other ∈ listed) (h : volume.name = other.name) :
    volume = other := by
  obtain ⟨i, hi⟩ := List.getElem?_of_mem (provisioned.lists.mem_iff.mp hvolume)
  obtain ⟨j, hj⟩ := List.getElem?_of_mem (provisioned.lists.mem_iff.mp hother)
  rw [provisioned.volume_name hi, provisioned.volume_name hj] at h
  cases volumeName_injective spec.name h
  exact Option.some.inj (hi.symm.trans hj)

/-- The volume in the first slot is found by the name of the bootstrap volume. -/
theorem find?_bootstrapName
    (provisioned : Provisioned (provider.volumeRequests spec) attached listed disks target)
    (h : attached[0]? = some volume) :
    listed.find? (·.name = bootstrapName spec.name) = some volume := by
  have hname : volume.name = bootstrapName spec.name := provisioned.volume_name h
  have hmem : volume ∈ listed := provisioned.lists.mem_iff.mpr (List.mem_of_getElem? h)
  refine find?_eq_of_unique hmem (by simp [hname]) fun other hother hsame => ?_
  have hsame : other.name = bootstrapName spec.name := by simpa using hsame
  exact provisioned.eq_of_name_eq hother hmem (hsame.trans hname.symm)

theorem exists_first
    (provisioned : Provisioned (provider.volumeRequests spec) attached listed disks target) :
    ∃ volume, attached[0]? = some volume := by
  have hfirst : 0 < attached.length := by
    rw [provisioned.length_attached]
    exact Nat.zero_lt_succ _
  exact ⟨attached[0], List.getElem?_eq_getElem hfirst⟩

/-- If the bootstrap interface is there, the server is recorded with the volume in the first slot as
its bootstrap volume. -/
theorem metadataOf_eq_ok_iff
    (provisioned : Provisioned (provider.volumeRequests spec) attached listed disks target)
    {server : String} {nics : List NicInfo} {metadata : CloudMetadata} :
    Provider.metadataOf spec.name server listed nics = .ok metadata ↔
      ∃ volume nic, attached[0]? = some volume
        ∧ nics.find? (·.name = bootstrapName spec.name) = some nic
        ∧ metadata = ⟨server, volume.id, nic.id, listed, nics⟩ := by
  obtain ⟨first, hfirst⟩ := provisioned.exists_first
  rw [Provider.metadataOf_eq_ok_iff, provisioned.find?_bootstrapName hfirst, hfirst]

/-- **The target is recorded if its bootstrap interface is there.** -/
theorem createTarget_ok_iff
    (provisioned : Provisioned (provider.volumeRequests spec) attached listed disks target)
    {trace : List (Exchange Site.Ask Site.Answer)} {result : Except CloudError CloudMetadata}
    {server : String} {metadata : CloudMetadata}
    (run : Program.Yields (provider.createTarget spec).run trace result)
    (hlisted : ⟨.datacenter (.listVolumes server), .ok listed⟩ ∈ trace) :
    result = .ok metadata ↔ ∃ nics, ⟨.datacenter (.listNics server), .ok nics⟩ ∈ trace
      ∧ ∃ volume nic, attached[0]? = some volume
        ∧ nics.find? (·.name = bootstrapName spec.name) = some nic
        ∧ metadata = ⟨server, volume.id, nic.id, listed, nics⟩ := by
  rw [Provider.createTarget_ok_iff run hlisted]
  exact exists_congr fun nics => and_congr_right' provisioned.metadataOf_eq_ok_iff

/-- A volume is found by the name under which it is seen. -/
theorem find?_deviceName
    (provisioned : Provisioned (provider.volumeRequests spec) attached listed disks target)
    (few : (provider.volumeRequests spec).length ≤ 26) (h : attached[i]? = some volume) :
    listed.find? (·.deviceName = some (slotName i)) = some volume := by
  obtain ⟨hname, -⟩ := provisioned.deviceName_eq few h
  have hmem : volume ∈ listed := provisioned.lists.mem_iff.mpr (List.mem_of_getElem? h)
  refine find?_eq_of_unique hmem (by simp [hname]) fun other hother hsame => ?_
  have hsame : other.deviceName = some (slotName i) := by simpa using hsame
  exact provisioned.eq_of_deviceName_eq few hother hmem (hsame.trans hname.symm)

end Provisioned

/-! ### The volume of a disk -/

/-- The volume is the one with this name, it is seen as the counterpart of the disk, and it holds
the disk with less than one GiB to spare. -/
structure VolumeInfo.Carries (volume : VolumeInfo) (name : String) (disk : BlockDevice)
    (mapped : MappedDevice) : Prop where
  named : volume.name = name
  seen : volume.deviceName = some mapped.id
  holds : disk.size.toNat ≤ volume.sizeGib.toNat * BlockDevice.gib
  tight : volume.sizeGib.toNat * BlockDevice.gib < disk.size.toNat + BlockDevice.gib

namespace Provisioned

variable {provider : Provider} {spec : TargetSpec} {attached listed : List VolumeInfo}
  {disks : List BlockDevice} {source target : Devices} {volume : VolumeInfo} {i : Nat}

/-- **The disks of the source are mapped to the data volumes in their order.** -/
theorem exists_mapping
    (provisioned : Provisioned (provider.volumeRequests spec) attached listed disks target)
    (sizes : spec.diskSizesGib = (inNaturalOrder source.values).map (·.sizeGib))
    (few : (provider.volumeRequests spec).length ≤ 26)
    (named : (source.values.map (·.name)).Nodup)
    (numbered : ∀ disk ∈ source.values, ∀ partition ∈ Dict.values disk.children,
      (partitionNumber? partition.name).isSome) :
    ∃ mapping, ofDevices source target = .ok mapping
      ∧ ∀ (i : Nat) (disk : BlockDevice), (inNaturalOrder source.values)[i]? = some disk →
        ∃ volume mapped, attached[i + 1]? = some volume
          ∧ mapping.get? disk.name = some mapped ∧ mapped.id = slotName (i + 1)
          ∧ volume.Carries (diskName spec.name (i + 1)) disk mapped := by
  have hcandidates := provisioned.candidates_eq few
  have hsizes : (candidates target).map (·.sizeGib)
      = (inNaturalOrder source.values).map (·.sizeGib) := by
    rw [hcandidates, List.map_tail, provisioned.sizes_eq, Provider.sizes_of_volumeRequests,
      List.tail_cons, sizes]
  obtain ⟨mapping, hmapping, hplaces⟩ := exists_ofDevices_by_place named numbered hsizes
  refine ⟨mapping, hmapping, fun i disk hdisk => ?_⟩
  have hplace : ((candidates target).map (·.sizeGib))[i]? = some disk.sizeGib := by
    rw [hsizes, List.getElem?_map, hdisk, Option.map_some]
  rw [List.getElem?_map, Option.map_eq_some_iff] at hplace
  obtain ⟨device, hdevice, hsize⟩ := hplace
  have hmapped := hplaces i disk device hdisk hdevice
  -- The target disk at this place is the one behind the volume with the next number.
  rw [hcandidates, List.getElem?_tail] at hdevice
  obtain ⟨volume, hvolume, shows⟩ := exists_of_forall₂ provisioned.shows hdevice
  obtain ⟨hname, -⟩ := provisioned.name_eq few hdevice
  have hvolumeSize : volume.sizeGib = disk.sizeGib := by
    rw [← hsize, BlockDevice.sizeGib_of_size shows.sized]
  obtain ⟨hholds, htight⟩ := disk.sizeGib_covers
  refine ⟨volume, _, hvolume, hmapped, hname, provisioned.volume_name hvolume, shows.named, ?_, ?_⟩
  · rw [hvolumeSize]
    exact hholds
  · rw [hvolumeSize]
    exact htight

end Provisioned

/-- **Sizing the target, pairing its disks and looking up volumes agree.**  If the requested volumes
are attached in the order of the request, then the disks of the source are mapped to the data
volumes in their order, and the volume at which the counterpart of a disk is found is the one
requested for it.  The recorded bootstrap volume is the one in the first slot. -/
theorem Provider.createTarget_lines_up {provider : Provider} {source : Source}
    {inventory : SystemInfo} {spec : TargetSpec} {attached listed : List VolumeInfo}
    {disks : List BlockDevice} {target : Devices} {trace : List (Exchange Site.Ask Site.Answer)}
    {result : Except CloudError CloudMetadata} {server : String}
    (sized : specFor source inventory = .ok spec) (few : inventory.blockDevices.length ≤ 25)
    (named : (inventory.blockDevices.values.map (·.name)).Nodup)
    (numbered : ∀ disk ∈ inventory.blockDevices.values, ∀ partition ∈ Dict.values disk.children,
      (partitionNumber? partition.name).isSome)
    (provisioned :
      Provisioned (provider.serverRequest spec).volumes attached listed disks target)
    (run : Program.Yields (provider.createTarget spec).run trace result)
    (hlisted : ⟨.datacenter (.listVolumes server), .ok listed⟩ ∈ trace) :
    ((∃ metadata, result = .ok metadata) ↔
        ∃ nics, ⟨.datacenter (.listNics server), .ok nics⟩ ∈ trace
          ∧ bootstrapName source.name ∈ nics.map (·.name))
      ∧ (∀ metadata, result = .ok metadata → ∃ volume ∈ listed,
        volume.deviceNumber = some 1 ∧ metadata.bootstrapVolumeId = volume.id)
      ∧ ∃ mapping, ofDevices inventory.blockDevices target = .ok mapping
        ∧ ∀ (i : Nat) (disk : BlockDevice),
          (inNaturalOrder inventory.blockDevices.values)[i]? = some disk →
          ∃ volume mapped, attached[i + 1]? = some volume
            ∧ mapping.get? disk.name = some mapped
            ∧ volume.Carries (diskName source.name (i + 1)) disk mapped
            ∧ ∀ metadata, result = .ok metadata → metadata.volumeAt? mapped.id = some volume
              ∧ ∀ other ∈ metadata.volumes, other.name = volume.name → other = volume := by
  obtain ⟨hname, hsizes⟩ := of_specFor sized
  have fewRequests : (provider.volumeRequests spec).length ≤ 26 := by
    rw [volumeRequests, List.length_cons, List.length_map, List.length_zipIdx, hsizes,
      List.length_map, (inNaturalOrder_perm _).length_eq, Dict.values, List.length_map]
    omega
  have recorded : ∀ metadata, result = .ok metadata ↔ _ := fun _ =>
    provisioned.createTarget_ok_iff run hlisted
  obtain ⟨mapping, hmapping, hplaces⟩ :=
    provisioned.exists_mapping hsizes fewRequests named numbered
  rw [hname] at recorded hplaces
  refine ⟨⟨?_, ?_⟩, fun metadata hok => ?_, mapping, hmapping, fun i disk hdisk => ?_⟩
  · rintro ⟨metadata, hok⟩
    obtain ⟨nics, hnics, volume, nic, -, hnic, -⟩ := (recorded metadata).mp hok
    have hnamed : nic.name = bootstrapName source.name := by simpa using List.find?_some hnic
    exact ⟨nics, hnics, List.mem_map.mpr ⟨nic, List.mem_of_find?_eq_some hnic, hnamed⟩⟩
  · rintro ⟨nics, hnics, hmem⟩
    have hsome : (nics.find? (·.name = bootstrapName source.name)).isSome := by
      simpa using hmem
    obtain ⟨nic, hnic⟩ := Option.isSome_iff_exists.mp hsome
    obtain ⟨first, hfirst⟩ := provisioned.exists_first
    exact ⟨_, (recorded _).mpr ⟨nics, hnics, first, nic, hfirst, hnic, rfl⟩⟩
  · obtain ⟨nics, -, volume, nic, hvolume, -, rfl⟩ := (recorded metadata).mp hok
    refine ⟨volume, provisioned.lists.mem_iff.mpr (List.mem_of_getElem? hvolume), ?_, rfl⟩
    exact (provisioned.deviceNumber_eq_one_iff hvolume).mpr rfl
  · obtain ⟨volume, mapped, hvolume, hmapped, hid, carries⟩ := hplaces i disk hdisk
    refine ⟨volume, mapped, hvolume, hmapped, carries, fun metadata hok => ?_⟩
    obtain ⟨nics, -, _, nic, -, -, rfl⟩ := (recorded metadata).mp hok
    have hmem := provisioned.lists.mem_iff.mpr (List.mem_of_getElem? hvolume)
    refine ⟨?_, fun other hother hsame => provisioned.eq_of_name_eq hother hmem hsame⟩
    rw [CloudMetadata.volumeAt?, hid]
    exact provisioned.find?_deviceName fewRequests hvolume

/-- A source whose target boots from an image. -/
def webSource : Source :=
  { (default : Source) with
    name := "web"
    target := { (default : Target) with
      blueprint := { (default : Blueprint) with templateImage := "debian-12" } } }

/-- Three disks, two of them of the same size. -/
def webInventory : SystemInfo where
  blockDevices :=
    [("sda", { blank "sda" 10 with children := [("sda1", blank "sda1" 10)] }),
      ("sdb", blank "sdb" 20), ("sdc", blank "sdc" 10)]
  hardware := ⟨2, 4096⟩

/-- The target that fits them. -/
def webSpec : TargetSpec where
  name := "web"
  cores := 2
  ramMib := 4096
  templateImage := "debian-12"
  sshKeys := []
  bootstrapNic := ⟨"bootstrap", 0, []⟩
  nics := []
  diskSizesGib := [10, 20, 10]

/-- The volumes of the target in the order of their slots. -/
def webVolumes : List VolumeInfo :=
  [⟨"a", "web-bootstrap", 10, some 1⟩, ⟨"b", "web-disk-1", 10, some 2⟩,
    ⟨"c", "web-disk-2", 20, some 3⟩, ⟨"d", "web-disk-3", 10, some 4⟩]

/-- What the target sees of them. -/
def webDisks : List BlockDevice :=
  [{ blank "vda" 10 with fs := "ext4" }, blank "vdb" 10, blank "vdc" 20, blank "vdd" 10]

/-- The inventory of the target. -/
def webDevices : Devices :=
  webDisks.map fun disk => (disk.name, disk)

/-- The interfaces of the target. -/
def webNics : List NicInfo :=
  [⟨"e", "web-bootstrap", 1, ["10.0.0.5"], none⟩]

/-- The creation of the target. -/
def webCreation : List (Exchange Site.Ask Site.Answer) :=
  [⟨.datacenter (.createServer (Provider.serverRequest {} webSpec)), .ok ⟨"web", "request"⟩⟩,
    ⟨.elapsed, ⟨0⟩⟩, ⟨.datacenter (.requestStatus "request"), .ok ⟨"DONE", none⟩⟩,
    ⟨.datacenter (.listVolumes "web"), .ok webVolumes.reverse⟩,
    ⟨.datacenter (.listNics "web"), .ok webNics⟩]

theorem specFor_webSource : specFor webSource webInventory = .ok webSpec := by
  with_unfolding_all rfl

theorem provisioned_webSpec : Provisioned (Provider.serverRequest {} webSpec).volumes webVolumes
    webVolumes.reverse webDisks webDevices where
  attaches := .cons ⟨rfl, rfl, rfl⟩ (.cons ⟨rfl, rfl, rfl⟩ (.cons ⟨rfl, rfl, rfl⟩
    (.cons ⟨rfl, rfl, rfl⟩ .nil)))
  lists := List.reverse_perm _
  shows := .cons ⟨rfl, rfl, by decide⟩ (.cons ⟨rfl, rfl, by decide⟩ (.cons ⟨rfl, rfl, by decide⟩
    (.cons ⟨rfl, rfl, by decide⟩ .nil)))
  reports := .refl _

theorem yields_webCreation :
    Program.Yields (Provider.createTarget {} webSpec).run webCreation
      (.ok ⟨"web", "a", "e", webVolumes.reverse, webNics⟩) :=
  .ask _ (.ask _ (.ask _ (.ask _ (.ask _ (.done _)))))

/-- The volumes of this target line up with the disks of its source, although they are listed in
reverse and the first and the last one have the same size. -/
theorem webSource_lines_up :
    specFor webSource webInventory = .ok webSpec
      ∧ webInventory.blockDevices.length ≤ 25
      ∧ (webInventory.blockDevices.values.map (·.name)).Nodup
      ∧ (∀ disk ∈ webInventory.blockDevices.values, ∀ partition ∈ Dict.values disk.children,
        (partitionNumber? partition.name).isSome)
      ∧ Provisioned (Provider.serverRequest {} webSpec).volumes webVolumes webVolumes.reverse
        webDisks webDevices
      ∧ ∃ result mapping, Program.Yields (Provider.createTarget {} webSpec).run webCreation result
        ∧ (∃ metadata, result = .ok metadata)
        ∧ (∀ metadata, result = .ok metadata → ∃ volume ∈ webVolumes.reverse,
          volume.deviceNumber = some 1 ∧ metadata.bootstrapVolumeId = volume.id)
        ∧ ofDevices webInventory.blockDevices webDevices = .ok mapping
        ∧ ∀ (i : Nat) (disk : BlockDevice),
          (inNaturalOrder webInventory.blockDevices.values)[i]? = some disk →
          ∃ volume mapped, webVolumes[i + 1]? = some volume
            ∧ mapping.get? disk.name = some mapped
            ∧ volume.Carries (diskName webSource.name (i + 1)) disk mapped
            ∧ ∀ metadata, result = .ok metadata → metadata.volumeAt? mapped.id = some volume
              ∧ ∀ other ∈ metadata.volumes, other.name = volume.name → other = volume := by
  have few : webInventory.blockDevices.length ≤ 25 := by decide
  have named : (webInventory.blockDevices.values.map (·.name)).Nodup := by decide
  have numbered : ∀ disk ∈ webInventory.blockDevices.values,
      ∀ partition ∈ Dict.values disk.children, (partitionNumber? partition.name).isSome := by
    decide +kernel
  have hlisted : ⟨.datacenter (.listVolumes "web"), .ok webVolumes.reverse⟩ ∈ webCreation := by
    simp [webCreation]
  have hnics : ⟨.datacenter (.listNics "web"), .ok webNics⟩ ∈ webCreation := by
    simp [webCreation]
  obtain ⟨hcreated, hbootstrap, mapping, hmapping, hplaces⟩ :=
    Provider.createTarget_lines_up specFor_webSource few named numbered provisioned_webSpec
      yields_webCreation hlisted
  exact ⟨specFor_webSource, few, named, numbered, provisioned_webSpec, _, mapping,
    yields_webCreation, hcreated.mpr ⟨webNics, hnics, by decide⟩, hbootstrap, hmapping, hplaces⟩

end ServerMigration
