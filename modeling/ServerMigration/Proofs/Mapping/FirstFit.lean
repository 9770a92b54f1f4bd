import Mathlib.Data.List.Forall2
import Mathlib.Data.List.Induction
import ServerMigration.Mapping.DeviceMapping
import ServerMigration.Proofs.StableSort

/-!
# First fit by size

The pairing takes for every disk of the source the first target disk of its size that is left.
Disks of different sizes never compete, and so the outcome can be told without running the
pairing: the disks of a size get the target disks of that size in order, until these are used up.

## Main definitions

* `DeviceMapping.ofSize` : the disks of a size.
* `DeviceMapping.targetOf` : the target disk of a disk, from the disks that stand before it.
* `DeviceMapping.placements`, `DeviceMapping.surplus` : the disks that get a target disk, and the
  others.
* `DeviceMapping.complaints` : what is told about all disks.
* `DeviceMapping.Paired` : the state of the pairing after some disks.

## Main results

* `DeviceMapping.paired_foldl` : the pairing keeps to `targetOf`.
* `DeviceMapping.ofDevices_succeeds_iff` : it finds a target disk for every disk if there are enough
  of every size.
-/

namespace ServerMigration

namespace DeviceMapping

/-! ### Taking the first element with a property -/

section

variable {α : Type} {p : α → Bool} {x : α} {xs rest : List α}

theorem filter_eq_nil_of_takeFirst (h : takeFirst p xs = none) : xs.filter p = [] := by
  induction xs with
  | nil => rfl
  | cons y xs ih =>
    rw [takeFirst] at h
    split at h
    · cases h
    · next hy =>
      rw [List.filter_cons_of_neg hy]
      exact ih (Option.map_eq_none_iff.mp h)

/-- The element that is taken is the first one with the property. -/
theorem exists_cut_of_takeFirst (h : takeFirst p xs = some (x, rest)) :
    ∃ before after, xs = before ++ x :: after ∧ rest = before ++ after ∧ p x = true
      ∧ ∀ y ∈ before, p y = false := by
  induction xs generalizing x rest with
  | nil => cases h
  | cons y xs ih =>
    rw [takeFirst] at h
    split at h
    · next hy =>
      cases h
      exact ⟨[], xs, rfl, rfl, hy, fun z hz => absurd hz List.not_mem_nil⟩
    · next hy =>
      obtain ⟨⟨x', rest'⟩, htake, hsame⟩ := Option.map_eq_some_iff.mp h
      cases hsame
      obtain ⟨before, after, rfl, rfl, hx, hbefore⟩ := ih htake
      have hy : p y = false := by simpa using hy
      exact ⟨y :: before, after, rfl, rfl, hx, List.forall_mem_cons.mpr ⟨hy, hbefore⟩⟩

end

variable {pool disks earlier : List BlockDevice} {disk target : BlockDevice} {state : Pairing}

/-! ### Disks and partitions in order -/

theorem inNaturalOrder_perm (disks : List BlockDevice) : (inNaturalOrder disks).Perm disks :=
  stableSort_perm _ disks

theorem mem_inNaturalOrder : disk ∈ inNaturalOrder disks ↔ disk ∈ disks :=
  (inNaturalOrder_perm disks).mem_iff

theorem partitions_perm (disk : BlockDevice) : disk.partitions.Perm (Dict.values disk.children) :=
  stableSort_perm _ _

theorem mem_partitions {partition : BlockDevice} :
    partition ∈ disk.partitions ↔ partition ∈ Dict.values disk.children :=
  (partitions_perm disk).mem_iff

theorem unnumbered_partitions_eq_nil_iff :
    unnumbered disk.partitions = [] ↔
      ∀ partition ∈ Dict.values disk.children, (partitionNumber? partition.name).isSome := by
  rw [unnumbered, List.filter_eq_nil_iff]
  refine forall_congr' fun partition => ?_
  rw [mem_partitions]
  simp [Option.isSome_iff_ne_none]

/-! ### Disks by size -/

/-- The disks of a size, in their order. -/
def ofSize (size : UInt64) (disks : List BlockDevice) : List BlockDevice :=
  disks.filter (·.sizeGib = size)

@[simp] theorem ofSize_nil (size : UInt64) : ofSize size [] = [] := rfl

@[simp] theorem ofSize_append (size : UInt64) (disks more : List BlockDevice) :
    ofSize size (disks ++ more) = ofSize size disks ++ ofSize size more :=
  List.filter_append _ _

theorem ofSize_singleton (size : UInt64) (disk : BlockDevice) :
    ofSize size [disk] = if disk.sizeGib = size then [disk] else [] := by
  by_cases h : disk.sizeGib = size <;> simp [ofSize, h]

theorem ofSize_perm (size : UInt64) {disks more : List BlockDevice} (h : disks.Perm more) :
    (ofSize size disks).Perm (ofSize size more) :=
  h.filter _

/-- Taking the first disk of a size takes it from the disks of that size only. -/
theorem ofSize_of_takeFirst {rest : List BlockDevice}
    (h : takeFirst (fun candidate => candidate.sizeGib = disk.sizeGib) pool = some (target, rest))
    (size : UInt64) :
    ofSize size pool = (if disk.sizeGib = size then [target] else []) ++ ofSize size rest := by
  obtain ⟨before, after, rfl, rfl, htarget, hbefore⟩ := exists_cut_of_takeFirst h
  have htarget : target.sizeGib = disk.sizeGib := by simpa using htarget
  have hcut : ofSize size (before ++ target :: after)
      = ofSize size before ++ (ofSize size [target] ++ ofSize size after) := by
    rw [← ofSize_append, ← ofSize_append, List.singleton_append]
  rw [hcut, ofSize_singleton, htarget, ofSize_append]
  by_cases hsize : disk.sizeGib = size
  · -- No disk before the one that was taken is of the size.
    have hnone : ofSize size before = [] := by
      refine List.filter_eq_nil_iff.mpr fun candidate hmem => ?_
      have := hbefore candidate hmem
      simpa [hsize] using this
    rw [hnone, List.nil_append, List.nil_append]
  · rw [if_neg hsize, List.nil_append, List.nil_append]

/-! ### The counterpart of a disk -/

/-- What is told about the partitions of a disk: one entry for each that has no number. -/
def partitionComplaints (disk : BlockDevice) : List String :=
  (unnumbered disk.partitions).map fun partition =>
    s!"{partition.name}: partition has no numeric index"

theorem unnumbered_of_mappedDisk_ok {targetDisk : String} {mapped : MappedDevice}
    (h : mappedDisk disk targetDisk = .ok mapped) : unnumbered disk.partitions = [] := by
  rw [mappedDisk] at h
  split at h
  · next hnumbered => exact hnumbered
  · cases h

theorem failures_of_mappedDisk_error {targetDisk : String} {failures : List String}
    (h : mappedDisk disk targetDisk = .error failures) : failures = partitionComplaints disk := by
  rw [mappedDisk] at h
  split at h
  · cases h
  · cases h
    rfl

/-! ### The disks before a disk -/

/-- Every disk, together with the disks before it. -/
def withEarlier (disks : List BlockDevice) : List (List BlockDevice × BlockDevice) :=
  disks.zipIdx.map fun (disk, i) => (disks.take i, disk)

@[simp] theorem withEarlier_nil : withEarlier [] = [] := rfl

@[simp] theorem withEarlier_concat (disks : List BlockDevice) (disk : BlockDevice) :
    withEarlier (disks ++ [disk]) = withEarlier disks ++ [(disks, disk)] := by
  have hsame : disks.zipIdx.map (fun (d, i) => ((disks ++ [disk]).take i, d))
      = disks.zipIdx.map fun (d, i) => (disks.take i, d) := by
    refine List.map_congr_left fun ⟨d, i⟩ hmem => ?_
    have hi : i < disks.length := (List.mem_zipIdx' hmem).1
    dsimp only
    rw [List.take_append_of_le_length (Nat.le_of_lt hi)]
  rw [withEarlier, List.zipIdx_append, List.map_append, hsame]
  simp [withEarlier]

theorem map_snd_withEarlier (disks : List BlockDevice) : (withEarlier disks).map (·.2) = disks := by
  rw [withEarlier, List.map_map]
  exact List.zipIdx_map_fst 0 disks

/-! ### Who gets which target disk -/

/-- The target disk of a disk: among those of its size the one at the place that the disk has among
the disks of its size. -/
def targetOf (pool earlier : List BlockDevice) (disk : BlockDevice) : Option BlockDevice :=
  (ofSize disk.sizeGib pool)[(ofSize disk.sizeGib earlier).length]?

/-- The disks that get a target disk, each with the one it gets. -/
def placements (pool disks : List BlockDevice) : List (BlockDevice × BlockDevice) :=
  (withEarlier disks).filterMap fun (earlier, disk) =>
    (targetOf pool earlier disk).map fun target => (disk, target)

/-- The disks that get no target disk. -/
def surplus (pool disks : List BlockDevice) : List BlockDevice :=
  ((withEarlier disks).filter fun (earlier, disk) => (targetOf pool earlier disk).isNone).map (·.2)

/-- What is told about a disk: that it gets no target disk, or else which of its partitions have no
number. -/
def complaintsOf (pool earlier : List BlockDevice) (disk : BlockDevice) : List String :=
  match targetOf pool earlier disk with
  | none => [unplaced disk (pool.length - (placements pool earlier).length)]
  | some _ => partitionComplaints disk

/-- What is told about all disks, in their order. -/
def complaints (pool disks : List BlockDevice) : List String :=
  (withEarlier disks).flatMap fun (earlier, disk) => complaintsOf pool earlier disk

/-- The counterparts of the disks that get a target disk and have no partition without a number. -/
def counterparts (pool disks : List BlockDevice) : List (String × MappedDevice) :=
  (placements pool disks).filterMap fun (disk, target) =>
    (mappedDisk disk target.name).toOption.map fun mapped => (disk.name, mapped)

@[simp] theorem placements_concat (pool disks : List BlockDevice) (disk : BlockDevice) :
    placements pool (disks ++ [disk]) = placements pool disks
      ++ ((targetOf pool disks disk).map fun target => (disk, target)).toList := by
  rw [placements, withEarlier_concat, List.filterMap_append, ← placements]
  cases h : targetOf pool disks disk <;> simp [h]

theorem counterparts_concat (pool disks : List BlockDevice) (disk : BlockDevice) :
    counterparts pool (disks ++ [disk]) = counterparts pool disks
      ++ ((targetOf pool disks disk).bind fun target =>
        (mappedDisk disk target.name).toOption.map fun mapped => (disk.name, mapped)).toList := by
  rw [counterparts, placements_concat, List.filterMap_append, ← counterparts]
  cases h : targetOf pool disks disk with
  | none => rfl
  | some target =>
    simp only [Option.map_some, Option.toList_some, Option.bind_some, List.filterMap_cons,
      List.filterMap_nil]
    cases (mappedDisk disk target.name).toOption <;> rfl

@[simp] theorem complaints_concat (pool disks : List BlockDevice) (disk : BlockDevice) :
    complaints pool (disks ++ [disk]) = complaints pool disks ++ complaintsOf pool disks disk := by
  simp [complaints]

/-! ### The state of the pairing -/

/-- The state of the pairing after some disks: of every size the first target disks are gone, those
that are gone are the ones that were given away, and everything else follows from that. -/
structure Paired (pool disks : List BlockDevice) (state : Pairing) : Prop where
  left : ∀ size, ofSize size state.pool = (ofSize size pool).drop (ofSize size disks).length
  given : ((placements pool disks).map (·.2) ++ state.pool).Perm pool
  mapped : state.mapping = Dict.ofList (counterparts pool disks)
  told : state.failures = complaints pool disks

namespace Paired

/-- The target disks that are left are counted by those that were given away. -/
theorem length_pool (paired : Paired pool disks state) :
    state.pool.length = pool.length - (placements pool disks).length := by
  have h := paired.given.length_eq
  rw [List.length_append, List.length_map] at h
  omega

/-- The first target disk of a size that is left is the one that is due to the next disk. -/
theorem head?_pool (paired : Paired pool disks state) (disk : BlockDevice) :
    (ofSize disk.sizeGib state.pool).head? = targetOf pool disks disk := by
  rw [paired.left, List.head?_drop, targetOf]

theorem start (pool : List BlockDevice) : Paired pool [] ⟨pool, [], []⟩ where
  left _ := rfl
  given := List.Perm.refl pool
  mapped := rfl
  told := rfl

/-- A disk for which no target disk is left changes nothing but the failures. -/
theorem unplaced (paired : Paired pool disks state)
    (h : takeFirst (fun candidate => candidate.sizeGib = disk.sizeGib) state.pool = none) :
    Paired pool (disks ++ [disk])
      { state with failures := state.failures ++ [unplaced disk state.pool.length] } := by
  have hempty : ofSize disk.sizeGib state.pool = [] := filter_eq_nil_of_takeFirst h
  have hnone : targetOf pool disks disk = none := by
    rw [← paired.head?_pool, hempty]
    rfl
  refine ⟨fun size => ?_, ?_, ?_, ?_⟩
  · rw [ofSize_append, ofSize_singleton]
    by_cases hsize : disk.sizeGib = size
    · subst hsize
      have hshort := List.drop_eq_nil_iff.mp ((paired.left _).symm.trans hempty)
      rw [hempty]
      refine (List.drop_eq_nil_iff.mpr ?_).symm
      rw [List.length_append]
      omega
    · rw [if_neg hsize, List.append_nil, paired.left]
  · rw [placements_concat, hnone]
    simpa using paired.given
  · rw [counterparts_concat, hnone, paired.mapped]
    simp
  · rw [complaints_concat, paired.told, complaintsOf, hnone, paired.length_pool]

/-- A disk that gets a target disk uses it up, whether or not its partitions have numbers. -/
theorem placed (paired : Paired pool disks state) {rest : List BlockDevice}
    (h : takeFirst (fun candidate => candidate.sizeGib = disk.sizeGib) state.pool
      = some (target, rest)) :
    targetOf pool disks disk = some target
      ∧ (∀ size, ofSize size rest = (ofSize size pool).drop (ofSize size (disks ++ [disk])).length)
      ∧ ((placements pool (disks ++ [disk])).map (·.2) ++ rest).Perm pool := by
  have hsome : targetOf pool disks disk = some target := by
    rw [← paired.head?_pool, ofSize_of_takeFirst h, if_pos rfl]
    rfl
  refine ⟨hsome, fun size => ?_, ?_⟩
  · rw [ofSize_append, ofSize_singleton, List.length_append, ← List.drop_drop, ← paired.left,
      ofSize_of_takeFirst h]
    by_cases hsize : disk.sizeGib = size <;> simp [hsize]
  · obtain ⟨before, after, hpool, rfl, -, -⟩ := exists_cut_of_takeFirst h
    rw [placements_concat, hsome, List.map_append]
    refine List.Perm.trans ?_ paired.given
    rw [hpool]
    simp only [Option.map_some, Option.toList_some, List.map_cons, List.map_nil,
      List.append_assoc, List.singleton_append]
    exact List.perm_middle.symm.append_left _

/-- **Pairing one more disk.** -/
theorem step (paired : Paired pool disks state) (disk : BlockDevice) :
    Paired pool (disks ++ [disk]) (pairDisk state disk) := by
  rw [pairDisk]
  cases htake : takeFirst (fun candidate => candidate.sizeGib = disk.sizeGib) state.pool with
  | none => exact paired.unplaced htake
  | some taken =>
    obtain ⟨target, rest⟩ := taken
    obtain ⟨hsome, hleft, hgiven⟩ := paired.placed htake
    dsimp only
    cases hmapped : mappedDisk disk target.name with
    | ok mapped =>
      refine ⟨hleft, hgiven, ?_, ?_⟩
      · rw [counterparts_concat, hsome]
        simp [hmapped, Except.toOption, paired.mapped, Dict.ofList]
      · have hnumbered := unnumbered_of_mappedDisk_ok hmapped
        rw [complaints_concat, complaintsOf, hsome, ← paired.told]
        simp [partitionComplaints, hnumbered]
    | error failures =>
      refine ⟨hleft, hgiven, ?_, ?_⟩
      · rw [counterparts_concat, hsome]
        simp [hmapped, Except.toOption, paired.mapped]
      · rw [complaints_concat, complaintsOf, hsome, ← paired.told,
          failures_of_mappedDisk_error hmapped]

end Paired

/-- **Pairing all disks, one after the other.** -/
theorem paired_foldl (paired : Paired pool earlier state) (disks : List BlockDevice) :
    Paired pool (earlier ++ disks) (disks.foldl pairDisk state) := by
  induction disks generalizing earlier state with
  | nil => simpa using paired
  | cons disk disks ih =>
    have h := ih (paired.step disk)
    rwa [List.append_assoc, List.singleton_append] at h

/-! ### The outcome -/

/-- The target disks that may be given away. -/
def unallocated (target : Devices) : List BlockDevice :=
  target.values.filter (·.isUnallocated)

/-- These disks in the order in which they are given away. -/
def candidates (target : Devices) : List BlockDevice :=
  inNaturalOrder (unallocated target)

/-- **The outcome of the pairing, told from the disks alone.** -/
theorem ofDevices_eq (source target : Devices) :
    ofDevices source target =
      match complaints (candidates target) (inNaturalOrder source.values) with
      | [] => .ok (Dict.ofList
          (counterparts (candidates target) (inNaturalOrder source.values)))
      | failures => .error (.unidentified failures) := by
  have paired := paired_foldl (.start (candidates target))
    (inNaturalOrder source.values)
  rw [List.nil_append] at paired
  rw [← paired.told, ← paired.mapped]
  rfl

theorem complaintsOf_eq_nil_iff :
    complaintsOf pool earlier disk = [] ↔
      (targetOf pool earlier disk).isSome ∧ unnumbered disk.partitions = [] := by
  rw [complaintsOf]
  cases targetOf pool earlier disk <;> simp [partitionComplaints]

theorem surplus_eq_nil_iff :
    surplus pool disks = [] ↔
      ∀ entry ∈ withEarlier disks, (targetOf pool entry.1 entry.2).isSome := by
  rw [surplus, List.map_eq_nil_iff, List.filter_eq_nil_iff]
  simp [Option.isSome_iff_ne_none]

/-- Nothing is told if every disk gets a target disk and all partitions have numbers. -/
theorem complaints_eq_nil_iff :
    complaints pool disks = [] ↔
      surplus pool disks = [] ∧ ∀ disk ∈ disks, unnumbered disk.partitions = [] := by
  have hdisks : (∀ disk ∈ disks, unnumbered disk.partitions = []) ↔
      ∀ entry ∈ withEarlier disks, unnumbered entry.2.partitions = [] := by
    conv_lhs => rw [← map_snd_withEarlier disks]
    rw [List.forall_mem_map]
  rw [complaints, List.flatMap_eq_nil_iff, surplus_eq_nil_iff, hdisks, ← forall₂_and]
  exact forall₂_congr fun entry _ => complaintsOf_eq_nil_iff

/-- **What the pairing gives when it succeeds.** -/
theorem ofDevices_eq_ok_iff {source target : Devices} {mapping : DeviceMapping} :
    ofDevices source target = .ok mapping ↔
      complaints (candidates target) (inNaturalOrder source.values) = []
        ∧ mapping = Dict.ofList
          (counterparts (candidates target) (inNaturalOrder source.values)) := by
  rw [ofDevices_eq]
  split
  · next hnothing =>
    rw [Except.ok.injEq, eq_comm]
    exact (and_iff_right hnothing).symm
  · next hfailures =>
    constructor
    · intro h
      cases h
    · intro h
      exact absurd h.1 hfailures

theorem surplus_concat (pool disks : List BlockDevice) (disk : BlockDevice) :
    surplus pool (disks ++ [disk]) = surplus pool disks
      ++ if (targetOf pool disks disk).isNone then [disk] else [] := by
  rw [surplus, withEarlier_concat, List.filter_append, List.map_append, ← surplus]
  by_cases h : (targetOf pool disks disk).isNone <;> simp [h]

/-- **There is one entry for every disk that gets no target disk, and one for every partition
without a number on the other disks.** -/
theorem complaints_perm (pool disks : List BlockDevice) :
    ∃ entries, List.Forall₂ (fun disk entry => ∃ left, entry = unplaced disk left)
        (surplus pool disks) entries
      ∧ (complaints pool disks).Perm (entries
          ++ (placements pool disks).flatMap fun placed => partitionComplaints placed.1) := by
  induction disks using List.reverseRecOn with
  | nil => exact ⟨[], .nil, .refl _⟩
  | append_singleton disks disk ih =>
    obtain ⟨entries, hentries, hperm⟩ := ih
    rw [surplus_concat, complaints_concat, placements_concat, complaintsOf]
    cases htarget : targetOf pool disks disk with
    | none =>
      -- One more disk gets no target disk, and so the entry moves in front of the partitions'.
      refine ⟨entries ++ [unplaced disk (pool.length - (placements pool disks).length)],
        List.rel_append hentries (.cons ⟨_, rfl⟩ .nil), ?_⟩
      simp only [Option.map_none, Option.toList_none, List.append_nil]
      refine (hperm.append_right _).trans ?_
      rw [List.append_assoc, List.append_assoc]
      exact List.perm_append_comm.append_left _
    | some target =>
      refine ⟨entries, by simpa using hentries, ?_⟩
      simp only [Option.map_some, Option.toList_some, List.flatMap_append, List.flatMap_cons,
        List.flatMap_nil, List.append_nil]
      rw [← List.append_assoc]
      exact hperm.append_right _

/-- **Of every size the last disks are the ones that get no target disk.** -/
theorem ofSize_surplus (size : UInt64) (pool disks : List BlockDevice) :
    ofSize size (surplus pool disks) = (ofSize size disks).drop (ofSize size pool).length := by
  induction disks using List.reverseRecOn with
  | nil => simp [surplus]
  | append_singleton disks disk ih =>
    have hnone : (targetOf pool disks disk).isNone ↔
        (ofSize disk.sizeGib pool).length ≤ (ofSize disk.sizeGib disks).length := by
      rw [targetOf, Option.isNone_iff_eq_none, List.getElem?_eq_none_iff]
    rw [surplus_concat, ofSize_append, ih, ofSize_append, List.drop_append, ofSize_singleton]
    congr 1
    by_cases hsize : disk.sizeGib = size
    · subst hsize
      by_cases hfull : (ofSize disk.sizeGib pool).length ≤ (ofSize disk.sizeGib disks).length
      · rw [if_pos (hnone.mpr hfull), if_pos rfl, Nat.sub_eq_zero_of_le hfull, ofSize_singleton,
          if_pos rfl, List.drop_zero]
      · rw [if_neg (mt hnone.mp hfull), if_pos rfl, ofSize_nil]
        refine (List.drop_eq_nil_iff.mpr ?_).symm
        rw [List.length_singleton]
        omega
    · rw [if_neg hsize, List.drop_nil]
      split
      · rw [ofSize_singleton, if_neg hsize]
      · rfl

/-- Every disk gets a target disk if there are enough of every size. -/
theorem surplus_eq_nil_iff_forall_size :
    surplus pool disks = [] ↔
      ∀ size, (ofSize size disks).length ≤ (ofSize size pool).length := by
  constructor
  · intro h size
    have hdrop := ofSize_surplus size pool disks
    rw [h, ofSize_nil] at hdrop
    exact List.drop_eq_nil_iff.mp hdrop.symm
  · intro h
    refine List.eq_nil_iff_forall_not_mem.mpr fun disk hmem => ?_
    have hsize : disk ∈ ofSize disk.sizeGib (surplus pool disks) :=
      List.mem_filter.mpr ⟨hmem, by simp⟩
    rw [ofSize_surplus, List.drop_eq_nil_of_le (h _)] at hsize
    exact absurd hsize List.not_mem_nil

theorem length_ofSize_inNaturalOrder (size : UInt64) (disks : List BlockDevice) :
    (ofSize size (inNaturalOrder disks)).length = (ofSize size disks).length :=
  (ofSize_perm size (inNaturalOrder_perm disks)).length_eq

theorem length_ofSize_candidates (size : UInt64) (target : Devices) :
    (ofSize size (candidates target)).length = (ofSize size (unallocated target)).length :=
  length_ofSize_inNaturalOrder size (unallocated target)

/-- Nothing is told of two inventories if of every size there are enough unallocated target disks,
and every partition of the source has a number. -/
theorem complaints_candidates_eq_nil_iff (source target : Devices) :
    complaints (candidates target) (inNaturalOrder source.values) = [] ↔
      (∀ size, (ofSize size source.values).length ≤ (ofSize size (unallocated target)).length)
        ∧ ∀ disk ∈ source.values, ∀ partition ∈ Dict.values disk.children,
          (partitionNumber? partition.name).isSome := by
  rw [complaints_eq_nil_iff, surplus_eq_nil_iff_forall_size]
  simp only [length_ofSize_inNaturalOrder, length_ofSize_candidates, mem_inNaturalOrder,
    unnumbered_partitions_eq_nil_iff]

/-- **The pairing succeeds exactly if of every size there are as many unallocated target disks as
disks of the source, and every partition of the source has a number.**  Otherwise it fails, with
one entry for every disk that gets no target disk, which are the last ones of their size in natural
order, and one for every partition without a number on the other disks. -/
theorem ofDevices_succeeds_iff (source target : Devices) :
    ((∃ mapping, ofDevices source target = .ok mapping) ↔
      (∀ size, (ofSize size source.values).length ≤ (ofSize size (unallocated target)).length)
        ∧ ∀ disk ∈ source.values, ∀ partition ∈ Dict.values disk.children,
          (partitionNumber? partition.name).isSome)
    ∧ ((∃ mapping, ofDevices source target = .ok mapping)
      ∨ ofDevices source target = .error (.unidentified
          (complaints (candidates target) (inNaturalOrder source.values))))
    ∧ (∃ entries, List.Forall₂ (fun disk entry => ∃ left, entry = unplaced disk left)
          (surplus (candidates target) (inNaturalOrder source.values)) entries
        ∧ (complaints (candidates target) (inNaturalOrder source.values)).Perm
          (entries ++ (placements (candidates target) (inNaturalOrder source.values)).flatMap
            fun placed => partitionComplaints placed.1))
    ∧ ∀ size, ofSize size (surplus (candidates target) (inNaturalOrder source.values))
        = (ofSize size (inNaturalOrder source.values)).drop
          (ofSize size (unallocated target)).length := by
  refine ⟨?_, ?_, complaints_perm _ _, fun size => ?_⟩
  · rw [← complaints_candidates_eq_nil_iff]
    simp only [ofDevices_eq_ok_iff, exists_and_left, exists_eq, and_true]
  · rw [ofDevices_eq]
    split
    · exact .inl ⟨_, rfl⟩
    · exact .inr rfl
  · rw [ofSize_surplus, length_ofSize_candidates]

end DeviceMapping

end ServerMigration
