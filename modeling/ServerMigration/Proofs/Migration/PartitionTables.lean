import Mathlib.Data.List.Forall2
import Mathlib.Data.Option.Basic
import ServerMigration.Migration.PartitionTable
import ServerMigration.Proofs.Mapping.Counterparts
import ServerMigration.Proofs.Text.Blanks
import ServerMigration.Proofs.Text.Lines

/-!
# The partitions that a table makes

The partitions of a target disk are made from the dump of its source disk's partition table, in
which the names are changed as text.  The mapping names the same partitions when the devices are
identified.  Both read the number off a partition's name and name the partition of that number on
the target disk, so a line for a partition of the source becomes one for its counterpart.

## Main definitions

* `tellsLastSector` : the lines of a dump that are left out.
* `TableLine` : what becomes of the other lines.

## Main results

* `renamePartition?_partition` : the line of a partition.
* `DeviceMapping.retargetPartitionTable_agrees` : the dump for the target disk, line by line.
-/

namespace ServerMigration

open DeviceMapping

/-- A line of a dump that tells the last usable sector. -/
def tellsLastSector (line : List Char) : Bool :=
  "last-lba:".toList.isPrefixOf (Text.trimStart line)

/-- What becomes of a line of the dump of a disk.  The line of the device names the target disk, the
line of a partition names its counterpart and keeps everything behind the name, and a line of
another kind is kept. -/
structure TableLine (disk : String) (mapped : MappedDevice) (line written : List Char) : Prop where
  device : "device:".toList <+: Text.trimStart line →
    written = ("device: /dev/" ++ mapped.id).toList
  partition : ∀ name child attributes, (name, child) ∈ mapped.children →
    disk.toList <+: name.toList → name ≠ disk →
    line = ("/dev/" ++ name ++ " : ").toList ++ attributes →
    written = ("/dev/" ++ child.id ++ " : ").toList ++ attributes
  other : ¬ "device:".toList <+: Text.trimStart line → ¬ "/dev/".toList <+: Text.trimStart line →
    written = line

/-! ### Attributes -/

variable {before rest text line written : List Char} {disk targetDisk name : String}

/-- The first ` : ` stands behind the first blank. -/
theorem splitAttributes_append (h : ' ' ∉ before) (rest : List Char) :
    splitAttributes (before ++ ' ' :: ':' :: ' ' :: rest) = some (before, rest) := by
  induction before with
  | nil => rfl
  | cons c before ih =>
    obtain ⟨hc, hbefore⟩ := List.ne_and_not_mem_of_not_mem_cons h
    rw [List.cons_append, splitAttributes, ih hbefore]
    · rfl
    · exact fun _ hspace => absurd hspace.symm hc

theorem eq_append_of_splitAttributes (h : splitAttributes text = some (before, rest)) :
    text = before ++ ' ' :: ':' :: ' ' :: rest := by
  induction text using splitAttributes.induct generalizing before with
  | case1 => cases h
  | case2 rest' =>
    cases h
    rfl
  | case3 c text hother ih =>
    rw [splitAttributes] at h
    · obtain ⟨⟨first, second⟩, hsplit, hsame⟩ := Option.map_eq_some_iff.mp h
      cases hsame
      rw [ih hsplit, List.cons_append]
    · exact hother

/-! ### One line -/

/-- A line that is not left out is that of the device, that of a partition, or kept. -/
theorem rewriteTableLine_eq (h : ¬ tellsLastSector line) :
    rewriteTableLine disk targetDisk line
      = some (if "device:".toList.isPrefixOf (Text.trimStart line) then
          ("device: /dev/" ++ targetDisk).toList
        else (renamePartition? disk targetDisk (Text.trimStart line)).getD line) :=
  (if_neg h).trans (apply_ite some _ _ _).symm

theorem rewriteTableLine_eq_none_iff :
    rewriteTableLine disk targetDisk line = none ↔ tellsLastSector line := by
  refine ⟨fun h => ?_, fun h => if_pos h⟩
  by_contra hkept
  rw [rewriteTableLine_eq hkept] at h
  cases h

theorem not_tellsLastSector (h : rewriteTableLine disk targetDisk line = some written) :
    ¬ tellsLastSector line := fun hlast => by
  rw [rewriteTableLine_eq_none_iff.mpr hlast] at h
  cases h

/-- A line is renamed if it is that of a device whose name goes on behind the name of the disk and
ends in a number. -/
theorem renamePartition?_eq_some_iff :
    renamePartition? disk targetDisk text = some written ↔
      ∃ device attributes name index, splitAttributes text = some (device, attributes)
        ∧ Text.afterPrefix "/dev/".toList (Text.trim device) = some name
        ∧ (disk.toList <+: name ∧ name ≠ disk.toList)
        ∧ partitionNumber? (.ofList name) = some index
        ∧ written = ("/dev/" ++ nthPartition targetDisk index ++ " : ").toList ++ attributes := by
  simp only [renamePartition?, Option.bind_eq_bind, Option.bind_eq_some_iff, Prod.exists,
    Option.guard_eq_some', List.isPrefixOf_iff_prefix, Option.pure_def, Option.some.injEq,
    String.toList_append, @eq_comm _ _ written]
  constructor
  · rintro ⟨device, attributes, hsplit, name, hname, -, hextends, index, hindex, hwritten⟩
    exact ⟨device, attributes, name, index, hsplit, hname, hextends, hindex, hwritten⟩
  · rintro ⟨device, attributes, name, index, hsplit, hname, hextends, hindex, hwritten⟩
    exact ⟨device, attributes, hsplit, name, hname, (), hextends, index, hindex, hwritten⟩

/-- **The line of a partition of the disk becomes that of the partition of the same number on the
target disk.** -/
theorem renamePartition?_partition {index : UInt32} (unbroken : name.toList.all (!Text.isBlank ·))
    (extends_disk : disk.toList <+: name.toList) (hne : name ≠ disk)
    (hindex : partitionNumber? name = some index) (attributes : List Char) :
    renamePartition? disk targetDisk (("/dev/" ++ name ++ " : ").toList ++ attributes)
      = some (("/dev/" ++ nthPartition targetDisk index ++ " : ").toList ++ attributes) := by
  have hword : ("/dev/" ++ name).toList.all (!Text.isBlank ·) := by
    rw [String.toList_append, List.all_append, unbroken]
    decide
  have hspace : ' ' ∉ ("/dev/" ++ name).toList := fun hmem =>
    absurd (List.all_eq_true.mp hword _ hmem) (by decide)
  refine renamePartition?_eq_some_iff.mpr ⟨("/dev/" ++ name).toList, attributes, name.toList, index,
    ?_, ?_, ⟨extends_disk, fun hsame => hne (String.toList_inj.mp hsame)⟩, ?_, rfl⟩
  · rw [String.toList_append, List.append_assoc]
    exact splitAttributes_append hspace attributes
  · rw [Text.trim_of_unbroken hword, String.toList_append, Text.afterPrefix_append]
  · rwa [String.ofList_toList]

/-- A line that does not begin with the path of a device is not renamed. -/
theorem renamePartition?_other (h : ¬ "/dev/".toList <+: Text.trimStart line) :
    renamePartition? disk targetDisk (Text.trimStart line) = none := by
  refine Option.eq_none_iff_forall_ne_some.mpr fun written hwritten => h ?_
  obtain ⟨device, attributes, name, -, hsplit, hname, -⟩ :=
    renamePartition?_eq_some_iff.mp hwritten
  have hdevice : device <+: Text.trimStart line :=
    ⟨_, (eq_append_of_splitAttributes hsplit).symm⟩
  have hpath : "/dev/".toList <+: Text.trim device :=
    ⟨name, (Text.eq_append_of_afterPrefix hname).symm⟩
  rw [Text.trim, Text.trimStart_of_prefix hdevice] at hpath
  exact (hpath.trans (Text.trimEnd_prefix device)).trans hdevice

/-- A partition of a disk whose counterpart was worked out has the number of its counterpart. -/
theorem exists_index_of_mem_replica {disk : BlockDevice} {child : String × MappedDevice}
    (h : child ∈ (replica disk targetDisk).children) :
    child.1 ∈ disk.partitions.map (·.name) ∧ ∃ index, partitionNumber? child.1 = some index
      ∧ child.2.id = nthPartition targetDisk index := by
  obtain ⟨partition, hpartition, index, hindex, rfl⟩ :=
    mem_mappedPartitions_iff.mp (Dict.mem_ofList h)
  exact ⟨List.mem_map_of_mem hpartition, index, hindex, rfl⟩

/-- A line is rewritten to what the counterpart of its disk says. -/
theorem tableLine_of_rewriteTableLine {disk : BlockDevice}
    (unbroken : ∀ name ∈ disk.partitions.map (·.name), name.toList.all (!Text.isBlank ·))
    (h : rewriteTableLine disk.name targetDisk line = some written) :
    TableLine disk.name (replica disk targetDisk) line written := by
  rw [rewriteTableLine_eq (not_tellsLastSector h)] at h
  have hwritten := Option.some.inj h
  constructor
  case device =>
    intro hdevice
    rw [← hwritten, if_pos (List.isPrefixOf_iff_prefix.mpr hdevice)]
    rfl
  case partition =>
    intro name child attributes hchild hextends hne hline
    obtain ⟨hname, index, hindex, hid⟩ := exists_index_of_mem_replica hchild
    -- The line begins with the path, so nothing is trimmed and it is not that of the device.
    have hpath : ∃ rest, line = '/' :: 'd' :: 'e' :: 'v' :: '/' :: rest := ⟨_, by
      rw [hline, String.toList_append, String.toList_append, List.append_assoc, List.append_assoc]
      rfl⟩
    have htrim : Text.trimStart line = line := by
      obtain ⟨rest, hrest⟩ := hpath
      rw [hrest, Text.trimStart_cons (by decide)]
    have hdevice : ¬ ("device:".toList.isPrefixOf line = true) := by
      obtain ⟨rest, hrest⟩ := hpath
      rw [hrest]
      exact Bool.false_ne_true
    rw [← hwritten, htrim, if_neg hdevice, hline,
      renamePartition?_partition (unbroken name hname) hextends hne hindex, hid]
    rfl
  case other =>
    intro hdevice hother
    rw [← hwritten, if_neg fun hprefix => hdevice (List.isPrefixOf_iff_prefix.mp hprefix),
      renamePartition?_other hother]
    rfl

/-! ### The whole dump -/

/-- The lines that are not left out are rewritten in their order. -/
theorem forall₂_rewriteTableLine (disk targetDisk : String) (lines : List (List Char)) :
    List.Forall₂ (fun line written => rewriteTableLine disk targetDisk line = some written)
      (lines.filter (!tellsLastSector ·)) (lines.filterMap (rewriteTableLine disk targetDisk)) := by
  induction lines with
  | nil => exact .nil
  | cons line lines ih =>
    cases hwritten : rewriteTableLine disk targetDisk line with
    | none =>
      have hlast := rewriteTableLine_eq_none_iff.mp hwritten
      rw [List.filter_cons_of_neg (by simp [hlast]), List.filterMap_cons_none hwritten]
      exact ih
    | some written =>
      have hkept := not_tellsLastSector hwritten
      rw [List.filter_cons_of_pos (by simp [hkept]), List.filterMap_cons_some hwritten]
      exact .cons hwritten ih

/-- The name of a partition goes on with characters that are no newlines. -/
theorem notMem_nthPartition (h : '\n' ∉ targetDisk.toList) (index : UInt32) :
    '\n' ∉ (nthPartition targetDisk index).toList := by
  have hdigits : '\n' ∉ (toString index.toNat).toList := fun hmem => by
    rw [Nat.toString_eq_ofList_toDigits, String.toList_ofList] at hmem
    exact absurd (Nat.isDigit_of_mem_toDigits (by decide) (by decide) hmem) (by decide)
  have hseparator : '\n' ∉ (if endsInDigit targetDisk then "p" else "").toList := by
    split <;> decide
  rw [nthPartition, String.toList_append, String.toList_append]
  simp only [List.mem_append, h, hseparator, hdigits, or_self, not_false_eq_true]

/-- No line is broken. -/
theorem notMem_rewriteTableLine (htarget : '\n' ∉ targetDisk.toList) (hline : '\n' ∉ line)
    (h : rewriteTableLine disk targetDisk line = some written) : '\n' ∉ written := by
  rw [rewriteTableLine_eq (not_tellsLastSector h)] at h
  rw [← Option.some.inj h]
  split
  · rw [String.toList_append]
    exact List.not_mem_append (by decide) htarget
  · cases hrenamed : renamePartition? disk targetDisk (Text.trimStart line) with
    | none => exact hline
    | some renamed =>
      obtain ⟨device, attributes, name, index, hsplit, -, -, -, rfl⟩ :=
        renamePartition?_eq_some_iff.mp hrenamed
      have hattributes : attributes <:+ line := by
        have hsuffix : attributes <:+ Text.trimStart line := by
          rw [eq_append_of_splitAttributes hsplit]
          exact ⟨device ++ " : ".toList, by simp⟩
        exact hsuffix.trans (List.dropWhile_suffix _)
      have hname := notMem_nthPartition htarget index
      rw [Option.getD_some, String.toList_append, String.toList_append]
      refine List.not_mem_append (List.not_mem_append ?_ (by decide))
        fun hmem => hline (hattributes.subset hmem)
      exact List.not_mem_append (by decide) hname

namespace DeviceMapping

variable {source target : Devices} {mapping : DeviceMapping} {mapped : MappedDevice}

/-- **The partitions that are made are those of the mapping.**  Every line of a dump but those that
tell the last sector becomes a line of the dump for the target disk, and the name that a partition
gets in it is the one that the mapping records. -/
theorem retargetPartitionTable_agrees (identified : ofDevices source target = .ok mapping)
    (sourceNames : ∀ device ∈ source.surface, device.name.toList.all (!Text.isBlank ·))
    (targetNames : ∀ device ∈ target.values, device.name.toList.all (!Text.isBlank ·))
    (h : mapping.get? disk = some mapped) (dump : String) :
    ∃ written,
      (retargetPartitionTable dump disk mapped.id).toList = Text.joinWith ['\n'] written
      ∧ (written ≠ [] →
        Text.splitOn '\n' (retargetPartitionTable dump disk mapped.id).toList = written)
      ∧ List.Forall₂ (TableLine disk mapped)
        ((Text.lines dump.toList).filter (!tellsLastSector ·)) written := by
  obtain ⟨placed, hplaced, hentry⟩ := exists_placed_of_mem identified (Dict.mem_of_get? h)
  obtain ⟨rfl, rfl⟩ := Prod.mk.inj hentry
  obtain ⟨disk, device⟩ := placed
  have hdisk : disk ∈ source.values := mem_values_of_mem_placedDisks identified hplaced
  have hdevice : device ∈ target.values :=
    List.mem_of_mem_filter (mem_inNaturalOrder.mp (sizeGib_of_mem_placements hplaced).1)
  have htarget : '\n' ∉ device.name.toList := fun hmem =>
    absurd (List.all_eq_true.mp (targetNames device hdevice) _ hmem) (by decide)
  have hpartitions : ∀ name ∈ disk.partitions.map (·.name), name.toList.all (!Text.isBlank ·) := by
    intro name hname
    obtain ⟨partition, hpartition, rfl⟩ := List.mem_map.mp hname
    exact sourceNames partition (List.mem_flatMap.mpr
      ⟨disk, hdisk, List.mem_cons_of_mem _ (mem_partitions.mp hpartition)⟩)
  have hlines := forall₂_rewriteTableLine disk.name device.name (Text.lines dump.toList)
  have hjoined : (retargetPartitionTable dump disk.name device.name).toList
      = Text.joinWith ['\n'] ((Text.lines dump.toList).filterMap
        (rewriteTableLine disk.name device.name)) := String.toList_ofList
  refine ⟨_, hjoined, fun hne => ?_, hlines.imp fun line written =>
    tableLine_of_rewriteTableLine hpartitions⟩
  show Text.splitOn '\n' (retargetPartitionTable dump disk.name device.name).toList = _
  rw [hjoined]
  refine Text.splitOn_joinWith hne fun written hmem => ?_
  obtain ⟨line, hline, hwritten⟩ := List.mem_filterMap.mp hmem
  exact notMem_rewriteTableLine htarget (Text.notMem_of_mem_lines hline) hwritten

/-- A disk with a partition. -/
def bootDisk : Devices :=
  [("sda", { blank "sda" 20 with children := [("sda1", blank "sda1" 19)] })]

/-- An empty disk whose partitions are named with a separator. -/
def spareDisk : Devices :=
  [("nvme1n1", blank "nvme1n1" 20)]

/-- The counterpart of the disk of `bootDisk` on `spareDisk`. -/
def spareCounterpart : MappedDevice :=
  ⟨"nvme1n1", "", [("sda1", ⟨"nvme1n1p1", "", []⟩)]⟩

theorem ofDevices_bootDisk : ofDevices bootDisk spareDisk = .ok [("sda", spareCounterpart)] := by
  with_unfolding_all rfl

/-- A dump of the partition table of `bootDisk`. -/
def bootDiskDump : String :=
  "label: gpt\ndevice: /dev/sda\nlast-lba: 41943006\n\n/dev/sda1 : start=2048, name=\"a : b\"\n"

/-- The partition that is made is the one that the mapping records, and its attributes are kept. -/
theorem bootDiskDump_agrees :
    ofDevices bootDisk spareDisk = .ok [("sda", spareCounterpart)]
      ∧ (∀ device ∈ bootDisk.surface, device.name.toList.all (!Text.isBlank ·))
      ∧ (∀ device ∈ spareDisk.values, device.name.toList.all (!Text.isBlank ·))
      ∧ Dict.get? [("sda", spareCounterpart)] "sda" = some spareCounterpart
      ∧ retargetPartitionTable bootDiskDump "sda" spareCounterpart.id
        = "label: gpt\ndevice: /dev/nvme1n1\n\n/dev/nvme1n1p1 : start=2048, name=\"a : b\""
      ∧ ∃ written,
        (retargetPartitionTable bootDiskDump "sda" spareCounterpart.id).toList
          = Text.joinWith ['\n'] written
        ∧ (written ≠ [] → Text.splitOn '\n'
          (retargetPartitionTable bootDiskDump "sda" spareCounterpart.id).toList = written)
        ∧ List.Forall₂ (TableLine "sda" spareCounterpart)
          ((Text.lines bootDiskDump.toList).filter (!tellsLastSector ·)) written := by
  have sourceNames : ∀ device ∈ bootDisk.surface, device.name.toList.all (!Text.isBlank ·) := by
    decide +kernel
  have targetNames : ∀ device ∈ spareDisk.values, device.name.toList.all (!Text.isBlank ·) := by
    decide +kernel
  have hfound : Dict.get? [("sda", spareCounterpart)] "sda" = some spareCounterpart := rfl
  have htable : retargetPartitionTable bootDiskDump "sda" spareCounterpart.id
      = "label: gpt\ndevice: /dev/nvme1n1\n\n/dev/nvme1n1p1 : start=2048, name=\"a : b\"" := by
    decide +kernel
  exact ⟨ofDevices_bootDisk, sourceNames, targetNames, hfound, htable,
    retargetPartitionTable_agrees ofDevices_bootDisk sourceNames targetNames hfound bootDiskDump⟩

end DeviceMapping

end ServerMigration
