import ServerMigration.Device.Partition
import ServerMigration.Proofs.Text.Numerals

/-!
# Reading partition numbers back

The name of a partition ends in its number, and nothing in front of the number is a digit, so the
number can be read off the name again.  What stands in front of it tells the disk, unless one
disk is named like another one with a `p` behind it.

## Main definitions

* `partitionStem` : what stands in front of the number in the names of a disk's partitions.

## Main results

* `partitionNumber?_nthPartition` : the number of a partition is read off its name.
* `eq_of_nthPartition_eq` : partitions of the same name.
-/

namespace ServerMigration

/-! ### The digits at the end of a name -/

/-- The digits behind a stem that does not end in a digit are those at the end of the whole. -/
theorem trailingDigits_append {stem digits : List Char} (hdigits : ∀ c ∈ digits, c.isDigit)
    (hstem : ∀ c, stem.getLast? = some c → c.isDigit = false) :
    trailingDigits (stem ++ digits) = digits := by
  have hstop : stem.reverse.takeWhile Char.isDigit = [] := by
    cases hlast : stem.reverse with
    | nil => rfl
    | cons c rest =>
      have hc : c.isDigit = false := by
        refine hstem c ?_
        rw [List.getLast?_eq_head?_reverse, hlast]
        rfl
      rw [List.takeWhile_cons_of_neg (by simp [hc])]
  rw [trailingDigits, List.reverse_append,
    List.takeWhile_append_of_pos fun c hc => hdigits c (List.mem_reverse.mp hc), hstop,
    List.append_nil, List.reverse_reverse]

/-- A number behind a stem that does not end in a digit is read back. -/
theorem partitionNumber?_append {stem : String} (h : endsInDigit stem = false) (index : UInt32) :
    partitionNumber? (stem ++ toString index.toNat) = some index := by
  have htrailing : trailingDigits (stem ++ toString index.toNat).toList
      = Nat.toDigits 10 index.toNat := by
    rw [String.toList_append, Nat.toString_eq_ofList_toDigits, String.toList_ofList]
    refine trailingDigits_append (fun c hc => ?_) fun c hc => ?_
    · exact Nat.isDigit_of_mem_toDigits (by decide) (by decide) hc
    · simpa [endsInDigit, hc] using h
  have hread : Text.readNat UInt32.size (Nat.toDigits 10 index.toNat) = some index.toNat :=
    Text.readNat_toDigits index.toNat_lt_size
  rw [partitionNumber?, htrailing, hread, Option.map_some]
  simp

/-! ### Names of partitions -/

/-- What stands in front of the number in the names of a disk's partitions. -/
def partitionStem (disk : String) : String :=
  disk ++ if endsInDigit disk then "p" else ""

theorem nthPartition_eq (disk : String) (index : UInt32) :
    nthPartition disk index = partitionStem disk ++ toString index.toNat := rfl

theorem endsInDigit_partitionStem (disk : String) : endsInDigit (partitionStem disk) = false := by
  rw [partitionStem]
  by_cases h : endsInDigit disk
  · rw [if_pos h, endsInDigit, String.toList_append]
    simp
  · rw [if_neg h, String.append_empty]
    simpa using h

/-- **The number of a partition is read off its name.** -/
theorem partitionNumber?_nthPartition (disk : String) (index : UInt32) :
    partitionNumber? (nthPartition disk index) = some index :=
  partitionNumber?_append (endsInDigit_partitionStem disk) index

/-- Disks whose partitions begin alike are the same, or one is named like the other one with a `p`
behind it. -/
theorem eq_of_partitionStem_eq {disk other : String}
    (h : partitionStem disk = partitionStem other) :
    disk = other ∨ disk = other ++ "p" ∨ other = disk ++ "p" := by
  rw [partitionStem, partitionStem] at h
  by_cases hdisk : endsInDigit disk <;> by_cases hother : endsInDigit other
  · rw [if_pos hdisk, if_pos hother] at h
    exact .inl (String.append_left_inj "p" |>.mp h)
  · rw [if_pos hdisk, if_neg hother, String.append_empty] at h
    exact .inr (.inr h.symm)
  · rw [if_neg hdisk, if_pos hother, String.append_empty] at h
    exact .inr (.inl h)
  · rw [if_neg hdisk, if_neg hother, String.append_empty, String.append_empty] at h
    exact .inl h

/-- **Partitions of the same name have the same number, and belong to the same disk unless one
disk is named like the other one with a `p` behind it.** -/
theorem eq_of_nthPartition_eq {disk other : String} {index index' : UInt32}
    (h : nthPartition disk index = nthPartition other index') :
    index = index' ∧ (disk = other ∨ disk = other ++ "p" ∨ other = disk ++ "p") := by
  have hnumber : index = index' := by
    have hread := congrArg partitionNumber? h
    rw [partitionNumber?_nthPartition, partitionNumber?_nthPartition] at hread
    exact Option.some.inj hread
  subst hnumber
  rw [nthPartition_eq, nthPartition_eq] at h
  exact ⟨rfl, eq_of_partitionStem_eq (String.append_left_inj _ |>.mp h)⟩

end ServerMigration
