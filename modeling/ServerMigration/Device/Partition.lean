import ServerMigration.Text.Numeral

/-!
# Names of partitions

A partition's number is the run of digits at the end of its name.  The kernel names a partition by
its disk's name and its number, with a `p` between them if the disk's name ends in a digit.

## Main definitions

* `partitionNumber?` : the number at the end of a name.
* `nthPartition` : the name of a disk's partition.
-/

namespace ServerMigration

/-- The digits at the end of a name. -/
def trailingDigits (name : List Char) : List Char :=
  (name.reverse.takeWhile Char.isDigit).reverse

/-- The partition number at the end of a name (`vda2`: 2, `nvme0n1p3`: 3). -/
def partitionNumber? (name : String) : Option UInt32 :=
  (Text.readNat UInt32.size (trailingDigits name.toList)).map (·.toUInt32)

/-- Whether the kernel separates a disk's name from a partition number by a `p`. -/
def endsInDigit (disk : String) : Bool :=
  match disk.toList.getLast? with
  | some c => c.isDigit
  | none => false

/-- The name of the partition with this number on a disk. -/
def nthPartition (disk : String) (index : UInt32) : String :=
  disk ++ (if endsInDigit disk then "p" else "") ++ toString index.toNat

end ServerMigration
