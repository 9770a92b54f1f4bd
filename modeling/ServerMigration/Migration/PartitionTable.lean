import ServerMigration.Device.Partition
import ServerMigration.Text.Blank
import ServerMigration.Text.Search

/-!
# Partition tables

The dump of a disk's partition table is turned into one for another disk: the disk and its
partitions are renamed, and the last usable sector is left out, so that it is computed for the new
disk.

## Main definitions

* `retargetPartitionTable` : the dump for another disk.
-/

namespace ServerMigration

/-- The text before and behind the first ` : `. -/
def splitAttributes : List Char → Option (List Char × List Char)
  | [] => none
  | ' ' :: ':' :: ' ' :: rest => some ([], rest)
  | c :: rest => (splitAttributes rest).map fun (before, after) => (c :: before, after)

/-- The line of a partition of the disk, for the other disk.  A partition's name continues the
name of its disk and ends in a number. -/
def renamePartition? (sourceDisk targetDisk : String) (text : List Char) : Option (List Char) := do
  let (device, rest) ← splitAttributes text
  let name ← Text.afterPrefix "/dev/".toList (Text.trim device)
  guard (sourceDisk.toList.isPrefixOf name ∧ name ≠ sourceDisk.toList)
  let index ← partitionNumber? (String.ofList name)
  return "/dev/".toList ++ (nthPartition targetDisk index).toList ++ " : ".toList ++ rest

/-- A line of the dump; none if it is left out. -/
def rewriteTableLine (sourceDisk targetDisk : String) (line : List Char) : Option (List Char) :=
  let text := Text.trimStart line
  if "last-lba:".toList.isPrefixOf text then none
  else if "device:".toList.isPrefixOf text then some s!"device: /dev/{targetDisk}".toList
  else some ((renamePartition? sourceDisk targetDisk text).getD line)

/-- The dump of a disk's partition table, for another disk. -/
def retargetPartitionTable (dump sourceDisk targetDisk : String) : String :=
  .ofList (Text.joinWith ['\n']
    ((Text.lines dump.toList).filterMap (rewriteTableLine sourceDisk targetDisk)))

end ServerMigration
