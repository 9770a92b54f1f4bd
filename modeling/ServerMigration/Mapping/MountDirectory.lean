import ServerMigration.Digest.Blake3
import ServerMigration.Text.Numeral

/-!
# Mount directories on the target

While the target's new disks are filled, the filesystem that the source mounts at some path is
mounted in a directory whose name is derived from that path, so that every run finds the same
directory again.

## Main definitions

* `mountDirectory` : the directory for a mountpoint of the source.
-/

namespace ServerMigration

/-- The directory that holds all mount directories. -/
def targetMountRoot : String := "/mnt"

/-- The context under which directory names are derived. -/
def mountpointContext : String := "migrator-core-rs 2024-06-01 target mountpoint v1"

/-- The name derived from a path: the first sixteen derived bytes in hexadecimal. -/
def mountpointDigest (path : String) : List Char :=
  ((Blake3.deriveKey mountpointContext.toUTF8.toList path.toUTF8.toList).take 16).flatMap
    Text.hexByte

/-- The mount directory for a mountpoint of the source; empty for swap and for devices that are
not mounted. -/
def mountDirectory (mountpoint : Option String) (isSwap : Bool) : String :=
  match mountpoint with
  | some path =>
    if isSwap || path = "" || path = "[SWAP]" then ""
    else targetMountRoot ++ "/" ++ String.ofList (mountpointDigest path)
  | none => ""

end ServerMigration
