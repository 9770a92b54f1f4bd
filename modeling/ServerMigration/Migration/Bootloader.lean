import ServerMigration.Migration.Work
import ServerMigration.Text.Quoted

/-!
# The bootloader

The bootloader is installed from within the migrated system.  The filesystems below its root and
the kernel's own are bound into the root for that time, and taken out again in the reverse order
whatever happens.

## Main definitions

* `bindsBelow` : what is bound, and where.
* `Work.installBootloader` : installs the bootloader.
-/

namespace ServerMigration

/-- The kernel's filesystems that the bootloader needs. -/
def pseudoFilesystems : List String := ["/dev", "/proc", "/sys"]

/-- A directory that is bound at a path. -/
abbrev BindMount : Type := String × String

/-- The binds in mount order: the filesystems below the root, given by their mount directories and
mountpoints, and then the kernel's. -/
def bindsBelow (root : String) (nested : List (String × String)) : List BindMount :=
  nested.map (fun (directory, mountpoint) => (directory, root ++ mountpoint))
    ++ pseudoFilesystems.map fun pseudo => (pseudo, root ++ pseudo)

/-- The mounted filesystems below the root. -/
def nestedMounts (table : MountTable) : List (String × String) :=
  (table.filter fun entry => entry.sourceMountpoint ≠ "/" && entry.sourceMountpoint ≠ ""
    && entry.targetMountpoint ≠ "").map
      fun entry => (entry.targetMountpoint, entry.sourceMountpoint)

/-- Runs a command within a root. -/
def rootedCommand (root command : String) : String :=
  s!"chroot {Text.shellWord root} sh -c {Text.shellWord command}"

/-- Binds a directory. -/
def bindCommand (bind : BindMount) : String :=
  let path := Text.shellWord bind.2
  s!"mkdir -p {path} && mount --bind {Text.shellWord bind.1} {path}"

/-- Takes a bind out again. -/
def unmountCommand (path : String) : String := s!"umount {Text.shellWord path}"

namespace Work

/-- Binds directories until one of them fails; tells the paths that are bound, the latest first,
and whether all are. -/
def bindAll (target : RemoteHost) (mounted : List String) :
    List BindMount → Work (List String × Bool)
  | [] => return (mounted, true)
  | bind :: binds => do
    match ← tryRemote s!"bind {bind.1} at {bind.2}" target (bindCommand bind) with
    | some _ => bindAll target (bind.2 :: mounted) binds
    | none => return (mounted, false)

/-- Runs commands within the root until one of them fails. -/
def runInRoot (target : RemoteHost) (root : String) : List String → Work Unit
  | [] => return ()
  | command :: commands => do
    match ← tryRemote command target (rootedCommand root command) with
    | some _ => runInRoot target root commands
    | none => return ()

/-- Takes binds out again. -/
def unmountAll (target : RemoteHost) (paths : List String) : Work Unit :=
  paths.forM fun path => do
    let _ ← tryRemote s!"unmount {path}" target (unmountCommand path)

/-- Installs the bootloader on the disk that the migrated system boots from. -/
def installBootloader : Work (Option Signal) := do
  let s ← source
  let target ← ofExcept (targetHost s "ReinstallBootloader")
  let table ← ofExcept (mountTable s "ReinstallBootloader")
  match table.root, table.bootEntry with
  | none, _ => precondition "ReinstallBootloader" "source has no root filesystem"
  | some _, none => precondition "ReinstallBootloader" "source has no boot filesystem"
  | some root, some boot =>
    let os := s.remoteHost.os
    let binds := bindsBelow root.targetMountpoint (nestedMounts table)
    let (mounted, bound) ← bindAll target [] binds
    if bound then
      runInRoot target root.targetMountpoint
        [os.installGrub s!"/dev/{boot.targetDisk}", os.configureGrub]
    unmountAll target mounted
    return none

end Work

end ServerMigration
