import ServerMigration.Mapping.DeviceMapping
import ServerMigration.Text.Blank
import ServerMigration.Text.Search

/-!
# The table of filesystems

The migrated system's `/etc/fstab` names devices of the source.  A device that has a filesystem
identifier is named by that, any other by its counterpart; comments and all other lines stay as
they are.

## Main definitions

* `deviceNamed?` : a device of a name, anywhere in the forest.
* `retargetFstab` : the table for the target.
-/

namespace ServerMigration

/-- The device of a name, among these devices or, in their order, anywhere below them. -/
def deviceNamed? (devices : List (String × BlockDevice)) (name : String) : Option BlockDevice :=
  match devices.lookup name with
  | some device => some device
  | none => findBelow devices
where
  /-- The first device of the name that lies below one of these devices. -/
  findBelow : List (String × BlockDevice) → Option BlockDevice
    | [] => none
    | (_, ⟨_, _, _, _, _, _, _, children⟩) :: devices =>
      match children.lookup name with
      | some device => some device
      | none =>
        match findBelow children with
        | some device => some device
        | none => findBelow devices

/-- How the target names a device of the source. -/
def fstabSpec (devices : Devices) (mapping : DeviceMapping) (name : String) : Option String :=
  match (deviceNamed? devices name).bind (·.uuid) with
  | some uuid => some s!"UUID={uuid}"
  | none => (mapping.counterpart? name).map fun mapped => s!"/dev/{mapped.id}"

/-- A line of the table.  A line that is changed loses its leading blanks. -/
def rewriteFstabLine (devices : Devices) (mapping : DeviceMapping) (line : List Char) :
    List Char :=
  let text := Text.trimStart line
  let spec := text.takeWhile (!Text.isBlank ·)
  match Text.afterPrefix "/dev/".toList spec with
  | none => line
  | some name =>
    match fstabSpec devices mapping (String.ofList name) with
    | some replacement => replacement.toList ++ text.drop spec.length
    | none => line

/-- The table for the target. -/
def retargetFstab (fstab : String) (devices : Devices) (mapping : DeviceMapping) : String :=
  let chars := fstab.toList
  let lines := (Text.lines chars).map (rewriteFstabLine devices mapping)
  let ended := if chars.getLast? = some '\n' then lines ++ [[]] else lines
  .ofList (Text.joinWith ['\n'] ended)

end ServerMigration
