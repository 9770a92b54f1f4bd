import ServerMigration.Json.Codec

/-!
# Operating system families

The family of a host's operating system decides how its bootloader is installed and where its
network configuration lies.

## Main definitions

* `OsFamily` : the families.
* `OsFamily.installGrub`, `OsFamily.configureGrub`, `OsFamily.networkFiles`.
-/

namespace ServerMigration

/-- A family of operating systems. -/
inductive OsFamily
  | debian
  | ubuntu
  | centos
  | rhel
  deriving DecidableEq, Repr, Inhabited

namespace OsFamily

/-- All families. -/
def all : List OsFamily := [debian, ubuntu, centos, rhel]

/-- The name of a family. -/
def name : OsFamily → String
  | debian => "debian"
  | ubuntu => "ubuntu"
  | centos => "centos"
  | rhel => "rhel"

/-- Installs the bootloader on a disk, within the migrated system. -/
def installGrub (os : OsFamily) (disk : String) : String :=
  match os with
  | debian | ubuntu => s!"grub-install --recheck {disk}"
  | centos | rhel => s!"grub2-install --recheck {disk}"

/-- Regenerates the bootloader's configuration, within the migrated system. -/
def configureGrub : OsFamily → String
  | debian | ubuntu => "update-grub"
  | centos | rhel => "grub2-mkconfig -o /boot/grub2/grub.cfg"

/-- The files that hold the addresses of an interface. -/
def networkFiles (os : OsFamily) (interface : String) : List String :=
  match os with
  | debian => ["/etc/network/interfaces"]
  | ubuntu => ["/etc/network/interfaces", "/etc/netplan"]
  | centos | rhel => [s!"/etc/sysconfig/network-scripts/ifcfg-{interface}"]

instance : JsonCodec OsFamily where
  encode os := .string os.name
  decode := decodeConstant all name

end OsFamily

end ServerMigration
