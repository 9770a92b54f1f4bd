import ServerMigration.Text.Numeral
import ServerMigration.Text.Quoted
import ServerMigration.Text.Search

/-!
# Addresses in configuration files

The network configuration of the migrated system holds addresses of the source's interfaces.  They
are replaced, as whole words, by those of the target's interfaces.

## Main definitions

* `isIpv4` : IPv4 addresses in dotted notation.
* `Replacement`, `addressReplacements` : what replaces the addresses of an interface.
* `replacementCommand` : the command that replaces one address.
-/

namespace ServerMigration

/-- A part of an address: a number up to 255 without superfluous zeros. -/
def isOctet (part : List Char) : Bool :=
  part.length ≤ 3 && (part.length ≤ 1 || part.head? ≠ some '0')
    && (Text.readDigits part).any (· < 256)

/-- IPv4 addresses in dotted notation. -/
def isIpv4 (address : List Char) : Bool :=
  let parts := Text.splitOn '.' address
  parts.length = 4 && parts.all isOctet

/-- The address of a CIDR notation. -/
def addressOfCidr (ip : String) : List Char :=
  (Text.splitOnce '/' ip.toList).1

/-- The IPv4 addresses among some addresses in CIDR notation. -/
def ipv4Only (ips : List String) : List String :=
  ((ips.map addressOfCidr).filter isIpv4).map String.ofList

/-- A value in configuration files and what it becomes. -/
structure Replacement where
  /-- The old value. -/
  old : String
  /-- The new value. -/
  new : String
  deriving DecidableEq, Repr, Inhabited

/-- Whether two texts are equal but for the case of ASCII letters. -/
def equalIgnoringCase (a b : String) : Bool :=
  a.toList.map Char.toLower = b.toList.map Char.toLower

/-- The replacement of a hardware address, if both sides have one and they differ. -/
def macReplacement (source target : Option String) : List Replacement :=
  match source, target with
  | some old, some new => if equalIgnoringCase old new then [] else [⟨old, new⟩]
  | _, _ => []

/-- The replacements for an interface: its IPv4 addresses paired in order, and its hardware
address. -/
def addressReplacements (sourceIps : List String) (sourceMac : Option String)
    (targetIps : List String) (targetMac : Option String) : List Replacement :=
  let pairs := (ipv4Only sourceIps).zip (ipv4Only targetIps)
  (pairs.filter fun (old, new) => old ≠ new).map (fun (old, new) => ⟨old, new⟩)
    ++ macReplacement sourceMac targetMac

/-- Characters with a meaning in a pattern are escaped. -/
def escapePattern (text : List Char) : List Char :=
  text.flatMap fun c =>
    if c ∈ ['.', '[', ']', '*', '^', '$', '\\', '/'] then ['\\', c] else [c]

/-- The substitution of a value on word boundaries, without regard to case. -/
def substitution (r : Replacement) : String :=
  let new := Text.replaceAll ['/'] ['\\', '/'] r.new.toList
  .ofList ("s/\\b".toList ++ escapePattern r.old.toList ++ "\\b/".toList ++ new ++ "/gI".toList)

/-- The command that makes a replacement in a file or in all files of a directory. -/
def replacementCommand (path : String) (r : Replacement) : String :=
  let file := Text.shellWord path
  s!"if [ -e {file} ]; then grep -rliF -- {Text.shellWord r.old} {file} | xargs -r sed -i "
    ++ Text.shellWord (substitution r) ++ "; fi"

end ServerMigration
