import ServerMigration.Blueprint
import ServerMigration.Proofs.Json.Records

/-!
# The formats of blueprints

The fields of a blueprint and of its parts, as they are written and read.

## Main results

* `Blueprint.lawful` : the format of blueprints is lawful.
-/

namespace ServerMigration

/-- The fields of a server's size. -/
def HardwareSpec.fields : List (RecordField HardwareSpec) :=
  [.defaulted "cores" .uint32 cores 0, .defaulted "ram_mib" .uint64 ramMib 0]

@[inherit_doc HardwareSpec.fields]
abbrev HardwareSpec.format : Format HardwareSpec := .record fields

theorem HardwareSpec.isRecord : format.IsRecord fields where
  names := by decide
  encode_eq _ := rfl
  decode_eq_ok_iff json v := by
    cases v
    simp only [Format.decode_record, decode, bind_eq_ok_iff, pure_eq_ok_iff, mk.injEq, fields,
      List.forall_mem_cons, List.not_mem_nil, false_implies, implies_true, and_true, existsAndEq]
    exact Iff.rfl

@[simp] theorem HardwareSpec.lawful : format.Lawful := isRecord.lawful (by simp [fields])

/-- The fields of the credentials. -/
def SshCredentials.fields : List (RecordField SshCredentials) :=
  [.defaulted "username" .text username "root",
    .defaulted "private_key_path" Format.text.option privateKeyPath none,
    .defaulted "public_keys" Format.text.list publicKeys []]

@[inherit_doc SshCredentials.fields]
abbrev SshCredentials.format : Format SshCredentials := .record fields

theorem SshCredentials.isRecord : format.IsRecord fields where
  names := by decide
  encode_eq _ := rfl
  decode_eq_ok_iff json v := by
    cases v
    simp only [Format.decode_record, decode, bind_eq_ok_iff, pure_eq_ok_iff, mk.injEq, fields,
      List.forall_mem_cons, List.not_mem_nil, false_implies, implies_true, and_true, existsAndEq]
    exact Iff.rfl

@[simp] theorem SshCredentials.lawful : format.Lawful := isRecord.lawful (by simp [fields])

/-- The fields of a rule for an interface. -/
def InterfaceRule.fields : List (RecordField InterfaceRule) :=
  [.required "source_interface" .text sourceInterface, .required "lan" .uint32 lan,
    .defaulted "ips" Format.text.list ips []]

@[inherit_doc InterfaceRule.fields]
abbrev InterfaceRule.format : Format InterfaceRule := .record fields

theorem InterfaceRule.isRecord : format.IsRecord fields where
  names := by decide
  encode_eq _ := rfl
  decode_eq_ok_iff json v := by
    cases v
    simp only [Format.decode_record, decode, bind_eq_ok_iff, pure_eq_ok_iff, mk.injEq, fields,
      List.forall_mem_cons, List.not_mem_nil, false_implies, implies_true, and_true, existsAndEq]
    exact Iff.rfl

@[simp] theorem InterfaceRule.lawful : format.Lawful := isRecord.lawful (by simp [fields])

/-- The fields of a network. -/
def NetworkMapping.fields : List (RecordField NetworkMapping) :=
  [.defaulted "bootstrap_lan" .uint32 bootstrapLan 0,
    .defaulted "interfaces" InterfaceRule.format.list interfaces []]

@[inherit_doc NetworkMapping.fields]
abbrev NetworkMapping.format : Format NetworkMapping := .record fields

theorem NetworkMapping.isRecord : format.IsRecord fields where
  names := by decide
  encode_eq _ := rfl
  decode_eq_ok_iff json v := by
    cases v
    simp only [Format.decode_record, decode, bind_eq_ok_iff, pure_eq_ok_iff, mk.injEq, fields,
      List.forall_mem_cons, List.not_mem_nil, false_implies, implies_true, and_true, existsAndEq]
    exact Iff.rfl

@[simp] theorem NetworkMapping.lawful : format.Lawful := isRecord.lawful (by simp [fields])

/-- Sides of a migration. -/
abbrev Format.hookLocation : Format HookLocation := scalar HookLocation fun _ => True

@[simp] theorem Format.lawful_hookLocation : hookLocation.Lawful :=
  lawful_scalar (fun _ => trivial) fun location _ => by cases location <;> rfl

/-- The fields of a hook. -/
def HookSpec.fields : List (RecordField HookSpec) :=
  [.required "event" .text event, .required "location" .hookLocation location,
    .required "script" .text script]

@[inherit_doc HookSpec.fields]
abbrev HookSpec.format : Format HookSpec := .record fields

theorem HookSpec.isRecord : format.IsRecord fields where
  names := by decide
  encode_eq _ := rfl
  decode_eq_ok_iff json v := by
    cases v
    simp only [Format.decode_record, decode, bind_eq_ok_iff, pure_eq_ok_iff, mk.injEq, fields,
      List.forall_mem_cons, List.not_mem_nil, false_implies, implies_true, and_true, existsAndEq]
    exact Iff.rfl

@[simp] theorem HookSpec.lawful : format.Lawful := isRecord.lawful (by simp [fields])

/-- The fields of the command templates; each has its own default. -/
def CommandTemplates.fields : List (RecordField CommandTemplates) :=
  [.defaulted "list_block_devices" .text listBlockDevices ({} : CommandTemplates).listBlockDevices,
    .defaulted "partition_dump" .text partitionDump ({} : CommandTemplates).partitionDump,
    .defaulted "partition_apply" .text partitionApply ({} : CommandTemplates).partitionApply,
    .defaulted "mkfs" Format.text.dict mkfs ({} : CommandTemplates).mkfs,
    .defaulted "mount" .text mount ({} : CommandTemplates).mount,
    .defaulted "sync" .text sync ({} : CommandTemplates).sync,
    .defaulted "sync_excludes" Format.text.list syncExcludes ({} : CommandTemplates).syncExcludes]

@[inherit_doc CommandTemplates.fields]
abbrev CommandTemplates.format : Format CommandTemplates := .record fields

theorem CommandTemplates.isRecord : format.IsRecord fields where
  names := by decide
  encode_eq _ := rfl
  decode_eq_ok_iff json v := by
    cases v
    simp only [Format.decode_record, decode, bind_eq_ok_iff, pure_eq_ok_iff, mk.injEq, fields,
      List.forall_mem_cons, List.not_mem_nil, false_implies, implies_true, and_true, existsAndEq]
    exact Iff.rfl

@[simp] theorem CommandTemplates.lawful : format.Lawful := isRecord.lawful (by simp [fields])

/-- The fields of a blueprint. -/
def Blueprint.fields : List (RecordField Blueprint) :=
  [.required "name" .text name, .defaulted "hardware" HardwareSpec.format hardware {},
    .required "template_image" .text templateImage,
    .defaulted "ssh" SshCredentials.format ssh {},
    .defaulted "network" NetworkMapping.format network {},
    .defaulted "hooks" HookSpec.format.list hooks [],
    .defaulted "commands" CommandTemplates.format commands {}]

@[inherit_doc Blueprint.fields]
abbrev Blueprint.format : Format Blueprint := .record fields

theorem Blueprint.isRecord : format.IsRecord fields where
  names := by decide
  encode_eq _ := rfl
  decode_eq_ok_iff json v := by
    cases v
    simp only [Format.decode_record, decode, bind_eq_ok_iff, pure_eq_ok_iff, mk.injEq, fields,
      List.forall_mem_cons, List.not_mem_nil, false_implies, implies_true, and_true, existsAndEq]
    exact Iff.rfl

@[simp] theorem Blueprint.lawful : format.Lawful := isRecord.lawful (by simp [fields])

end ServerMigration
