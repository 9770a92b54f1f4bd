import ServerMigration.RemoteHost
import ServerMigration.Proofs.Identifiers
import ServerMigration.Proofs.Json.Trees
import ServerMigration.Proofs.Time.Instants

/-!
# The formats of hosts

The fields of a host, of its inventory and of what the provider created for it, as they are written
and read.

## Main results

* `CloudMetadata.lawful`, `SystemInfo.lawful` : the formats of the parts are lawful.
* `BlockDevice.lawful` : the format of a device with everything below it is lawful.
* `RemoteHost.lawful` : the format of hosts is lawful.
-/

namespace ServerMigration

/-! ### Identifiers, instants and constants -/

namespace Format

/-- Identifiers. -/
abbrev uuid : Format Uuid := scalar Uuid fun _ => True

/-- Points in time. -/
abbrev instant : Format Instant := scalar Instant Instant.Proper

/-- Families of operating systems. -/
abbrev osFamily : Format OsFamily := scalar OsFamily fun _ => True

@[simp] theorem lawful_uuid : uuid.Lawful := by
  refine lawful_scalar (fun _ => trivial) fun id _ => ?_
  show Json.expect (Uuid.parse? id.text) = _
  rw [Uuid.parse?_text]
  rfl

@[simp] theorem lawful_instant : instant.Lawful := by
  refine lawful_scalar (fun _ => trivial) fun t proper => ?_
  show Json.expect (Instant.parse? t.text) = _
  rw [Instant.parse?_text proper]
  rfl

@[simp] theorem neverNull_instant : instant.NeverNull := nofun

@[simp] theorem lawful_osFamily : osFamily.Lawful :=
  lawful_scalar (fun _ => trivial) fun os _ => by cases os <;> rfl

end Format

/-! ### What the provider created -/

/-- The fields of a volume. -/
def VolumeInfo.fields : List (RecordField VolumeInfo) :=
  [.required "id" .text id, .required "name" .text name, .required "size_gib" .uint64 sizeGib,
    .defaulted "device_number" Format.uint32.option deviceNumber none]

@[inherit_doc VolumeInfo.fields]
abbrev VolumeInfo.format : Format VolumeInfo := .record fields

theorem VolumeInfo.isRecord : format.IsRecord fields where
  names := by decide
  encode_eq _ := rfl
  decode_eq_ok_iff json v := by
    cases v
    simp only [Format.decode_record, decode, bind_eq_ok_iff, pure_eq_ok_iff, mk.injEq,
      fields, List.forall_mem_cons, List.not_mem_nil, false_implies, implies_true, and_true,
      existsAndEq]
    exact Iff.rfl

@[simp] theorem VolumeInfo.lawful : format.Lawful := isRecord.lawful (by simp [fields])

/-- The fields of an interface of a target server. -/
def NicInfo.fields : List (RecordField NicInfo) :=
  [.required "id" .text id, .required "name" .text name, .required "lan" .uint32 lan,
    .defaulted "ips" Format.text.list ips [], .defaulted "mac" Format.text.option mac none]

@[inherit_doc NicInfo.fields]
abbrev NicInfo.format : Format NicInfo := .record fields

theorem NicInfo.isRecord : format.IsRecord fields where
  names := by decide
  encode_eq _ := rfl
  decode_eq_ok_iff json v := by
    cases v
    simp only [Format.decode_record, decode, bind_eq_ok_iff, pure_eq_ok_iff, mk.injEq,
      fields, List.forall_mem_cons, List.not_mem_nil, false_implies, implies_true, and_true,
      existsAndEq]
    exact Iff.rfl

@[simp] theorem NicInfo.lawful : format.Lawful := isRecord.lawful (by simp [fields])

/-- The fields of a target server. -/
def CloudMetadata.fields : List (RecordField CloudMetadata) :=
  [.required "server_id" .text serverId, .required "bootstrap_volume_id" .text bootstrapVolumeId,
    .required "bootstrap_nic_id" .text bootstrapNicId,
    .defaulted "volumes" VolumeInfo.format.list volumes [],
    .defaulted "nics" NicInfo.format.list nics []]

@[inherit_doc CloudMetadata.fields]
abbrev CloudMetadata.format : Format CloudMetadata := .record fields

theorem CloudMetadata.isRecord : format.IsRecord fields where
  names := by decide
  encode_eq _ := rfl
  decode_eq_ok_iff json v := by
    cases v
    simp only [Format.decode_record, decode, bind_eq_ok_iff, pure_eq_ok_iff, mk.injEq,
      fields, List.forall_mem_cons, List.not_mem_nil, false_implies, implies_true, and_true,
      existsAndEq]
    exact Iff.rfl

@[simp] theorem CloudMetadata.lawful : format.Lawful := isRecord.lawful (by simp [fields])

@[simp] theorem CloudMetadata.neverNull : format.NeverNull := isRecord.neverNull

/-! ### Inventories -/

/-- The fields of a network interface. -/
def NetworkInterface.fields : List (RecordField NetworkInterface) :=
  [.required "name" .text name, .defaulted "mac" Format.text.option mac none,
    .defaulted "ips" Format.text.list ips [], .defaulted "gateway" Format.text.option gateway none]

@[inherit_doc NetworkInterface.fields]
abbrev NetworkInterface.format : Format NetworkInterface := .record fields

theorem NetworkInterface.isRecord : format.IsRecord fields where
  names := by decide
  encode_eq _ := rfl
  decode_eq_ok_iff json v := by
    cases v
    simp only [Format.decode_record, decode, bind_eq_ok_iff, pure_eq_ok_iff, mk.injEq,
      fields, List.forall_mem_cons, List.not_mem_nil, false_implies, implies_true, and_true,
      existsAndEq]
    exact Iff.rfl

@[simp] theorem NetworkInterface.lawful : format.Lawful := isRecord.lawful (by simp [fields])

/-- The fields of a machine's size. -/
def Hardware.fields : List (RecordField Hardware) :=
  [.required "cores" .uint32 cores, .required "ram_mib" .uint64 ramMib]

@[inherit_doc Hardware.fields]
abbrev Hardware.format : Format Hardware := .record fields

theorem Hardware.isRecord : format.IsRecord fields where
  names := by decide
  encode_eq _ := rfl
  decode_eq_ok_iff json v := by
    cases v
    simp only [Format.decode_record, decode, bind_eq_ok_iff, pure_eq_ok_iff, mk.injEq,
      fields, List.forall_mem_cons, List.not_mem_nil, false_implies, implies_true, and_true,
      existsAndEq]
    exact Iff.rfl

@[simp] theorem Hardware.lawful : format.Lawful := isRecord.lawful (by simp [fields])

/-- The fields of a device other than its children. -/
def BlockDevice.ownFields : List (RecordField BlockDevice) :=
  [.required "name" .text name, .required "size" .uint64 size,
    .defaulted "fs" Format.text.option fs none, .defaulted "uuid" Format.text.option uuid none,
    .defaulted "label" Format.text.option label none,
    .defaulted "mountpoint" Format.text.option mountpoint none,
    .defaulted "bootable" .flag bootable false]

/-- The fields of a device. -/
def BlockDevice.fields : (Json → Json → Prop) → List (RecordField BlockDevice) :=
  treeFields ownFields "children" children

@[inherit_doc BlockDevice.fields]
abbrev BlockDevice.format : Format BlockDevice := .tree children fields

theorem BlockDevice.childrenToJson_eq (devices : List (String × BlockDevice)) :
    childrenToJson devices = devices.map fun (name, device) => (name, encode device) := by
  induction devices with
  | nil => rfl
  | cons entry devices ih =>
    rw [childrenToJson, ih]
    rfl

theorem BlockDevice.isRecord (R : Json → Json → Prop) :
    (Format.record (fields R)).IsRecord (fields R) where
  names := by
    show ["name", "size", "fs", "uuid", "label", "mountpoint", "bootable", "children"].Nodup
    decide
  encode_eq v := by
    obtain ⟨name, size, fs, uuid, label, mountpoint, bootable, children⟩ := v
    show toJson _ = _
    rw [toJson, childrenToJson_eq]
    rfl
  decode_eq_ok_iff json v := by
    cases v
    rw [Format.decode_record, decodeTree_eq_ok_iff (fun _ => rfl) (by decide)]
    simp only [ofRecord, bind_eq_ok_iff, pure_eq_ok_iff, mk.injEq, fields, treeFields, ownFields,
      List.cons_append, List.nil_append, List.forall_mem_cons, List.not_mem_nil, false_implies,
      implies_true, and_true, existsAndEq, and_assoc, true_and]
    exact Iff.rfl

@[simp] theorem BlockDevice.lawful : format.Lawful :=
  Format.lawful_tree isRecord (by simp [ownFields]) (by simp [ownFields, RecordField.required,
    RecordField.defaulted, Format.text, Format.flag, Format.uint64, Format.option, Format.scalar])

/-- The fields of an inventory. -/
def SystemInfo.fields : List (RecordField SystemInfo) :=
  [.defaulted "block_devices" BlockDevice.format.dict blockDevices [],
    .defaulted "network" NetworkInterface.format.dict network [],
    .defaulted "hardware" Hardware.format hardware ⟨0, 0⟩]

@[inherit_doc SystemInfo.fields]
abbrev SystemInfo.format : Format SystemInfo := .record fields

theorem SystemInfo.isRecord : format.IsRecord fields where
  names := by decide
  encode_eq _ := rfl
  decode_eq_ok_iff json v := by
    cases v
    simp only [Format.decode_record, decode, bind_eq_ok_iff, pure_eq_ok_iff, mk.injEq,
      fields, List.forall_mem_cons, List.not_mem_nil, false_implies, implies_true, and_true,
      existsAndEq]
    exact Iff.rfl

@[simp] theorem SystemInfo.lawful : format.Lawful := isRecord.lawful (by simp [fields])

@[simp] theorem SystemInfo.neverNull : format.NeverNull := isRecord.neverNull

/-- The fields of a host. -/
def RemoteHost.fields : List (RecordField RemoteHost) :=
  [.required "id" .uuid id, .required "address" .text address,
    .defaulted "port" .uint16 port 22, .required "username" .text username,
    .defaulted "private_key_path" Format.text.option privateKeyPath none,
    .required "os" .osFamily os, .defaulted "os_version" .text osVersion "",
    .defaulted "system_info" SystemInfo.format.option systemInfo none,
    .defaulted "cloud_metadata" CloudMetadata.format.option cloudMetadata none]

@[inherit_doc RemoteHost.fields]
abbrev RemoteHost.format : Format RemoteHost := .record fields

theorem RemoteHost.isRecord : format.IsRecord fields where
  names := by decide
  encode_eq _ := rfl
  decode_eq_ok_iff json v := by
    cases v
    simp only [Format.decode_record, decode, bind_eq_ok_iff, pure_eq_ok_iff, mk.injEq,
      fields, List.forall_mem_cons, List.not_mem_nil, false_implies, implies_true, and_true,
      existsAndEq]
    exact Iff.rfl

@[simp] theorem RemoteHost.lawful : format.Lawful := isRecord.lawful (by simp [fields])

@[simp] theorem RemoteHost.neverNull : format.NeverNull := isRecord.neverNull

end ServerMigration
