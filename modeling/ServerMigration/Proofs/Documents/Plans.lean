import ServerMigration.Plan.Basic
import ServerMigration.Proofs.Documents.Blueprints
import ServerMigration.Proofs.Documents.Hosts

/-!
# The formats of plans, runs and sources

The fields of the documents that a migration keeps, as they are written and read.

## Main results

* `Target.lawful`, `Source.lawful` : the formats of targets and sources are lawful.
* `MigrationPlan.lawful`, `MigrationRun.lawful` : those of plans and runs are.
-/

namespace ServerMigration

/-! ### Counterparts -/

/-- The fields of a counterpart other than its children. -/
def MappedDevice.ownFields : List (RecordField MappedDevice) :=
  [.required "id" .text id, .defaulted "mountpoint" .text mountpoint ""]

/-- The fields of a counterpart. -/
def MappedDevice.fields : (Json → Json → Prop) → List (RecordField MappedDevice) :=
  treeFields ownFields "children" children

@[inherit_doc MappedDevice.fields]
abbrev MappedDevice.format : Format MappedDevice := .tree children fields

theorem MappedDevice.childrenToJson_eq (devices : List (String × MappedDevice)) :
    childrenToJson devices = devices.map fun (name, device) => (name, encode device) := by
  induction devices with
  | nil => rfl
  | cons entry devices ih =>
    rw [childrenToJson, ih]
    rfl

theorem MappedDevice.isRecord (R : Json → Json → Prop) :
    (Format.record (fields R)).IsRecord (fields R) where
  names := by
    show ["id", "mountpoint", "children"].Nodup
    decide
  encode_eq v := by
    obtain ⟨id, mountpoint, children⟩ := v
    show toJson _ = _
    rw [toJson, childrenToJson_eq]
    rfl
  decode_eq_ok_iff json v := by
    cases v
    rw [Format.decode_record, decodeTree_eq_ok_iff (fun _ => rfl) (by decide)]
    simp only [ofRecord, bind_eq_ok_iff, pure_eq_ok_iff, mk.injEq, fields, treeFields, ownFields,
      List.cons_append, List.nil_append, List.forall_mem_cons, List.not_mem_nil, false_implies,
      implies_true, and_true, existsAndEq, and_assoc, true_and]
    exact Iff.rfl

@[simp] theorem MappedDevice.lawful : format.Lawful :=
  Format.lawful_tree isRecord (by simp [ownFields]) (by simp [ownFields, RecordField.required,
    RecordField.defaulted, Format.text, Format.scalar])

/-! ### Targets and sources -/

/-- The fields of a target. -/
def Target.fields : List (RecordField Target) :=
  [.required "blueprint" Blueprint.format blueprint,
    .defaulted "device_mapping" MappedDevice.format.dict.option deviceMapping none,
    .defaulted "remote_host" RemoteHost.format.option remoteHost none]

@[inherit_doc Target.fields]
abbrev Target.format : Format Target := .record fields

theorem Target.isRecord : format.IsRecord fields where
  names := by decide
  encode_eq v := congrArg (fun mapping => Json.object [("blueprint", encode v.blueprint),
    ("device_mapping", mapping), ("remote_host", encode v.remoteHost)])
      (MappedDevice.format.encode_option_dict v.deviceMapping).symm
  decode_eq_ok_iff json v := by
    cases v
    simp only [Format.decode_record, decode, bind_eq_ok_iff, pure_eq_ok_iff, mk.injEq, fields,
      List.forall_mem_cons, List.not_mem_nil, false_implies, implies_true, and_true, existsAndEq,
      RecordField.read_dict?]
    exact Iff.rfl

@[simp] theorem Target.lawful : format.Lawful := isRecord.lawful (by simp [fields])

/-- Statuses of a source. -/
abbrev Format.sourceStatus : Format SourceStatus := scalar SourceStatus fun _ => True

@[simp] theorem Format.lawful_sourceStatus : sourceStatus.Lawful :=
  lawful_scalar (fun _ => trivial) fun status _ => by cases status <;> rfl

/-- The fields of a source. -/
def Source.fields : List (RecordField Source) :=
  [.required "id" .uuid id, .required "run_id" .uuid runId, .required "name" .text name,
    .required "status" .sourceStatus status, .defaulted "paused" .flag paused false,
    .required "remote_host" RemoteHost.format remoteHost, .required "target" Target.format target,
    .defaulted "last_error" Format.text.option lastError none,
    .required "created_at" .instant createdAt, .required "updated_at" .instant updatedAt]

@[inherit_doc Source.fields]
abbrev Source.format : Format Source := .record fields

theorem Source.isRecord : format.IsRecord fields where
  names := by decide
  encode_eq _ := rfl
  decode_eq_ok_iff json v := by
    cases v
    simp only [Format.decode_record, decode, bind_eq_ok_iff, pure_eq_ok_iff, mk.injEq, fields,
      List.forall_mem_cons, List.not_mem_nil, false_implies, implies_true, and_true, existsAndEq]
    exact Iff.rfl

@[simp] theorem Source.lawful : format.Lawful := isRecord.lawful (by simp [fields])

/-! ### Plans and runs -/

/-- The fields of a policy. -/
def RunPolicy.fields : List (RecordField RunPolicy) :=
  [.defaulted "simultaneous_migrations" .uint64 simultaneousMigrations 1,
    .defaulted "sync_interval_seconds" Format.uint64.option syncIntervalSeconds none,
    .defaulted "go_live_at" Format.instant.option goLiveAt none]

@[inherit_doc RunPolicy.fields]
abbrev RunPolicy.format : Format RunPolicy := .record fields

theorem RunPolicy.isRecord : format.IsRecord fields where
  names := by decide
  encode_eq _ := rfl
  decode_eq_ok_iff json v := by
    cases v
    simp only [Format.decode_record, decode, bind_eq_ok_iff, pure_eq_ok_iff, mk.injEq, fields,
      List.forall_mem_cons, List.not_mem_nil, false_implies, implies_true, and_true, existsAndEq]
    exact Iff.rfl

@[simp] theorem RunPolicy.lawful : format.Lawful := isRecord.lawful (by simp [fields])

/-- The fields of a host in a plan. -/
def SourcePlan.fields : List (RecordField SourcePlan) :=
  [.required "name" .text name, .required "address" .text address,
    .defaulted "port" .uint16 port 22, .required "username" .text username,
    .defaulted "private_key_path" Format.text.option privateKeyPath none,
    .required "os" .osFamily os, .defaulted "os_version" .text osVersion "",
    .required "blueprint" Blueprint.format blueprint]

@[inherit_doc SourcePlan.fields]
abbrev SourcePlan.format : Format SourcePlan := .record fields

theorem SourcePlan.isRecord : format.IsRecord fields where
  names := by decide
  encode_eq _ := rfl
  decode_eq_ok_iff json v := by
    cases v
    simp only [Format.decode_record, decode, bind_eq_ok_iff, pure_eq_ok_iff, mk.injEq, fields,
      List.forall_mem_cons, List.not_mem_nil, false_implies, implies_true, and_true, existsAndEq]
    exact Iff.rfl

@[simp] theorem SourcePlan.lawful : format.Lawful := isRecord.lawful (by simp [fields])

/-- The fields of a plan. -/
def MigrationPlan.fields : List (RecordField MigrationPlan) :=
  [.defaulted "policy" RunPolicy.format policy {},
    .required "sources" SourcePlan.format.list sources]

@[inherit_doc MigrationPlan.fields]
abbrev MigrationPlan.format : Format MigrationPlan := .record fields

theorem MigrationPlan.isRecord : format.IsRecord fields where
  names := by decide
  encode_eq _ := rfl
  decode_eq_ok_iff json v := by
    cases v
    simp only [Format.decode_record, decode, bind_eq_ok_iff, pure_eq_ok_iff, mk.injEq, fields,
      List.forall_mem_cons, List.not_mem_nil, false_implies, implies_true, and_true, existsAndEq]
    exact Iff.rfl

@[simp] theorem MigrationPlan.lawful : format.Lawful := isRecord.lawful (by simp [fields])

/-- The fields of a run. -/
def MigrationRun.fields : List (RecordField MigrationRun) :=
  [.required "id" .uuid id, .required "policy" RunPolicy.format policy,
    .required "source_ids" Format.uuid.list sourceIds, .required "created_at" .instant createdAt]

@[inherit_doc MigrationRun.fields]
abbrev MigrationRun.format : Format MigrationRun := .record fields

theorem MigrationRun.isRecord : format.IsRecord fields where
  names := by decide
  encode_eq _ := rfl
  decode_eq_ok_iff json v := by
    cases v
    simp only [Format.decode_record, decode, bind_eq_ok_iff, pure_eq_ok_iff, mk.injEq, fields,
      List.forall_mem_cons, List.not_mem_nil, false_implies, implies_true, and_true, existsAndEq]
    exact Iff.rfl

@[simp] theorem MigrationRun.lawful : format.Lawful := isRecord.lawful (by simp [fields])

end ServerMigration
