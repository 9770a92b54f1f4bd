import ServerMigration.Proofs.Documents.Plans
import ServerMigration.Proofs.Json.Reading

/-!
# Faithful documents

Every document of a migration is read back as what was written, and it is read as the same value
when fields are added that its records do not have, or left out where they have their default.
All that a value has to satisfy for this is that its instants lie within the calendar and that its
dictionaries are in key order.

## Main definitions

* `Format.Faithful` : documents are read back, also in the versions that they may take.
* `Format.Within` : documents nest at most so deeply.

## Main results

* `Format.Lawful.faithful` : what is lawful is faithful.
* `documents_faithful` : all documents of a migration are faithful, and those without devices never
  nest too deeply to be read.
-/

namespace ServerMigration

namespace Format

variable {α : Type}

/-- Documents are read back, also in the versions that they may take. -/
structure Faithful (F : Format α) : Prop where
  /-- A value is read back from its document. -/
  decode_encode : ∀ v, F.Proper v → F.decode (F.encode v) = .ok v
  /-- A value is read back from the text of its document, if that does not nest too deeply. -/
  decode_text : ∀ v, F.Proper v → (F.encode v).depth ≤ Json.Reader.maxDepth →
    ∀ text ∈ [(F.encode v).compact, (F.encode v).indented],
      (Json.parse? text).map F.decode = some (.ok v)
  /-- A document that was amended is read as the same value. -/
  decode_amended : ∀ json json' v, F.Amended json json' → F.decode json = .ok v →
    F.decode json' = .ok v

theorem Lawful.faithful {F : Format α} (lawful : F.Lawful) : F.Faithful where
  decode_encode := lawful.decode_encode
  decode_text v proper h text htext := by
    have hread : Json.parse? text = some (F.encode v) := by
      simp only [List.mem_cons, List.not_mem_nil, or_false] at htext
      rcases htext with rfl | rfl
      · exact Json.parse?_compact (lawful.plain v proper) h
      · exact Json.parse?_indented (lawful.plain v proper) h
    rw [hread, Option.map_some, lawful.decode_encode v proper]
  decode_amended _ _ _ amended := lawful.tolerant amended

/-! ### How deeply documents nest -/

/-- Documents nest at most so deeply. -/
def Within (F : Format α) (depth : Nat) : Prop := ∀ v, (F.encode v).depth ≤ depth

variable {F : Format α} {depth : Nat}

@[simp] theorem within_text : text.Within depth := fun _ => Nat.zero_le _

@[simp] theorem within_uint16 : uint16.Within depth := fun _ => Nat.zero_le _

@[simp] theorem within_uint32 : uint32.Within depth := fun _ => Nat.zero_le _

@[simp] theorem within_uint64 : uint64.Within depth := fun _ => Nat.zero_le _

@[simp] theorem within_uuid : uuid.Within depth := fun _ => Nat.zero_le _

@[simp] theorem within_instant : instant.Within depth := fun _ => Nat.zero_le _

@[simp] theorem within_osFamily : osFamily.Within depth := fun _ => Nat.zero_le _

@[simp] theorem within_hookLocation : hookLocation.Within depth := fun _ => Nat.zero_le _

@[simp] theorem within_option (h : F.Within depth) : F.option.Within depth := by
  rintro (_ | a)
  · exact Nat.zero_le _
  · exact h a

@[simp] theorem within_list (h : F.Within depth) : F.list.Within (depth + 1) := by
  intro items
  refine Nat.succ_le_succ ?_
  exact Json.depthItems_le_iff.mpr (List.forall_mem_map.mpr fun a _ => h a)

@[simp] theorem within_dict (h : F.Within depth) : F.dict.Within (depth + 1) := by
  intro dict
  refine Nat.succ_le_succ ?_
  exact Json.depthFields_le_iff.mpr (List.forall_mem_map.mpr fun entry _ => h entry.2)

@[simp] theorem within_required {ρ : Type} {name : String} {get : ρ → α} :
    (RecordField.required name F get).format.Within depth ↔ F.Within depth :=
  Iff.rfl

@[simp] theorem within_defaulted {ρ : Type} {name : String} {get : ρ → α} {default : α} :
    (RecordField.defaulted name F get default).format.Within depth ↔ F.Within depth :=
  Iff.rfl

theorem IsRecord.within {fields : List (RecordField α)} (isRecord : F.IsRecord fields)
    (h : ∀ f ∈ fields, f.format.Within depth) : F.Within (depth + 1) := by
  intro v
  rw [isRecord.encode_eq]
  exact Nat.succ_le_succ
    (Json.depthFields_le_iff.mpr (List.forall_mem_map.mpr fun f hf => h f hf (f.get v)))

end Format

/-! ### The values that can occur -/

theorem SystemInfo.proper_iff {info : SystemInfo} : format.Proper info
    ↔ (info.blockDevices.Sorted
        ∧ ∀ device ∈ info.blockDevices.values, SortedBelow BlockDevice.children device)
      ∧ info.network.Sorted := by
  simp [fields, NetworkInterface.fields, Hardware.fields]

theorem RemoteHost.proper_iff {host : RemoteHost} :
    format.Proper host ↔ ∀ info ∈ host.systemInfo, SystemInfo.format.Proper info := by
  simp [fields, CloudMetadata.fields, VolumeInfo.fields, NicInfo.fields]

theorem Blueprint.proper_iff {blueprint : Blueprint} :
    format.Proper blueprint ↔ blueprint.commands.mkfs.Sorted := by
  simp [fields, HardwareSpec.fields, SshCredentials.fields, NetworkMapping.fields,
    InterfaceRule.fields, HookSpec.fields, CommandTemplates.fields]

theorem Target.proper_iff {target : Target} : format.Proper target
    ↔ Blueprint.format.Proper target.blueprint
      ∧ (∀ mapping ∈ target.deviceMapping, mapping.Sorted
          ∧ ∀ device ∈ mapping.values, SortedBelow MappedDevice.children device)
      ∧ ∀ host ∈ target.remoteHost, RemoteHost.format.Proper host := by
  simp [fields]

theorem Source.proper_iff {source : Source} : format.Proper source
    ↔ RemoteHost.format.Proper source.remoteHost ∧ Target.format.Proper source.target
      ∧ source.createdAt.Proper ∧ source.updatedAt.Proper := by
  simp [fields]

theorem MigrationPlan.proper_iff {plan : MigrationPlan} : format.Proper plan
    ↔ (∀ t ∈ plan.policy.goLiveAt, t.Proper)
      ∧ ∀ entry ∈ plan.sources, entry.blueprint.commands.mkfs.Sorted := by
  simp only [← Blueprint.proper_iff]
  simp [fields, RunPolicy.fields, SourcePlan.fields]

theorem MigrationRun.proper_iff {run : MigrationRun} : format.Proper run
    ↔ (∀ t ∈ run.policy.goLiveAt, t.Proper) ∧ run.createdAt.Proper := by
  simp [fields, RunPolicy.fields]

/-! ### Documents without devices -/

variable {depth : Nat}

@[simp] theorem VolumeInfo.within : format.Within (depth + 1) :=
  isRecord.within (by simp [fields])

@[simp] theorem NicInfo.within : format.Within (depth + 2) :=
  isRecord.within (by simp [fields])

@[simp] theorem CloudMetadata.within : format.Within (depth + 4) :=
  isRecord.within (by simp [fields])

@[simp] theorem HardwareSpec.within : format.Within (depth + 1) :=
  isRecord.within (by simp [fields])

@[simp] theorem SshCredentials.within : format.Within (depth + 2) :=
  isRecord.within (by simp [fields])

@[simp] theorem InterfaceRule.within : format.Within (depth + 2) :=
  isRecord.within (by simp [fields])

@[simp] theorem NetworkMapping.within : format.Within (depth + 4) :=
  isRecord.within (by simp [fields])

@[simp] theorem HookSpec.within : format.Within (depth + 1) :=
  isRecord.within (by simp [fields])

@[simp] theorem CommandTemplates.within : format.Within (depth + 2) :=
  isRecord.within (by simp [fields])

@[simp] theorem Blueprint.within : format.Within (depth + 5) :=
  isRecord.within (by simp [fields])

@[simp] theorem RunPolicy.within : format.Within (depth + 1) :=
  isRecord.within (by simp [fields])

@[simp] theorem SourcePlan.within : format.Within (depth + 6) :=
  isRecord.within (by simp [fields])

@[simp] theorem MigrationPlan.within : format.Within (depth + 8) :=
  isRecord.within (by simp [fields])

@[simp] theorem MigrationRun.within : format.Within (depth + 2) :=
  isRecord.within (by simp [fields])

/-! ### All documents -/

/-- **Every document of a migration is faithful.**  Only documents with devices can nest too deeply
to be read. -/
theorem documents_faithful :
    (Source.format.Faithful ∧ RemoteHost.format.Faithful ∧ SystemInfo.format.Faithful
      ∧ BlockDevice.format.Faithful ∧ CloudMetadata.format.Faithful ∧ Target.format.Faithful
      ∧ Blueprint.format.Faithful ∧ MappedDevice.format.dict.Faithful
      ∧ MigrationPlan.format.Faithful ∧ MigrationRun.format.Faithful)
    ∧ CloudMetadata.format.Within Json.Reader.maxDepth
    ∧ Blueprint.format.Within Json.Reader.maxDepth
    ∧ MigrationPlan.format.Within Json.Reader.maxDepth
    ∧ MigrationRun.format.Within Json.Reader.maxDepth := by
  refine ⟨⟨?_, ?_, ?_, ?_, ?_, ?_, ?_, ?_, ?_, ?_⟩, ?_, ?_, ?_, ?_⟩
  · exact Source.lawful.faithful
  · exact RemoteHost.lawful.faithful
  · exact SystemInfo.lawful.faithful
  · exact BlockDevice.lawful.faithful
  · exact CloudMetadata.lawful.faithful
  · exact Target.lawful.faithful
  · exact Blueprint.lawful.faithful
  · exact (Format.lawful_dict MappedDevice.lawful).faithful
  · exact MigrationPlan.lawful.faithful
  · exact MigrationRun.lawful.faithful
  · exact CloudMetadata.within
  · exact Blueprint.within
  · exact MigrationPlan.within
  · exact MigrationRun.within

end ServerMigration
