import ServerMigration.Proofs.Migration.Formatting
import ServerMigration.Proofs.Migration.NamedDevices
import ServerMigration.Proofs.Text.Blanks

/-!
# The filesystems that the migrated table names

The table of filesystems names a device of the source by its filesystem identifier, if it has one,
wherever the device stands in the forest.  Filesystems are created for disks and partitions only.
So the table for the target names filesystems that are created there as long as it names disks and
partitions, and it can name a filesystem on a device below a partition that nobody creates.

## Main definitions

* `PutsIdentifier` : the table names a device by a filesystem identifier.
* `Restores` : a filesystem is created on the counterpart of its device.

## Main results

* `putsIdentifier_iff` : when the table names a device by an identifier.
* `Source.Identified.fstab_identifier_created_iff` : an identifier in the table is that of a
  filesystem which is created exactly if it is that of a disk or a partition with a filesystem.
-/

namespace ServerMigration

open Program DeviceMapping

/-! ### Identifiers in the table -/

section

variable {devices : Devices} {mapping : DeviceMapping} {fstab name uuid : String}

/-- The first field of the line names the device; `rest` is what follows it. -/
structure NamesDevice (line : List Char) (name : String) (rest : List Char) : Prop where
  starts : Text.trimStart line = ("/dev/" ++ name).toList ++ rest
  unbroken : ("/dev/" ++ name).toList.all (!Text.isBlank ·)
  ended : rest.head?.all Text.isBlank

/-- In the table for the target a line names a filesystem by this identifier where the line of the
source names the device. -/
def PutsIdentifier (devices : Devices) (mapping : DeviceMapping) (fstab name uuid : String) :
    Prop :=
  ∃ line ∈ Text.lines fstab.toList, ∃ rest, NamesDevice line name rest
    ∧ rewriteFstabLine devices mapping line = ("UUID=" ++ uuid).toList ++ rest

/-- A line that names a device is rewritten as the device is. -/
theorem NamesDevice.rewriteFstabLine_eq {line rest : List Char}
    (names : NamesDevice line name rest) :
    rewriteFstabLine devices mapping line
      = (fstabSpec devices mapping name).elim line fun spec => spec.toList ++ rest := by
  have hfield := Text.takeWhile_append_rest names.unbroken names.ended
  have hname : Text.afterPrefix "/dev/".toList ("/dev/" ++ name).toList = some name.toList := by
    rw [String.toList_append, Text.afterPrefix_append]
  unfold rewriteFstabLine
  dsimp only
  rw [names.starts, hfield, hname]
  dsimp only
  rw [String.ofList_toList, List.drop_left]
  cases fstabSpec devices mapping name <;> rfl

/-- A device is named by an identifier exactly if it is found under its name and has that one. -/
theorem fstabSpec_eq_identifier_iff :
    fstabSpec devices mapping name = some ("UUID=" ++ uuid) ↔
      ∃ device, deviceNamed? devices name = some device ∧ device.uuid = some uuid := by
  rw [← Option.bind_eq_some_iff, fstabSpec]
  split
  · next found hfound =>
    have hspec : s!"UUID={found}" = "UUID=" ++ uuid ↔ found = uuid := String.append_right_inj _
    rw [hfound, Option.some.injEq, Option.some.injEq]
    exact hspec
  · next hnone =>
    rw [hnone]
    refine ⟨fun h => ?_, fun h => by cases h⟩
    -- The name of a counterpart begins with a slash.
    obtain ⟨mapped, -, hsame⟩ := Option.map_eq_some_iff.mp h
    have hsame : "/dev/" ++ mapped.id = "UUID=" ++ uuid := hsame
    have hfirst : some '/' = some 'U' := by simpa using congrArg (·.toList.head?) hsame
    cases hfirst

/-- **The table puts an identifier in the place of a device exactly if it names the device and the
device is found and has that identifier.** -/
theorem putsIdentifier_iff :
    PutsIdentifier devices mapping fstab name uuid ↔
      (∃ line ∈ Text.lines fstab.toList, ∃ rest, NamesDevice line name rest)
        ∧ ∃ device, deviceNamed? devices name = some device ∧ device.uuid = some uuid := by
  have hspec : fstabSpec devices mapping name = some ("UUID=" ++ uuid) ↔ _ :=
    fstabSpec_eq_identifier_iff
  rw [← hspec]
  clear hspec
  constructor
  · rintro ⟨line, hline, rest, names, hrewritten⟩
    refine ⟨⟨line, hline, rest, names⟩, ?_⟩
    rw [names.rewriteFstabLine_eq] at hrewritten
    cases hspec : fstabSpec devices mapping name with
    | some spec =>
      rw [hspec, Option.elim_some] at hrewritten
      rw [String.toList_inj.mp (List.append_cancel_right hrewritten)]
    | none =>
      -- The line is kept, and it names a device.
      rw [hspec, Option.elim_none] at hrewritten
      have hkept : Text.trimStart line = ("UUID=" ++ uuid).toList ++ rest := by
        rw [hrewritten, String.toList_append]
        rfl
      have hfirst : some '/' = some 'U' := by
        simpa using congrArg List.head? (names.starts.symm.trans hkept)
      cases hfirst
  · rintro ⟨⟨line, hline, rest, names⟩, hspec⟩
    refine ⟨line, hline, rest, names, ?_⟩
    rw [names.rewriteFstabLine_eq, hspec, Option.elim_some]

end

/-! ### Filesystems that are created -/

/-- A run creates the filesystem of a device under an identifier on the counterpart of the device,
or it complains that no filesystem of that type can be created. -/
def Restores (templates : CommandTemplates) (host : RemoteHost) (mapping : DeviceMapping)
    (device : BlockDevice) (uuid : String) (trace : SiteTrace) (errors : StepErrors) : Prop :=
  ∃ mapped, mapping.counterpart? device.name = some mapped
    ∧ ((∃ template, device.fs.bind templates.mkfsOf = some template
          ∧ (host, mkfsCommand template uuid (device.label.getD "") mapped.id)
            ∈ commandsRun trace)
      ∨ device.fs.bind templates.mkfsOf = none ∧ unsupportedOn mapped.id device ∈ errors)

section

variable {s : Source} {host : RemoteHost} {info : SystemInfo} {target : Devices}
  {mapping : DeviceMapping} {device : BlockDevice} {uuid : String}

theorem restores_of_mem_formattings {id : String} {trace : SiteTrace} {errors : StepErrors}
    (orderly : info.blockDevices.Orderly) (identified : s.Identified info target mapping)
    (inTurn : InTurn (FilesystemMade s host) (formattings info.blockDevices mapping) trace errors)
    (hmem : (device, id) ∈ formattings info.blockDevices mapping) (hfs : device.fs.isSome)
    (huuid : device.uuid = some uuid) :
    Restores s.target.blueprint.commands host mapping device uuid trace errors := by
  obtain ⟨mapped, hmapped, hid⟩ :=
    exists_counterpart?_of_mem_formattings orderly identified.paired hmem
  have hid : id = mapped.id := hid
  subst hid
  obtain ⟨fs, hfs⟩ := Option.isSome_iff_exists.mp hfs
  obtain ⟨first, told, part, hcommands, htold⟩ := inTurn.exists_of_mem hmem
  refine ⟨mapped, hmapped, ?_⟩
  rw [hfs, Option.bind_some]
  cases part with
  | unsupported unsupported =>
    rw [hfs, Option.getD_some] at unsupported
    exact .inr ⟨unsupported, htold List.mem_cons_self⟩
  | known found identified =>
    rw [hfs, Option.getD_some] at found
    cases identified.symm.trans huuid
    exact .inl ⟨_, found, hcommands List.mem_cons_self⟩
  | fresh found unidentified =>
    cases unidentified.symm.trans huuid

/-- **Every identifier that the table for the target puts in the place of a device of a reported
source is that of a device with that name.  Its filesystem is created exactly if the device is a
disk or a partition with a filesystem.**  In particular a filesystem on a device below a partition
is named although nobody creates it. -/
theorem Source.Identified.fstab_identifier_created_iff (provider : Provider)
    (identified : s.Identified info target mapping) (reported : info.Reported)
    (hhost : s.target.remoteHost = some host) {fstab name : String}
    (puts : PutsIdentifier info.blockDevices mapping fstab name uuid) :
    ∃ device ∈ info.blockDevices.tree, device.name = name ∧ device.uuid = some uuid
      ∧ ((∃ id, (device, id) ∈ formattings info.blockDevices mapping) ↔
        device ∈ info.blockDevices.surface ∧ device.fs.isSome)
      ∧ ∀ trace run, (MigrationStep.createFilesystems.perform provider s).Yields trace run →
        InTurn (FilesystemMade s host) (formattings info.blockDevices mapping) trace run.errors
          ∧ (device ∈ info.blockDevices.surface → device.fs.isSome →
            Restores s.target.blueprint.commands host mapping device uuid trace run.errors) := by
  obtain ⟨text, htext⟩ := reported
  have orderly := Devices.orderly_of_ofLsblk htext
  obtain ⟨device, hdevice, huuid⟩ := (putsIdentifier_iff.mp puts).2
  obtain ⟨htree, hname⟩ := mem_tree_of_deviceNamed? orderly hdevice
  have hcreated : (∃ id, (device, id) ∈ formattings info.blockDevices mapping) ↔
      device ∈ info.blockDevices.surface ∧ device.fs.isSome :=
    exists_mem_formattings_iff orderly identified.paired
  refine ⟨device, htree, hname, huuid, hcreated, fun trace run h => ?_⟩
  have inTurn := MigrationStep.inTurn_formattings identified orderly hhost h
  refine ⟨inTurn, fun hsurface hfs => ?_⟩
  obtain ⟨id, hmem⟩ := hcreated.mpr ⟨hsurface, hfs⟩
  exact restores_of_mem_formattings orderly identified inTurn hmem hfs huuid

end

/-- A report of a disk with a root filesystem and with an array on its other partition. -/
def arrayReport : String :=
  "\x7b\"blockdevices\":[\x7b\"name\":\"sda\",\"size\":32212254720,\"children\":["
    ++ "\x7b\"name\":\"sda1\",\"size\":10737418240,\"fstype\":\"ext4\",\"uuid\":\"0f3a\","
    ++ "\"mountpoint\":\"/\"\x7d,\x7b\"name\":\"sda2\",\"size\":21474836480,\"children\":["
    ++ "\x7b\"name\":\"md0\",\"size\":21474836480,\"fstype\":\"ext4\",\"uuid\":\"77aa\","
    ++ "\"mountpoint\":\"/srv\"\x7d]\x7d]\x7d]\x7d"

/-- The devices of the report. -/
def arrayDevices : Devices :=
  [("sda", { blank "sda" 30 with children :=
    [("sda1", { blank "sda1" 10 with fs := "ext4", uuid := "0f3a", mountpoint := "/" }),
      ("sda2", { blank "sda2" 20 with children := [("md0", { blank "md0" 20 with
        fs := "ext4", uuid := "77aa", mountpoint := "/srv" })] })] })]

open Json.Token in
/-- The tokens of the report. -/
def arrayTokens : List Json.Token :=
  [openObject, string "blockdevices", colon, openArray,
    openObject, string "name", colon, string "sda", comma, string "size", colon,
    number (.whole 32212254720), comma, string "children", colon, openArray,
    openObject, string "name", colon, string "sda1", comma, string "size", colon,
    number (.whole 10737418240), comma, string "fstype", colon, string "ext4", comma,
    string "uuid", colon, string "0f3a", comma, string "mountpoint", colon, string "/",
    closeObject, comma,
    openObject, string "name", colon, string "sda2", comma, string "size", colon,
    number (.whole 21474836480), comma, string "children", colon, openArray,
    openObject, string "name", colon, string "md0", comma, string "size", colon,
    number (.whole 21474836480), comma, string "fstype", colon, string "ext4", comma,
    string "uuid", colon, string "77aa", comma, string "mountpoint", colon, string "/srv",
    closeObject, closeArray, closeObject, closeArray, closeObject, closeArray, closeObject]

theorem tokens_arrayReport : Json.tokens arrayReport = arrayTokens := by
  unfold Json.tokens arrayReport
  simp only [String.toList_append, String.reduceToList]
  decide +kernel

set_option maxRecDepth 10000 in
theorem ofLsblk_arrayReport : Devices.ofLsblk arrayReport = .ok arrayDevices := by
  rw [Devices.ofLsblk, Json.parse?, tokens_arrayReport]
  cbv

/-- An empty disk for `arrayDevices`. -/
def arrayTarget : Devices := [("vdb", blank "vdb" 30)]

/-- The counterparts of `arrayDevices`. -/
def arrayMapping : DeviceMapping :=
  [("sda", ⟨"vdb", "", [("sda1", ⟨"vdb1", mountDirectory (some "/") false, []⟩),
    ("sda2", ⟨"vdb2", "", []⟩)]⟩)]

theorem ofDevices_arrayDevices : ofDevices arrayDevices arrayTarget = .ok arrayMapping := by
  with_unfolding_all rfl

/-- A table that names the root filesystem and the array by their devices. -/
def arrayFstab : String := "/dev/sda1 / ext4 defaults 0 1\n/dev/md0 /srv ext4 defaults 0 2\n"

theorem putsIdentifier_sda1 :
    PutsIdentifier arrayDevices arrayMapping arrayFstab "sda1" "0f3a" := by
  refine putsIdentifier_iff.mpr ⟨⟨"/dev/sda1 / ext4 defaults 0 1".toList, by decide +kernel,
    " / ext4 defaults 0 1".toList, by decide +kernel, by decide +kernel, by decide +kernel⟩, ?_⟩
  exact ⟨_, by cbv, rfl⟩

theorem putsIdentifier_md0 : PutsIdentifier arrayDevices arrayMapping arrayFstab "md0" "77aa" := by
  refine putsIdentifier_iff.mpr ⟨⟨"/dev/md0 /srv ext4 defaults 0 2".toList, by decide +kernel,
    " /srv ext4 defaults 0 2".toList, by decide +kernel, by decide +kernel, by decide +kernel⟩, ?_⟩
  exact ⟨_, by cbv, rfl⟩

/-- The identifier of the root filesystem of the report is that of a filesystem which is created. -/
theorem arrayReport_root_created :
    (identifiedSource arrayDevices arrayMapping).Identified { blockDevices := arrayDevices }
        arrayTarget arrayMapping
      ∧ SystemInfo.Reported { blockDevices := arrayDevices }
      ∧ (identifiedSource arrayDevices arrayMapping).target.remoteHost = some default
      ∧ PutsIdentifier arrayDevices arrayMapping arrayFstab "sda1" "0f3a"
      ∧ ∃ device ∈ arrayDevices.tree, device.name = "sda1" ∧ device.uuid = some "0f3a"
        ∧ ((∃ id, (device, id) ∈ formattings arrayDevices arrayMapping) ↔
          device ∈ arrayDevices.surface ∧ device.fs.isSome)
        ∧ ∀ trace run, (MigrationStep.createFilesystems.perform {}
            (identifiedSource arrayDevices arrayMapping)).Yields trace run →
          InTurn (FilesystemMade (identifiedSource arrayDevices arrayMapping) default)
              (formattings arrayDevices arrayMapping) trace run.errors
            ∧ (device ∈ arrayDevices.surface → device.fs.isSome →
              Restores {} default arrayMapping device "0f3a" trace run.errors) := by
  have identified := identified_identifiedSource ofDevices_arrayDevices
  have reported : SystemInfo.Reported { blockDevices := arrayDevices } := ⟨_, ofLsblk_arrayReport⟩
  exact ⟨identified, reported, rfl, putsIdentifier_sda1,
    identified.fstab_identifier_created_iff {} reported rfl putsIdentifier_sda1⟩

/-- The filesystem of the array is named in the table for the target, and no run creates it. -/
theorem array_named_but_not_created :
    ¬ ∀ (s : Source) (host : RemoteHost) (info : SystemInfo) (target : Devices)
      (mapping : DeviceMapping), s.Identified info target mapping → info.Reported →
      s.target.remoteHost = some host →
      ∀ fstab name uuid, PutsIdentifier info.blockDevices mapping fstab name uuid →
        ∀ trace run, (MigrationStep.createFilesystems.perform {} s).Yields trace run →
          ∃ device ∈ info.blockDevices.tree, device.uuid = some uuid
            ∧ Restores s.target.blueprint.commands host mapping device uuid trace run.errors := by
  intro h
  obtain ⟨trace, run, hruns⟩ := exists_yields Site.nonempty_answer
    (MigrationStep.createFilesystems.perform {} (identifiedSource arrayDevices arrayMapping))
  obtain ⟨device, hdevice, huuid, mapped, hmapped, -⟩ := h _ _ _ _ _
    (identified_identifiedSource ofDevices_arrayDevices) ⟨_, ofLsblk_arrayReport⟩ rfl _ _ _
    putsIdentifier_md0 _ _ hruns
  -- The only device with that identifier has no counterpart.
  have hnowhere : ∀ device ∈ arrayDevices.tree, device.uuid = some "77aa" →
      (arrayMapping.counterpart? device.name).isNone := by decide +kernel
  have hnone := hnowhere device hdevice huuid
  rw [hmapped] at hnone
  cases hnone

end ServerMigration
