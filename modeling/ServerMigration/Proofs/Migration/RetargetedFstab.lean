import ServerMigration.Proofs.Migration.SettledFstab

/-!
# The table of filesystems line by line

The table for the target has the lines of the table of the source in their order.  A line changes
in its first field only, and only if that field names a device by its path.  A device that has a
filesystem identifier, wherever it stands in the forest, is named by that, and any other device
that has a counterpart by its counterpart.

## Main definitions

* `Retargeted` : what becomes of a line.

## Main results

* `retargetFstab_by_line` : the table for the target, line by line.
-/

namespace ServerMigration

open DeviceMapping

variable {devices : Devices} {mapping : DeviceMapping} {device : BlockDevice}
  {name : String} {line : List Char}

/-! ### One line -/

/-- A line names one device. -/
theorem NamesDevice.unique {name' : String} {rest rest' : List Char}
    (names : NamesDevice line name rest) (names' : NamesDevice line name' rest') :
    name = name' := by
  have hfield := Text.takeWhile_append_rest names.unbroken names.ended
  have hfield' := Text.takeWhile_append_rest names'.unbroken names'.ended
  rw [← names.starts, names'.starts, hfield'] at hfield
  exact (String.append_right_inj _).mp (String.toList_inj.mp hfield.symm)

/-- The names that have no counterpart are those that the mapping does not rename. -/
theorem counterpart?_eq_none_iff :
    mapping.counterpart? name = none ↔ name ∉ mapping.namePairs.map (·.1) := by
  constructor
  · intro h hmem
    obtain ⟨pair, hpair, rfl⟩ := List.mem_map.mp hmem
    obtain ⟨entry, hentry, hpair⟩ := List.mem_flatMap.mp hpair
    unfold counterpart? at h
    split at h
    · cases h
    · next hdisk =>
      rcases List.mem_cons.mp hpair with rfl | hpair
      · exact Dict.ne_of_get?_eq_none hdisk hentry rfl
      · obtain ⟨child, hchild, rfl⟩ := List.mem_map.mp hpair
        have hnone := List.findSome?_eq_none_iff.mp h entry.2 (List.mem_map_of_mem hentry)
        exact Dict.ne_of_get?_eq_none hnone hchild rfl
  · intro h
    refine Option.eq_none_iff_forall_ne_some.mpr fun mapped hmapped => h ?_
    exact List.mem_map_of_mem (f := (·.1)) (mem_namePairs_of_counterpart? hmapped)

/-- What becomes of a line of the table.  A line whose first field names a device by its path loses
its leading blanks and gets another first field if the device has a filesystem identifier or else a
counterpart.  Any other line is kept. -/
inductive Retargeted (devices : Devices) (mapping : DeviceMapping) (line : List Char) :
    List Char → Prop
  /-- The device has a filesystem identifier. -/
  | identified {name rest device uuid} (names : NamesDevice line name rest)
      (stands : (name, device) ∈ devices.entries) (has : device.uuid = some uuid) :
      Retargeted devices mapping line (("UUID=" ++ uuid).toList ++ rest)
  /-- No device of that name has a filesystem identifier, and there is a counterpart. -/
  | renamed {name rest mapped} (names : NamesDevice line name rest)
      (unidentified : ∀ device, (name, device) ∈ devices.entries → device.uuid = none)
      (paired : mapping.counterpart? name = some mapped) :
      Retargeted devices mapping line (("/dev/" ++ mapped.id).toList ++ rest)
  /-- The line names nothing for which the target has another name. -/
  | kept (unnamed : ∀ name rest, NamesDevice line name rest →
      (∀ device, (name, device) ∈ devices.entries → device.uuid = none)
        ∧ name ∉ mapping.namePairs.map (·.1)) :
      Retargeted devices mapping line line

theorem fstabSpec_of_uuid {uuid : String} (unique : (devices.entries.map (·.1)).Nodup)
    (h : (name, device) ∈ devices.entries) (huuid : device.uuid = some uuid) :
    fstabSpec devices mapping name = some ("UUID=" ++ uuid) :=
  fstabSpec_eq_identifier_iff.mpr ⟨device, (deviceNamed?_eq_some_iff unique).mpr h, huuid⟩

theorem fstabSpec_of_unidentified
    (h : ∀ device, (name, device) ∈ devices.entries → device.uuid = none) :
    fstabSpec devices mapping name
      = (mapping.counterpart? name).map fun mapped => "/dev/" ++ mapped.id := by
  have hnone : (deviceNamed? devices name).bind (·.uuid) = none := by
    cases hfound : deviceNamed? devices name with
    | none => rfl
    | some device => exact h device (mem_entries_of_deviceNamed? hfound)
  rw [fstabSpec, hnone]
  rfl

/-- Every line is rewritten like that. -/
theorem retargeted_rewriteFstabLine (unique : (devices.entries.map (·.1)).Nodup)
    (mapping : DeviceMapping) (line : List Char) :
    Retargeted devices mapping line (rewriteFstabLine devices mapping line) := by
  by_cases hnames : ∃ name rest, NamesDevice line name rest
  · obtain ⟨name, rest, names⟩ := hnames
    rw [names.rewriteFstabLine_eq]
    -- An identifier goes before a counterpart.
    by_cases hidentified : ∃ device, (name, device) ∈ devices.entries ∧ device.uuid ≠ none
    · obtain ⟨device, hentry, huuid⟩ := hidentified
      obtain ⟨uuid, huuid⟩ := Option.ne_none_iff_exists'.mp huuid
      rw [fstabSpec_of_uuid unique hentry huuid]
      exact .identified names hentry huuid
    · have hnone : ∀ device, (name, device) ∈ devices.entries → device.uuid = none := by
        simpa using hidentified
      rw [fstabSpec_of_unidentified hnone]
      cases hmapped : mapping.counterpart? name with
      | some mapped => exact .renamed names hnone hmapped
      | none =>
        refine .kept fun other rest' names' => ?_
        obtain rfl := names.unique names'
        exact ⟨hnone, counterpart?_eq_none_iff.mp hmapped⟩
  · have hsame : rewriteFstabLine devices mapping line = line := by
      by_contra hne
      exact hnames (exists_namesDevice_of_ne hne)
    rw [hsame]
    exact .kept fun name rest names => absurd ⟨name, rest, names⟩ hnames

/-! ### The table -/

/-- What the table puts in the place of a device does not break a line if no identifier and no name
of a counterpart has a newline. -/
theorem putsLines_of_notMem
    (identifiers : ∀ entry ∈ devices.entries, ∀ uuid, entry.2.uuid = some uuid →
      '\n' ∉ uuid.toList)
    (counterparts : ∀ pair ∈ mapping.namePairs, '\n' ∉ pair.2.toList) :
    PutsLines devices mapping := by
  have happend : ∀ start word : String, '\n' ∉ start.toList → '\n' ∉ word.toList →
      '\n' ∉ (start ++ word).toList := fun start word hstart hword => by
    rw [String.toList_append]
    exact List.not_mem_append hstart hword
  intro name spec hspec
  rcases exists_of_fstabSpec hspec with ⟨device, uuid, hdevice, huuid, rfl⟩ | ⟨mapped, hmapped, rfl⟩
  · exact happend "UUID=" uuid (by decide)
      (identifiers _ (mem_entries_of_deviceNamed? hdevice) uuid huuid)
  · exact happend "/dev/" mapped.id (by decide)
      (counterparts _ (mem_namePairs_of_counterpart? hmapped))

/-- A line does not become empty. -/
theorem rewriteFstabLine_eq_nil_iff : rewriteFstabLine devices mapping line = [] ↔ line = [] := by
  refine ⟨fun h => ?_, fun h => by rw [h, rewriteFstabLine_nil]⟩
  by_contra hne
  have hchanged : rewriteFstabLine devices mapping line ≠ line := by
    rw [h]
    exact Ne.symm hne
  obtain ⟨name, rest, names⟩ := exists_namesDevice_of_ne hchanged
  rw [names.rewriteFstabLine_eq] at h
  cases hspec : fstabSpec devices mapping name with
  | none =>
    rw [hspec] at h
    exact hne h
  | some spec =>
    rw [hspec, Option.elim_some] at h
    rcases exists_id_of_fstabSpec hspec with ⟨uuid, rfl⟩ | ⟨id, rfl⟩
    all_goals simp at h

/-- **The table for the target has the lines of the table of the source in their order, and every
line is named by identifier, renamed or kept.**  If no identifier and no name of a counterpart has a
newline, these are the lines of the new text, which ends with a newline if the old one does. -/
theorem retargetFstab_by_line {fstab : String} (unreturned : '\r' ∉ fstab.toList)
    (unique : (devices.entries.map (·.1)).Nodup) (mapping : DeviceMapping) :
    ∃ written,
      (retargetFstab fstab devices mapping).toList = Text.joinWith ['\n'] written
      ∧ List.Forall₂ (Retargeted devices mapping) (Text.splitOn '\n' fstab.toList) written
      ∧ ((∀ entry ∈ devices.entries, ∀ uuid, entry.2.uuid = some uuid → '\n' ∉ uuid.toList) →
        (∀ pair ∈ mapping.namePairs, '\n' ∉ pair.2.toList) →
        Text.splitOn '\n' (retargetFstab fstab devices mapping).toList = written
          ∧ (Text.lines (retargetFstab fstab devices mapping).toList).length
            = (Text.lines fstab.toList).length
          ∧ ((retargetFstab fstab devices mapping).toList.getLast? = some '\n' ↔
            fstab.toList.getLast? = some '\n')) := by
  obtain ⟨ended, last, h⟩ := Text.exists_splitOn_eq_concat '\n' fstab.toList
  have hkept : ∀ piece ∈ ended, Text.withoutReturn piece = piece := by
    intro piece hpiece
    refine Text.withoutReturn_of_getLast?_ne fun hlast => unreturned ?_
    exact Text.mem_of_mem_splitOn (h ▸ List.mem_append_left _ hpiece) (List.mem_of_getLast? hlast)
  have hmap : ended.map (fun piece => rewriteFstabLine devices mapping (Text.withoutReturn piece))
      = ended.map (rewriteFstabLine devices mapping) :=
    List.map_congr_left fun piece hpiece => by rw [hkept piece hpiece]
  refine ⟨_, retargetFstab_toList h, ?_, fun identifiers counterparts => ?_⟩
  · rw [h, hmap, ← List.map_singleton, ← List.map_append]
    exact List.forall₂_map_right_iff.mpr (List.forall₂_same.mpr fun line _ =>
      retargeted_rewriteFstabLine unique mapping line)
  · have hpieces := (putsLines_of_notMem identifiers counterparts).splitOn_eq h
    refine ⟨hpieces, ?_, ?_⟩
    · rw [Text.lines_eq hpieces, Text.lines_eq h]
      simp [rewriteFstabLine_eq_nil_iff, apply_ite List.length]
    · rw [Text.getLast?_eq_newline_iff hpieces, Text.getLast?_eq_newline_iff h]
      simp [rewriteFstabLine_eq_nil_iff]

/-- A table with a comment, an empty line, a line that is indented, swap space and no newline at its
end. -/
def mixedFstab : String :=
  "# disks\n\n  /dev/vda1 / ext4 defaults 0 1\n/dev/vda2 none swap sw 0 0\nproc /proc proc ro 0 0"

/-- The table of the shifted disks is rewritten line by line. -/
theorem mixedFstab_by_line :
    '\r' ∉ mixedFstab.toList ∧ (shiftedDevices.entries.map (·.1)).Nodup
      ∧ ∃ written,
        (retargetFstab mixedFstab shiftedDevices shiftedMapping).toList
          = Text.joinWith ['\n'] written
        ∧ List.Forall₂ (Retargeted shiftedDevices shiftedMapping)
          (Text.splitOn '\n' mixedFstab.toList) written
        ∧ Text.splitOn '\n' (retargetFstab mixedFstab shiftedDevices shiftedMapping).toList
          = written
        ∧ (Text.lines (retargetFstab mixedFstab shiftedDevices shiftedMapping).toList).length
          = (Text.lines mixedFstab.toList).length := by
  have unreturned : '\r' ∉ mixedFstab.toList := by decide +kernel
  have unique : (shiftedDevices.entries.map (·.1)).Nodup :=
    orderly_shiftedDevices.nodup_entries (by decide +kernel)
  have identifiers : ∀ entry ∈ shiftedDevices.entries, ∀ uuid, entry.2.uuid = some uuid →
      '\n' ∉ uuid.toList := by
    have hall : ∀ entry ∈ shiftedDevices.entries,
        entry.2.uuid.all fun uuid => decide ('\n' ∉ uuid.toList) := by decide +kernel
    intro entry hentry uuid huuid
    have huuid' := hall entry hentry
    rw [huuid, Option.all_some] at huuid'
    exact of_decide_eq_true huuid'
  have counterparts : ∀ pair ∈ shiftedMapping.namePairs, '\n' ∉ pair.2.toList := by
    decide +kernel
  obtain ⟨written, htext, hlines, hall⟩ := retargetFstab_by_line unreturned unique shiftedMapping
  obtain ⟨hpieces, hlength, -⟩ := hall identifiers counterparts
  exact ⟨unreturned, unique, written, htext, hlines, hpieces, hlength⟩

/-- The table of filesystems of a machine with one disk. -/
def oneDiskFstab : String := "/dev/sda / ext4\n"

/-- A disk that stands under this key and has this identifier. -/
def oneDisk (name uuid : String) : Devices :=
  [("sda", { blank name 10 with fs := "ext4", uuid })]

theorem retarget_oneDiskFstab (name : String) :
    retargetFstab oneDiskFstab (oneDisk name "0f3a") [] = "UUID=0f3a / ext4\n"
      ∧ retargetFstab oneDiskFstab (oneDisk name "0f3a\n77aa") [] = "UUID=0f3a\n77aa / ext4\n" :=
  ⟨by cbv, by cbv⟩

theorem eq_of_namedIn_oneDiskFstab {name : String} (h : NamedIn oneDiskFstab name) :
    name = "sda" := by
  obtain ⟨line, hline, rest, names⟩ := h
  have hlines : Text.lines oneDiskFstab.toList = ["/dev/sda / ext4".toList] := by decide +kernel
  rw [hlines, List.mem_singleton] at hline
  subst hline
  have disk : NamesDevice "/dev/sda / ext4".toList "sda" " / ext4".toList :=
    ⟨by decide +kernel, by decide +kernel, by decide +kernel⟩
  exact names.unique disk

/-- An identifier with a newline breaks a line, and a device that stands under another name than its
own is found under that name. -/
theorem oneDisk_misread :
    (¬ ∀ (fstab : String) (devices : Devices) (mapping : DeviceMapping), '\r' ∉ fstab.toList →
      (devices.tree.map (·.name)).Nodup → (devices.entries.map (·.1)).Nodup →
      (Text.lines (retargetFstab fstab devices mapping).toList).length
        = (Text.lines fstab.toList).length)
    ∧ ¬ ∀ (fstab : String) (devices : Devices) (mapping : DeviceMapping), '\r' ∉ fstab.toList →
      (devices.tree.map (·.name)).Nodup → retargetFstab fstab devices mapping ≠ fstab →
      ∃ name, NamedIn fstab name
        ∧ ((∃ device ∈ devices.tree, device.name = name ∧ device.uuid.isSome)
          ∨ name ∈ mapping.namePairs.map (·.1)) := by
  have unreturned : '\r' ∉ oneDiskFstab.toList := by decide +kernel
  constructor
  · intro h
    have hlength := h oneDiskFstab (oneDisk "sda" "0f3a\n77aa") [] unreturned
      (by decide +kernel) (by decide +kernel)
    rw [(retarget_oneDiskFstab "sda").2] at hlength
    exact absurd hlength (by decide +kernel)
  · intro h
    obtain ⟨name, hnamed, ⟨device, hdevice, hname, -⟩ | hmapped⟩ :=
      h oneDiskFstab (oneDisk "sdb" "0f3a") [] unreturned (by decide +kernel)
        (by rw [(retarget_oneDiskFstab "sdb").1]; decide)
    · rw [eq_of_namedIn_oneDiskFstab hnamed] at hname
      revert device
      decide +kernel
    · exact List.not_mem_nil hmapped

end ServerMigration
