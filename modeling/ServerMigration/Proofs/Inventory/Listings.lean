import ServerMigration.Proofs.Inventory.Reports
import ServerMigration.Proofs.Json.Reading

/-!
# Every inventory has reports

An orderly inventory is shown by a report that lists every device under the one it belongs to.
With each level of devices this report opens two more containers, an object and the list it stands
in, so that it can be read as long as the inventory has no more levels than a text may nest.

## Main definitions

* `Devices.report` : a report of an inventory.
* `Devices.height` : the number of levels of an inventory.

## Main results

* `Lsblk.reports_report` : an orderly inventory is shown by its report.
* `Lsblk.report_fits` : how deeply this report nests.
* `Devices.Orderly.read_back` : an inventory is read back from each of its reports.
-/

namespace ServerMigration

/-! ### A report of every inventory -/

/-- The fields of a device of some type, apart from the one for what is below it. -/
def BlockDevice.listedFields (kind : String) (device : BlockDevice) : List (String × Json) :=
  [("name", encode device.name), ("size", encode device.size), ("type", encode kind),
    ("fstype", encode device.fs), ("uuid", encode device.uuid), ("label", encode device.label),
    ("mountpoint", encode device.mountpoint),
    ("partflags", encode (if device.bootable then some "0x80" else none))]

mutual

/-- A device of some type in a report.  What is below it are partitions. -/
def BlockDevice.listing (kind : String) : BlockDevice → Json
  | ⟨name, size, fs, uuid, label, mountpoint, bootable, children⟩ =>
    .object (BlockDevice.listedFields kind
        ⟨name, size, fs, uuid, label, mountpoint, bootable, children⟩
      ++ if children.isEmpty then [] else [("children", .array (Devices.listings "part" children))])

/-- Devices of some type in a report. -/
def Devices.listings (kind : String) : Devices → List Json
  | [] => []
  | (_, device) :: devices => device.listing kind :: Devices.listings kind devices

end

/-- A report of an inventory, in which every size is a number and the boot flag that of an MBR. -/
def Devices.report (devices : Devices) : Json :=
  .object [("blockdevices", .array (devices.listings "disk"))]

mutual

/-- The number of levels of a device and what is below it. -/
def BlockDevice.height : BlockDevice → Nat
  | ⟨_, _, _, _, _, _, _, children⟩ => Devices.height children + 1

/-- The number of levels of an inventory. -/
def Devices.height : Devices → Nat
  | [] => 0
  | (_, device) :: devices => max device.height (Devices.height devices)

end

theorem Devices.listings_eq (kind : String) (devices : Devices) :
    devices.listings kind = devices.map fun entry => entry.2.listing kind := by
  induction devices with
  | nil => rw [listings]; rfl
  | cons entry devices ih => rw [listings, ih]; rfl

theorem BlockDevice.listing_eq (kind : String) (device : BlockDevice) :
    device.listing kind = .object (device.listedFields kind
      ++ if device.children.isEmpty then []
        else [("children", .array (device.children.map fun child => child.2.listing "part"))]) := by
  cases device
  rw [listing]
  simp only [Devices.listings_eq]

theorem BlockDevice.height_eq (device : BlockDevice) :
    device.height = Devices.height device.children + 1 := by
  cases device
  rw [height]

theorem Devices.height_le_of_mem {devices : Devices} {entry : String × BlockDevice}
    (h : entry ∈ devices) : entry.2.height ≤ devices.height := by
  induction devices with
  | nil => exact absurd h List.not_mem_nil
  | cons first devices ih =>
    obtain ⟨name, device⟩ := first
    rw [height]
    rcases List.mem_cons.mp h with rfl | h
    · exact Nat.le_max_left _ _
    · exact Nat.le_trans (ih h) (Nat.le_max_right _ _)

namespace Lsblk

theorem showsText_encode (text? : Option String) : ShowsText text? (some (encode text?)) := by
  cases text? with
  | none => exact .absent .null
  | some text => exact .present text

theorem showsFlag_encode (bootable : Bool) :
    ShowsFlag bootable (some (encode (if bootable then some "0x80" else none))) := by
  cases bootable with
  | false => exact .absent .null
  | true =>
    have htext : flagText 0x80 = "0x80" := by decide
    exact htext ▸ ShowsFlag.flags 0x80

/-- The fields of a device show it, whether what is below it follows or not. -/
theorem showsParts_listedFields (kind : String) (device : BlockDevice)
    {more : List (String × Json)} (h : more.map (·.1) = [] ∨ more.map (·.1) = ["children"]) :
    ShowsParts (device.listedFields kind ++ more) device (some kind) := by
  refine ⟨?_, rfl, ⟨_, rfl, .number⟩, .typed kind, showsText_encode _, showsText_encode _,
    showsText_encode _, showsText_encode _, showsFlag_encode _⟩
  rw [knownKeys, List.map_append]
  rcases h with h | h
  all_goals
    rw [h]
    show (["name", "size", "type", "fstype", "uuid", "label", "mountpoint", "partflags"] ++ _
      |>.filter (· ∈ fieldNames)).Nodup
    decide

/-- Devices under their names are entered as they were. -/
theorem map_entry_listed {devices : Devices} (named : ∀ entry ∈ devices, entry.1 = entry.2.name)
    (kind : Option String) :
    (devices.map fun entry => (⟨entry.2, kind⟩ : Listed)).map Listed.entry = devices := by
  rw [List.map_map]
  refine (List.map_congr_left fun entry hentry => ?_).trans (List.map_id devices)
  exact Prod.ext (named entry hentry).symm rfl

/-- A device is shown as it is listed if what is below it is. -/
theorem shows_listing {device : BlockDevice} (kind : String)
    (named : ∀ child ∈ device.children, child.1 = child.2.name)
    (below : ∀ child ∈ device.children, Shows (child.2.listing "part") ⟨child.2, some "part"⟩) :
    Shows (device.listing kind) ⟨device, some kind⟩ := by
  rw [BlockDevice.listing_eq]
  refine @Shows.intro _ device (some kind) (device.children.map fun child =>
    (child.2.listing "part", ⟨child.2, some "part"⟩)) (showsParts_listedFields kind device ?_)
    ?_ ?_ (List.forall_mem_map.mpr below)
  · split
    · exact .inl rfl
    · exact .inr rfl
  · rw [List.map_map]
    split
    · next hempty =>
      rw [List.isEmpty_iff.mp hempty]
      exact .inr ⟨rfl, rfl⟩
    · exact .inl rfl
  · have hlisted : (device.children.map fun child =>
        ((child.2.listing "part", ⟨child.2, some "part"⟩) : Json × Listed)).map (·.2)
        = device.children.map fun child => ⟨child.2, some "part"⟩ := List.map_map
    rw [hlisted, map_entry_listed named]

/-- The fields of a device hold no containers, apart from the one for what is below it. -/
theorem listedFields_flat (kind : String) (device : BlockDevice) :
    ∀ field ∈ device.listedFields kind, field.2.Plain ∧ field.2.depth = 0 := by
  have htext : ∀ text? : Option String, (encode text?).Plain ∧ (encode text?).depth = 0 := by
    rintro (_ | text) <;> exact ⟨trivial, rfl⟩
  have hsize : (encode device.size).Plain :=
    ⟨Int.natCast_nonneg _, Int.ofNat_lt.mpr device.size.toNat_lt⟩
  simp only [BlockDevice.listedFields, List.forall_mem_cons]
  exact ⟨⟨trivial, rfl⟩, ⟨hsize, rfl⟩, ⟨trivial, rfl⟩, htext _, htext _, htext _, htext _, htext _,
    nofun⟩

/-- A device opens two containers on every level, apart from the one that is its list. -/
theorem listing_fits {device : BlockDevice} (kind : String)
    (below : ∀ child ∈ device.children, (child.2.listing "part").Plain
      ∧ (child.2.listing "part").depth + 1 ≤ 2 * child.2.height) :
    (device.listing kind).Plain ∧ (device.listing kind).depth + 1 ≤ 2 * device.height := by
  have hfields : ∀ field ∈ device.listedFields kind ++ if device.children.isEmpty then []
      else [("children", Json.array (device.children.map fun child => child.2.listing "part"))],
      field.2.Plain ∧ field.2.depth ≤ 2 * Devices.height device.children := by
    refine List.forall_mem_append.mpr ⟨fun field hfield => ?_, ?_⟩
    · obtain ⟨hplain, hdepth⟩ := listedFields_flat kind device field hfield
      exact ⟨hplain, by omega⟩
    split
    · nofun
    · next hne =>
      obtain ⟨child, hchild⟩ := List.exists_mem_of_ne_nil _ fun hnil =>
        hne (List.isEmpty_iff.mpr hnil)
      have hlevel := Devices.height_le_of_mem hchild
      rw [BlockDevice.height_eq] at hlevel
      refine List.forall_mem_singleton.mpr ⟨?_, ?_⟩
      · exact Json.plainItems_iff.mpr (List.forall_mem_map.mpr fun child hchild =>
          (below child hchild).1)
      · have hitems : Json.depthItems (device.children.map fun child => child.2.listing "part")
            ≤ 2 * Devices.height device.children - 1 := by
          refine Json.depthItems_le_iff.mpr (List.forall_mem_map.mpr fun child hchild => ?_)
          have hdepth := (below child hchild).2
          have hheight := Devices.height_le_of_mem hchild
          omega
        rw [Json.depth]
        omega
  rw [BlockDevice.listing_eq, BlockDevice.height_eq, Json.depth]
  refine ⟨Json.plainFields_iff.mpr fun field hfield => (hfields field hfield).1, ?_⟩
  have hdepth := Json.depthFields_le_iff.mpr fun field hfield => (hfields field hfield).2
  omega

/-- The devices of an orderly inventory are shown as they are listed. -/
theorem shows_listing_of_orderly {devices : Devices} (orderly : devices.Orderly) :
    ∀ entry ∈ devices, ∀ kind, Shows (entry.2.listing kind) ⟨entry.2, some kind⟩
      ∧ (entry.2.listing kind).Plain
      ∧ (entry.2.listing kind).depth + 1 ≤ 2 * entry.2.height := by
  induction orderly with
  | @intro devices sorted named below ih =>
    intro entry hentry kind
    obtain ⟨-, hnamed, -⟩ := below entry hentry
    exact ⟨shows_listing kind hnamed fun child hchild => (ih entry hentry child hchild _).1,
      listing_fits kind fun child hchild => (ih entry hentry child hchild _).2⟩

/-- **Every orderly inventory is shown by its report.** -/
theorem reports_report {devices : Devices} (orderly : devices.Orderly) :
    Reports devices.report devices := by
  have hshown := shows_listing_of_orderly orderly
  obtain ⟨-, named, -⟩ := orderly
  refine @Reports.intro _ devices (devices.map fun entry =>
    (entry.2.listing "disk", ⟨entry.2, some "disk"⟩)) ?_
    (List.forall_mem_map.mpr fun entry hentry => (hshown entry hentry "disk").1) ?_
  · rw [Devices.listings_eq, List.map_map]
    rfl
  · have hkept : (devices.map fun entry => (⟨entry.2, some "disk"⟩ : Listed)).filter
        (·.kind ∈ diskKinds) = devices.map fun entry => ⟨entry.2, some "disk"⟩ :=
      List.filter_eq_self.mpr (List.forall_mem_map.mpr fun _ _ => by simp [diskKinds])
    rw [List.map_map]
    show ((List.filter _ (devices.map fun entry => (⟨entry.2, some "disk"⟩ : Listed))).map
      Listed.entry).Perm devices
    rw [hkept]
    exact .of_eq (map_entry_listed named (some "disk"))

/-- A report opens two containers on every level, and one around all. -/
theorem report_fits {devices : Devices} (orderly : devices.Orderly) :
    devices.report.Plain ∧ devices.report.depth ≤ max 2 (2 * devices.height + 1) := by
  have hshown := shows_listing_of_orderly orderly
  have hitems : Json.depthItems (devices.listings "disk") ≤ 2 * devices.height - 1 := by
    rw [Devices.listings_eq]
    refine Json.depthItems_le_iff.mpr (List.forall_mem_map.mpr fun entry hentry => ?_)
    have hdepth := (hshown entry hentry "disk").2.2
    have hheight := Devices.height_le_of_mem hentry
    omega
  refine ⟨⟨Json.plainItems_iff.mpr ?_, trivial⟩, ?_⟩
  · rw [Devices.listings_eq]
    exact List.forall_mem_map.mpr fun entry hentry => (hshown entry hentry "disk").2.1
  · rw [Devices.report, Json.depth, Json.depthFields, Json.depthFields, Json.depth]
    omega

end Lsblk

/-- **An inventory is read back from each of its reports.**  Its devices stand under their names
in key order on every level, and none of their texts is empty.  Its own report can be read if it
does not nest too deeply. -/
theorem Devices.Orderly.read_back {devices : Devices} (orderly : devices.Orderly)
    (told : ∀ device ∈ devices.tree, device.Told) :
    (∀ report, Lsblk.Reports report devices →
      (∀ text, Json.parse? text = some report → Devices.ofLsblk text = .ok devices)
      ∧ (report.Plain → report.depth ≤ Json.Reader.maxDepth →
        ∀ text ∈ [report.compact, report.indented], Devices.ofLsblk text = .ok devices))
    ∧ Lsblk.Reports devices.report devices
    ∧ (2 * devices.height + 1 ≤ Json.Reader.maxDepth →
      ∀ text ∈ [devices.report.compact, devices.report.indented],
        Devices.ofLsblk text = .ok devices) := by
  have hread : ∀ report, Lsblk.Reports report devices → report.Plain →
      report.depth ≤ Json.Reader.maxDepth →
      ∀ text ∈ [report.compact, report.indented], Devices.ofLsblk text = .ok devices := by
    intro report hreport hplain hdepth
    refine List.forall_mem_cons.mpr ⟨?_, List.forall_mem_singleton.mpr ?_⟩
    · exact hreport.ofLsblk orderly told (Json.parse?_compact hplain hdepth)
    · exact hreport.ofLsblk orderly told (Json.parse?_indented hplain hdepth)
  refine ⟨fun report hreport => ⟨fun text htext => hreport.ofLsblk orderly told htext,
    hread report hreport⟩, Lsblk.reports_report orderly, fun hheight => ?_⟩
  obtain ⟨hplain, hdepth⟩ := Lsblk.report_fits orderly
  have hlimit : 2 ≤ Json.Reader.maxDepth := by decide
  exact hread _ (Lsblk.reports_report orderly) hplain (by omega)

/-- A disk with one partition. -/
def bootDiskOnly : Devices :=
  [("vda", ⟨"vda", 2048, none, none, none, none, false,
    [("vda1", ⟨"vda1", 1024, some "ext4", none, none, some "/", true, []⟩)]⟩)]

/-- The partition in a report: a number of bytes, an empty label and the flag of a GPT. -/
def mixedPartition : Json :=
  .object [("type", .string "part"), ("name", .string "vda1"), ("size", .number (.whole 1024)),
    ("fstype", .string "ext4"), ("label", .string ""), ("mountpoint", .string "/"),
    ("partflags", .string "0x4")]

/-- The disk in a report: no type, bytes as a text, an empty filesystem and an unknown field. -/
def mixedDisk : Json :=
  .object [("children", .array [mixedPartition]), ("ro", .bool false), ("fstype", .string ""),
    ("name", .string "vda"), ("size", .string "2048")]

/-- A root of another type, under the name of the disk. -/
def mixedLoop : Json :=
  .object [("name", .string "vda"), ("size", .string "7"), ("type", .string "loop")]

/-- A report of the disk, and of the root of another type. -/
def mixedReport : Json := .object [("blockdevices", .array [mixedDisk, mixedLoop])]

theorem reports_mixedReport : Lsblk.Reports mixedReport bootDiskOnly := by
  have hpartition : Lsblk.Shows mixedPartition
      ⟨⟨"vda1", 1024, some "ext4", none, none, some "/", true, []⟩, some "part"⟩ :=
    @Lsblk.Shows.intro _ _ _ [] ⟨by decide, rfl, ⟨_, rfl, .number⟩, .typed "part",
      .present "ext4", .absent .missing, .absent .empty, .present "/", .flags 4⟩
      (.inr ⟨rfl, rfl⟩) (.refl _) nofun
  have hdisk : Lsblk.Shows mixedDisk ⟨⟨"vda", 2048, none, none, none, none, false,
      [("vda1", ⟨"vda1", 1024, some "ext4", none, none, some "/", true, []⟩)]⟩, none⟩ :=
    @Lsblk.Shows.intro _ _ _ [(mixedPartition, _)] ⟨by decide, rfl, ⟨_, rfl, .text⟩, .missing,
      .absent .empty, .absent .missing, .absent .missing, .absent .missing, .absent .missing⟩
      (.inl rfl) (.refl _) (List.forall_mem_singleton.mpr hpartition)
  have hloop : Lsblk.Shows mixedLoop
      ⟨⟨"vda", 7, none, none, none, none, false, []⟩, some "loop"⟩ :=
    @Lsblk.Shows.intro _ _ _ [] ⟨by decide, rfl, ⟨_, rfl, .text⟩, .typed "loop",
      .absent .missing, .absent .missing, .absent .missing, .absent .missing, .absent .missing⟩
      (.inr ⟨rfl, rfl⟩) (.refl _) nofun
  exact @Lsblk.Reports.intro _ _ [(mixedDisk, _), (mixedLoop, _)] rfl
    (List.forall_mem_cons.mpr ⟨hdisk, List.forall_mem_singleton.mpr hloop⟩) (.refl _)

/-- Both its own report and one that shows each level differently are read as the disk. -/
theorem bootDiskOnly_read_back :
    (∀ text ∈ [mixedReport.compact, mixedReport.indented],
      Devices.ofLsblk text = .ok bootDiskOnly)
    ∧ ∀ text ∈ [bootDiskOnly.report.compact, bootDiskOnly.report.indented],
      Devices.ofLsblk text = .ok bootDiskOnly := by
  have orderly : bootDiskOnly.Orderly := by
    refine .intro (List.pairwise_singleton _ _) (by simp [bootDiskOnly]) ?_
    refine List.forall_mem_singleton.mpr (.of_childless (List.pairwise_singleton _ _) ?_ ?_)
    all_goals simp
  have told : ∀ device ∈ bootDiskOnly.tree, device.Told := by
    simp [bootDiskOnly, Devices.tree, BlockDevice.tree, BlockDevice.Told]
  obtain ⟨hreports, -, hown⟩ := Devices.Orderly.read_back orderly told
  have hplain : mixedReport.Plain := by
    simp [mixedReport, mixedDisk, mixedPartition, mixedLoop, Json.Plain, Json.PlainFields,
      Json.PlainItems, Json.Number.Plain, UInt64.size]
  exact ⟨(hreports _ reports_mixedReport).2 hplain (by decide), hown (by decide)⟩

end ServerMigration
