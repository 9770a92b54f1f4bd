import Mathlib.Data.Nat.Bitwise
import ServerMigration.Proofs.Inventory.Orderly
import ServerMigration.Proofs.Inventory.Tree
import ServerMigration.Proofs.Text.Blanks
import ServerMigration.Text.Literal

/-!
# What a report shows, and how it is read

A report may show one device in many ways: its fields come in any order and with others among
them, its size is a number or a decimal text, what it does not have is left out, `null` or an
empty text, and its boot flag is one of two bits among sixty-four.  Whichever way is taken on each
level, the device that is read is the one that is shown.

A report is read field by field into a draft.  Every field that has been read is what the draft
holds under its key, whatever came before it, and so the draft at the end depends on what is found
under each key alone.

## Main definitions

* `Lsblk.Shows` : a value of a report shows a device of some type, and all that is below it.
* `Lsblk.Reports` : a report shows the disks of an inventory, perhaps among other roots.
* `Lsblk.Draft.Holds` : a draft holds what has been read.

## Main results

* `Lsblk.Draft.Holds.readField`, `Lsblk.Draft.Holds.readFields` : what a field and all fields of an
  object do to a draft.
* `Lsblk.Shows.reads` : a device is read as it is shown.
* `Lsblk.Reports.ofLsblk` : a report that shows an inventory is read as that inventory.
-/

namespace ServerMigration

/-! ### What a report shows -/

namespace Lsblk

/-- A field that tells nothing. -/
inductive Absent : Option Json → Prop
  /-- It is left out. -/
  | missing : Absent none
  /-- It is `null`. -/
  | null : Absent (some .null)
  /-- It is an empty text. -/
  | empty : Absent (some (.string ""))

/-- A field shows an optional text. -/
inductive ShowsText : Option String → Option Json → Prop
  /-- There is no text to show. -/
  | absent {value? : Option Json} (h : Absent value?) : ShowsText none value?
  /-- The text itself. -/
  | present (text : String) : ShowsText (some text) (some (.string text))

/-- A field shows the type of a device.  The empty text is a type like any other. -/
inductive ShowsKind : Option String → Option Json → Prop
  /-- It is left out. -/
  | missing : ShowsKind none none
  /-- It is `null`. -/
  | null : ShowsKind none (some .null)
  /-- The type itself. -/
  | typed (kind : String) : ShowsKind (some kind) (some (.string kind))

/-- A field shows a number of bytes. -/
inductive ShowsSize (size : UInt64) : Json → Prop
  /-- As a number. -/
  | number : ShowsSize size (.number (.whole size.toNat))
  /-- As a decimal text. -/
  | text : ShowsSize size (.string (toString size.toNat))

/-- Partition flags as a text. -/
def flagText (flags : UInt64) : String :=
  .ofList ('0' :: 'x' :: Text.hexNat flags.toNat)

/-- A field shows whether a device is bootable. -/
inductive ShowsFlag : Bool → Option Json → Prop
  /-- There are no flags. -/
  | absent {value? : Option Json} (h : Absent value?) : ShowsFlag false value?
  /-- Bit 7, the active flag of an MBR, or bit 2, the legacy boot attribute of a GPT. -/
  | flags (flags : UInt64) :
    ShowsFlag (flags.toNat.testBit 2 || flags.toNat.testBit 7) (some (.string (flagText flags)))

/-- A device under its name. -/
def Listed.entry (listed : Listed) : String × BlockDevice := (listed.device.name, listed.device)

/-- Those keys of some fields that a device has, in their order. -/
def knownKeys (fields : List (String × Json)) : List String :=
  (fields.map (·.1)).filter (· ∈ fieldNames)

/-- The fields of an object show a device of some type, apart from what is below it. -/
structure ShowsParts (fields : List (String × Json)) (device : BlockDevice)
    (kind : Option String) : Prop where
  /-- No field comes twice. -/
  distinct : (knownKeys fields).Nodup
  /-- The name is there. -/
  name : fields.lookup "name" = some (.string device.name)
  /-- The size is there. -/
  size : ∃ value, fields.lookup "size" = some value ∧ ShowsSize device.size value
  kind : ShowsKind kind (fields.lookup "type")
  fs : ShowsText device.fs (fields.lookup "fstype")
  uuid : ShowsText device.uuid (fields.lookup "uuid")
  label : ShowsText device.label (fields.lookup "label")
  mountpoint : ShowsText device.mountpoint (fields.lookup "mountpoint")
  bootable : ShowsFlag device.bootable (fields.lookup "partflags")

/-- A value of a report shows a device of some type, with the devices below it in any order. -/
inductive Shows : Json → Listed → Prop
  | intro {fields : List (String × Json)} {device : BlockDevice} {kind : Option String}
    {below : List (Json × Listed)} (parts : ShowsParts fields device kind)
    (children : fields.lookup "children" = some (.array (below.map (·.1)))
      ∨ fields.lookup "children" = none ∧ below = [])
    (listed : ((below.map (·.2)).map Listed.entry).Perm device.children)
    (shown : ∀ child ∈ below, Shows child.1 child.2) :
    Shows (.object fields) ⟨device, kind⟩

/-- The types of the roots that are kept. -/
def diskKinds : List (Option String) := [none, some "disk"]

/-- A report shows an inventory: its disks are the roots of type `disk` and those without a type,
in any order and among roots of any other type. -/
inductive Reports : Json → Devices → Prop
  | intro {fields : List (String × Json)} {devices : Devices} {roots : List (Json × Listed)}
    (only : fields.filter (fun (key, _) => key = "blockdevices")
      = [("blockdevices", .array (roots.map (·.1)))])
    (shown : ∀ root ∈ roots, Shows root.1 root.2)
    (disks : (((roots.map (·.2)).filter (·.kind ∈ diskKinds)).map Listed.entry).Perm devices) :
    Reports (.object fields) devices

end Lsblk

/-- No text of a device is empty. -/
def BlockDevice.Told (device : BlockDevice) : Prop :=
  ∀ text ∈ [device.fs, device.uuid, device.label, device.mountpoint], text ≠ some ""

/-- Everything below a device can be told from a report: it is orderly, and no text is empty. -/
structure BlockDevice.Tellable (device : BlockDevice) : Prop where
  /-- What is below the device is orderly. -/
  orderly : Devices.Orderly device.children
  /-- No text of the device or of one below it is empty. -/
  told : ∀ below ∈ device.tree, below.Told

theorem Devices.tellable_of_mem {devices : Devices} (orderly : devices.Orderly)
    (told : ∀ device ∈ devices.tree, device.Told) {entry : String × BlockDevice}
    (h : entry ∈ devices) : entry.2.Tellable where
  orderly := orderly.children_of_mem (List.mem_map_of_mem h)
  told _ hbelow := told _ (tree_subset_of_mem (List.mem_map_of_mem h) hbelow)

theorem BlockDevice.Tellable.of_mem {device : BlockDevice} (tellable : device.Tellable)
    {entry : String × BlockDevice} (h : entry ∈ device.children) : entry.2.Tellable := by
  refine Devices.tellable_of_mem tellable.orderly (fun below hbelow => tellable.told below ?_) h
  rw [tree_eq]
  exact List.mem_cons_of_mem device hbelow

namespace Lsblk

/-! ### Sizes, texts and flags -/

theorem ShowsSize.decodeSize {size : UInt64} {value : Json} (h : ShowsSize size value) :
    Lsblk.decodeSize value = .ok size := by
  have hlimit : size.toNat < UInt64.size := size.toNat_lt
  cases h with
  | number =>
    have hbounds : (0 : Int) ≤ size.toNat ∧ (size.toNat : Int) < UInt64.size :=
      ⟨Int.natCast_nonneg _, Int.ofNat_lt.mpr hlimit⟩
    rw [Lsblk.decodeSize, if_pos hbounds, Int.toNat_natCast]
    exact congrArg Except.ok UInt64.ofNat_toNat
  | text =>
    have hunbroken : (Nat.toDigits 10 size.toNat).all (!Text.isBlank ·) := by
      refine List.all_eq_true.mpr fun c hc => ?_
      simpa using Text.not_isBlank_of_isDigit
        (List.all_eq_true.mp (Text.all_isDigit_toDigits size.toNat) c hc)
    rw [Lsblk.decodeSize, Nat.toString_eq_ofList_toDigits, String.toList_ofList,
      Text.trim_of_unbroken hunbroken, Text.readNat_toDigits hlimit]
    exact congrArg Except.ok UInt64.ofNat_toNat

theorem withoutMarks_of_notMem {text : List Char} (h : 'x' ∉ text) :
    isBootFlag.withoutMarks 0 text = text := by
  rw [isBootFlag.withoutMarks]
  · nofun
  · rintro rest - rfl
    exact h (by simp)

theorem and_bootBits_ne_zero_iff {flags : UInt64} :
    flags &&& 0x84 ≠ 0 ↔ flags.toNat.testBit 2 || flags.toNat.testBit 7 := by
  have hbits : flags.toNat &&& 132 = flags.toNat &&& 2 ^ 2 ||| flags.toNat &&& 2 ^ 7 :=
    Nat.and_or_distrib_left flags.toNat 4 128
  have hzero : flags &&& 0x84 = 0 ↔ flags.toNat &&& 132 = 0 := by
    rw [← UInt64.toNat_inj, UInt64.toNat_and]
    exact Iff.rfl
  rw [Ne, hzero, hbits, Nat.or_eq_zero_iff, Nat.and_two_pow, Nat.and_two_pow]
  cases flags.toNat.testBit 2 <;> cases flags.toNat.testBit 7 <;> decide

/-- A device is bootable by its flags if one of the two bits is set. -/
theorem isBootFlag_flagText (flags : UInt64) :
    isBootFlag (flagText flags) = (flags.toNat.testBit 2 || flags.toNat.testBit 7) := by
  have hdigit : ∀ d < 16, Nat.digitChar d ≠ 'x' ∧ !Text.isBlank (Nat.digitChar d) := by decide
  have hdigits : ∀ c ∈ Nat.toDigits 16 flags.toNat, c ≠ 'x' ∧ !Text.isBlank c := by
    intro c hc
    obtain ⟨d, hd, rfl⟩ := Text.exists_eq_digitChar_of_mem_toDigits hc
    exact hdigit d hd
  have hmark : 'x' ∉ Nat.toDigits 16 flags.toNat := fun hmem => (hdigits 'x' hmem).1 rfl
  have hunbroken : ('0' :: 'x' :: Nat.toDigits 16 flags.toNat).all (!Text.isBlank ·) := by
    refine List.all_eq_true.mpr (List.forall_mem_cons.mpr ⟨by decide, ?_⟩)
    exact List.forall_mem_cons.mpr ⟨by decide, fun c hc => (hdigits c hc).2⟩
  have hmarks : isBootFlag.withoutMarks 0 ('0' :: 'x' :: Nat.toDigits 16 flags.toNat)
      = Nat.toDigits 16 flags.toNat := withoutMarks_of_notMem hmark
  rw [isBootFlag, flagText, String.toList_ofList, Text.hexNat, Text.trim_of_unbroken hunbroken,
    hmarks, Text.readHex_toDigits flags.toNat_lt]
  have hflags : flags.toNat.toUInt64 = flags := UInt64.ofNat_toNat
  simp only [hflags, and_bootBits_ne_zero_iff, Bool.decide_eq_true]

section

variable {value? : Option Json}

theorem ShowsText.exists_read {text? : Option String} (h : ShowsText text? value?) :
    ∃ read : Option (Option String), value?.mapM decode = .ok read
      ∧ (read.bind id).filter (· ≠ "") = text?.filter (· ≠ "") := by
  cases h with
  | absent h =>
    cases h with
    | missing => exact ⟨none, rfl, rfl⟩
    | null => exact ⟨some none, rfl, rfl⟩
    | empty => exact ⟨some (some ""), rfl, rfl⟩
  | present text => exact ⟨some (some text), rfl, rfl⟩

theorem ShowsKind.exists_read {kind : Option String} (h : ShowsKind kind value?) :
    ∃ read : Option (Option String), value?.mapM decode = .ok read ∧ read.bind id = kind := by
  cases h with
  | missing => exact ⟨none, rfl, rfl⟩
  | null => exact ⟨some none, rfl, rfl⟩
  | typed kind => exact ⟨some (some kind), rfl, rfl⟩

theorem ShowsFlag.exists_read {bootable : Bool} (h : ShowsFlag bootable value?) :
    ∃ read : Option (Option String), value?.mapM decode = .ok read
      ∧ (read.bind id).any isBootFlag = bootable := by
  cases h with
  | absent h =>
    cases h with
    | missing => exact ⟨none, rfl, rfl⟩
    | null => exact ⟨some none, rfl, rfl⟩
    | empty => exact ⟨some (some ""), rfl, by decide⟩
  | flags flags => exact ⟨some (some (flagText flags)), rfl, isBootFlag_flagText flags⟩

end

/-! ### Reading the fields of a device -/

/-- A field that can be read, whether it is known or not. -/
inductive Readable : String → Json → Prop
  | name {value : Json} {name : String} (h : decode value = .ok name) : Readable "name" value
  | size {value : Json} {size : UInt64} (h : decodeSize value = .ok size) : Readable "size" value
  | text {key : String} {value : Json} {text : Option String} (known : key ∈ textFields)
    (h : decode value = .ok text) : Readable key value
  | children {value : Json} {listed : List Listed} (h : decodeList value = .ok listed) :
    Readable "children" value
  | unknown {key : String} {value : Json} (h : key ∉ fieldNames) : Readable key value

/-- A draft holds what is read under each key of some fields. -/
structure Draft.Holds (draft : Draft) (fields : List (String × Json)) : Prop where
  /-- Its name. -/
  name : (fields.lookup "name").mapM decode = .ok draft.name
  /-- Its size. -/
  size : (fields.lookup "size").mapM decodeSize = .ok draft.size
  /-- Its texts. -/
  text : ∀ key ∈ textFields, (fields.lookup key).mapM decode = .ok (draft.texts.lookup key)
  /-- What is below it. -/
  children : (fields.lookup "children").mapM decodeList = .ok draft.children

section

variable {draft : Draft} {fields : List (String × Json)} {key other : String} {value : Json}

/-- A field leaves alone what is read under the other keys. -/
theorem mapM_concat_of_ne {α : Type} {read : Json → Decoded α} {a? : Option α} (hne : other ≠ key)
    (h : (fields.lookup other).mapM read = .ok a?) :
    ((fields ++ [(key, value)]).lookup other).mapM read = .ok a? := by
  have hbeq : (other == key) = false := beq_false_of_ne hne
  rwa [List.lookup_append, List.lookup_cons, hbeq, List.lookup_nil, Option.or_none]

/-- A new field is what is read under its key. -/
theorem mapM_concat_self {α : Type} {read : Json → Decoded α} {a : α}
    (fresh : fields.lookup key = none) (h : read value = .ok a) :
    ((fields ++ [(key, value)]).lookup key).mapM read = .ok (some a) := by
  rw [List.lookup_append, fresh, List.lookup_cons, beq_self_eq_true, Option.none_or]
  show some <$> read value = _
  rw [h]
  rfl

/-- Nothing is read under a key that is new. -/
theorem eq_none_of_mapM {α : Type} {read : Json → Decoded α} {a? : Option α}
    (fresh : fields.lookup key = none) (h : (fields.lookup key).mapM read = .ok a?) :
    a? = none := by
  rw [fresh] at h
  exact (Except.ok.inj h).symm

/-- A known field comes only once. -/
theorem lookup_eq_none_of_distinct {later : List (String × Json)}
    (distinct : (knownKeys (fields ++ (key, value) :: later)).Nodup) (known : key ∈ fieldNames) :
    fields.lookup key = none := by
  refine List.lookup_eq_none_iff.mpr fun earlier hearlier => bne_iff_ne.mpr fun heq => ?_
  rw [knownKeys, List.map_append, List.filter_append] at distinct
  refine (List.nodup_append.mp distinct).2.2 key ?_ key ?_ rfl
  · exact List.mem_filter.mpr ⟨List.mem_map.mpr ⟨earlier, hearlier, heq.symm⟩, by simpa⟩
  · exact List.mem_filter.mpr ⟨List.mem_cons_self, by simpa⟩

/-- A known field is what is found under its key. -/
theorem lookup_of_mem (distinct : (knownKeys fields).Nodup) (known : key ∈ fieldNames)
    (h : (key, value) ∈ fields) : fields.lookup key = some value := by
  obtain ⟨earlier, later, rfl⟩ := List.append_of_mem h
  rw [List.lookup_append, lookup_eq_none_of_distinct distinct known, List.lookup_cons,
    beq_self_eq_true, Option.none_or]

theorem exists_of_mapM_some {α : Type} {read : Json → Decoded α} {a? : Option α}
    (h : (some value).mapM read = .ok a?) : ∃ a, read value = .ok a := by
  obtain ⟨a, ha, -⟩ := bind_eq_ok_iff.mp h
  exact ⟨a, ha⟩

namespace Draft.Holds

theorem empty : Draft.Holds {} [] := ⟨rfl, rfl, fun _ _ => rfl, rfl⟩

/-- A field that is no text leaves the texts alone. -/
theorem texts_concat (holds : draft.Holds fields) (h : key ∉ textFields) :
    ∀ other ∈ textFields, ((fields ++ [(key, value)]).lookup other).mapM decode
      = .ok (draft.texts.lookup other) :=
  fun other hother => mapM_concat_of_ne (ne_of_mem_of_not_mem hother h) (holds.text other hother)

/-- **A field that can be read is held from then on, and what was held before is held still.** -/
theorem readField (holds : draft.Holds fields)
    (fresh : key ∈ fieldNames → fields.lookup key = none) (readable : Readable key value) :
    ∃ after, Lsblk.readField draft key value = .ok after
      ∧ after.Holds (fields ++ [(key, value)]) := by
  -- In each case one part of the draft is new, and the others are kept under their own keys.
  cases readable with
  | @name _ name h =>
    have hfresh := fresh (by decide)
    have hnone := eq_none_of_mapM hfresh holds.name
    refine ⟨{ draft with name := some name }, by simp [Lsblk.readField, hnone, h], ?_, ?_, ?_, ?_⟩
    · exact mapM_concat_self hfresh h
    · exact mapM_concat_of_ne (by decide) holds.size
    · exact holds.texts_concat (by decide)
    · exact mapM_concat_of_ne (by decide) holds.children
  | @size _ size h =>
    have hfresh := fresh (by decide)
    have hnone := eq_none_of_mapM hfresh holds.size
    refine ⟨{ draft with size := some size }, by simp [Lsblk.readField, hnone, h], ?_, ?_, ?_, ?_⟩
    · exact mapM_concat_of_ne (by decide) holds.name
    · exact mapM_concat_self hfresh h
    · exact holds.texts_concat (by decide)
    · exact mapM_concat_of_ne (by decide) holds.children
  | @text _ _ text known h =>
    have hfresh := fresh (List.mem_cons_of_mem _ (List.mem_cons_of_mem _
      (List.mem_append_left _ known)))
    have hnone := eq_none_of_mapM hfresh (holds.text key known)
    have hne : ∀ {name}, name ∉ textFields → key ≠ name := ne_of_mem_of_not_mem known
    refine ⟨{ draft with texts := (key, text) :: draft.texts }, ?_, ?_, ?_,
      fun other hother => ?_, ?_⟩
    · rw [Lsblk.readField, if_neg (hne (by decide)), if_neg (hne (by decide)), if_pos known, hnone,
        h]
      rfl
    · exact mapM_concat_of_ne (hne (by decide)).symm holds.name
    · exact mapM_concat_of_ne (hne (by decide)).symm holds.size
    · rw [List.lookup_cons]
      split
      · next heq =>
        rw [beq_iff_eq.mp heq]
        exact mapM_concat_self hfresh h
      · next heq => exact mapM_concat_of_ne (by simpa using heq) (holds.text other hother)
    · exact mapM_concat_of_ne (hne (by decide)).symm holds.children
  | @children _ listed h =>
    have hfresh := fresh (by decide)
    have hnone := eq_none_of_mapM hfresh holds.children
    refine ⟨{ draft with children := some listed },
      by simp [Lsblk.readField, hnone, h, textFields], ?_, ?_, ?_, ?_⟩
    · exact mapM_concat_of_ne (by decide) holds.name
    · exact mapM_concat_of_ne (by decide) holds.size
    · exact holds.texts_concat (by decide)
    · exact mapM_concat_self hfresh h
  | unknown h =>
    have hne : ∀ {name}, name ∈ fieldNames → name ≠ key := fun hname =>
      ne_of_mem_of_not_mem hname h
    have htext : key ∉ textFields := fun hkey => h (List.mem_cons_of_mem _ (List.mem_cons_of_mem _
      (List.mem_append_left _ hkey)))
    refine ⟨draft, ?_, ?_, ?_, ?_, ?_⟩
    · rw [Lsblk.readField, if_neg (hne (by decide)).symm, if_neg (hne (by decide)).symm,
        if_neg htext, if_neg (hne (by decide)).symm]
    · exact mapM_concat_of_ne (hne (by decide)) holds.name
    · exact mapM_concat_of_ne (hne (by decide)) holds.size
    · exact holds.texts_concat htext
    · exact mapM_concat_of_ne (hne (by decide)) holds.children

/-- **Fields with different names that can be read are all held in the end.** -/
theorem readFields {later : List (String × Json)} (holds : draft.Holds fields)
    (distinct : (knownKeys (fields ++ later)).Nodup)
    (readable : ∀ field ∈ later, Readable field.1 field.2) :
    ∃ after, Lsblk.readFields draft later = .ok after ∧ after.Holds (fields ++ later) := by
  induction later generalizing draft fields with
  | nil => exact ⟨draft, by rw [Lsblk.readFields], by rwa [List.append_nil]⟩
  | cons field later ih =>
    obtain ⟨key, value⟩ := field
    obtain ⟨hfield, hlater⟩ := List.forall_mem_cons.mp readable
    obtain ⟨middle, hmiddle, hholds⟩ := holds.readField (lookup_eq_none_of_distinct distinct) hfield
    obtain ⟨after, hafter, hall⟩ := ih hholds (by simpa using distinct) hlater
    refine ⟨after, ?_, by simpa using hall⟩
    rw [Lsblk.readFields, hmiddle]
    exact hafter

end Draft.Holds

end

/-! ### Reading a device -/

namespace ShowsParts

variable {fields : List (String × Json)} {device : BlockDevice} {kind : Option String}

/-- The texts of a device can be read. -/
theorem exists_text (parts : ShowsParts fields device kind) : ∀ key ∈ textFields,
    ∃ read : Option (Option String), (fields.lookup key).mapM decode = .ok read := by
  obtain ⟨type, htype, -⟩ := parts.kind.exists_read
  obtain ⟨fs, hfs, -⟩ := parts.fs.exists_read
  obtain ⟨uuid, huuid, -⟩ := parts.uuid.exists_read
  obtain ⟨label, hlabel, -⟩ := parts.label.exists_read
  obtain ⟨mountpoint, hmountpoint, -⟩ := parts.mountpoint.exists_read
  obtain ⟨partflags, hpartflags, -⟩ := parts.bootable.exists_read
  simp only [textFields, List.forall_mem_cons]
  exact ⟨⟨type, htype⟩, ⟨fs, hfs⟩, ⟨uuid, huuid⟩, ⟨label, hlabel⟩, ⟨mountpoint, hmountpoint⟩,
    ⟨partflags, hpartflags⟩, nofun⟩

/-- Every field of a device can be read if what is below it can. -/
theorem readable (parts : ShowsParts fields device kind) {listed? : Option (List Listed)}
    (hchildren : (fields.lookup "children").mapM decodeList = .ok listed?) :
    ∀ field ∈ fields, Readable field.1 field.2 := by
  rintro ⟨key, value⟩ hfield
  by_cases known : key ∈ fieldNames
  · have hvalue := lookup_of_mem parts.distinct known hfield
    simp only [fieldNames, List.mem_cons, List.mem_append, List.not_mem_nil, or_false,
      List.cons_append] at known
    rcases known with rfl | rfl | known | rfl
    · cases parts.name.symm.trans hvalue
      exact .name rfl
    · obtain ⟨size, hsize, hshown⟩ := parts.size
      cases hsize.symm.trans hvalue
      exact .size hshown.decodeSize
    · obtain ⟨read, hread⟩ := parts.exists_text key known
      obtain ⟨text, htext⟩ := exists_of_mapM_some (hvalue ▸ hread)
      exact .text known htext
    · obtain ⟨listed, hlisted⟩ := exists_of_mapM_some (hvalue ▸ hchildren)
      exact .children hlisted
  · exact .unknown known

/-- A draft that holds the fields of a device becomes this device, without its empty texts. -/
theorem finish (parts : ShowsParts fields device kind) {draft : Draft}
    (holds : draft.Holds fields) :
    draft.finish = .ok {
      device := {
        name := device.name, size := device.size
        fs := device.fs.filter (· ≠ "")
        uuid := device.uuid.filter (· ≠ "")
        label := device.label.filter (· ≠ "")
        mountpoint := device.mountpoint.filter (· ≠ "")
        bootable := device.bootable
        children := Dict.ofList ((draft.children.getD []).map Listed.entry) }
      kind } := by
  have hname : draft.name = some device.name := by
    have hread := holds.name
    rw [parts.name] at hread
    exact (Except.ok.inj hread).symm
  have hsize : draft.size = some device.size := by
    obtain ⟨value, hvalue, hshown⟩ := parts.size
    have hread := holds.size
    rw [hvalue] at hread
    obtain ⟨size, hsize, hread⟩ := bind_eq_ok_iff.mp hread
    cases hsize.symm.trans hshown.decodeSize
    exact (Except.ok.inj hread).symm
  have htext : ∀ key ∈ textFields, ∀ {text? : Option String},
      ShowsText text? (fields.lookup key) → draft.nonEmpty key = text?.filter (· ≠ "") := by
    intro key hkey text? hshown
    obtain ⟨read, hread, htext⟩ := hshown.exists_read
    cases (holds.text key hkey).symm.trans hread
    exact htext
  have hkind : draft.text "type" = kind := by
    obtain ⟨read, hread, hkind⟩ := parts.kind.exists_read
    cases (holds.text "type" (by decide)).symm.trans hread
    exact hkind
  have hbootable : (draft.text "partflags").any isBootFlag = device.bootable := by
    obtain ⟨read, hread, hbootable⟩ := parts.bootable.exists_read
    cases (holds.text "partflags" (by decide)).symm.trans hread
    exact hbootable
  rw [Draft.finish, hname, hsize, htext "fstype" (by decide) parts.fs,
    htext "uuid" (by decide) parts.uuid, htext "label" (by decide) parts.label,
    htext "mountpoint" (by decide) parts.mountpoint, hkind, hbootable]
  rfl

end ShowsParts

/-- What is read is of the type that was shown, and it is the device that was shown if that can be
told. -/
def Listed.Agrees (read shown : Listed) : Prop :=
  read.kind = shown.kind ∧ (shown.device.Tellable → read.device = shown.device)

/-- Devices that are each read as they are shown are read together. -/
theorem exists_decodeAll {items : List (Json × Listed)}
    (h : ∀ item ∈ items, ∃ read, decodeListed item.1 = .ok read ∧ read.Agrees item.2) :
    ∃ reads, decodeAll (items.map (·.1)) = .ok reads
      ∧ List.Forall₂ Listed.Agrees reads (items.map (·.2)) := by
  induction items with
  | nil => exact ⟨[], by rw [List.map_nil, decodeAll], .nil⟩
  | cons item items ih =>
    obtain ⟨⟨read, hread, agrees⟩, hitems⟩ := List.forall_mem_cons.mp h
    obtain ⟨reads, hreads, agree⟩ := ih hitems
    refine ⟨read :: reads, ?_, .cons agrees agree⟩
    rw [List.map_cons, decodeAll, hread, hreads]
    rfl

/-- Of the types that are kept, the devices that are read are those that were shown. -/
theorem map_entry_filter {reads shown : List Listed}
    (agree : List.Forall₂ Listed.Agrees reads shown) (kept : Option String → Bool)
    (tellable : ∀ listed ∈ shown, kept listed.kind → listed.device.Tellable) :
    (reads.filter (kept ·.kind)).map Listed.entry
      = (shown.filter (kept ·.kind)).map Listed.entry := by
  induction agree with
  | nil => rfl
  | @cons read listed reads shown agrees _ ih =>
    obtain ⟨hkind, hdevice⟩ := agrees
    obtain ⟨hfirst, hlater⟩ := List.forall_mem_cons.mp tellable
    by_cases hkept : kept listed.kind
    · have hentry : read.entry = listed.entry := by
        rw [Listed.entry, hdevice (hfirst hkept), Listed.entry]
      simp only [List.filter_cons, hkind, hkept, if_true, List.map_cons, hentry, ih hlater]
    · simp only [List.filter_cons, hkind, hkept, Bool.false_eq_true, if_false, ih hlater]

theorem filter_of_told {device : BlockDevice} (told : device.Told) {text : Option String}
    (h : text ∈ [device.fs, device.uuid, device.label, device.mountpoint]) :
    text.filter (· ≠ "") = text := by
  have hne := told text h
  cases text with
  | none => rfl
  | some text => simpa using hne

/-- **A device is read as it is shown.** -/
theorem Shows.reads {json : Json} {listed : Listed} (h : Shows json listed) :
    ∃ read, decodeListed json = .ok read ∧ read.Agrees listed := by
  induction h with
  | @intro fields device kind below parts children listed _ ih =>
    obtain ⟨reads, hreads, agree⟩ := exists_decodeAll ih
    have hchildren : ∃ listed?, (fields.lookup "children").mapM decodeList = .ok listed?
        ∧ listed?.getD [] = reads := by
      rcases children with hfound | ⟨hmissing, rfl⟩
      · refine ⟨some reads, ?_, rfl⟩
        rw [hfound]
        show some <$> decodeList (.array _) = _
        rw [decodeList, hreads]
        rfl
      · cases agree
        exact ⟨none, by rw [hmissing]; rfl, rfl⟩
    obtain ⟨listed?, hlisted, rfl⟩ := hchildren
    obtain ⟨draft, hread, holds⟩ :=
      Draft.Holds.empty.readFields parts.distinct (parts.readable hlisted)
    cases holds.children.symm.trans hlisted
    have hdecoded : decodeListed (.object fields) = draft.finish := by
      rw [decodeListed, hread]
      rfl
    refine ⟨_, hdecoded.trans (parts.finish holds), rfl, fun tellable => ?_⟩
    have hentries := map_entry_filter agree (fun _ => true) fun child hchild _ =>
      tellable.of_mem (listed.subset (List.mem_map_of_mem hchild))
    simp only [List.filter_true] at hentries
    obtain ⟨sorted, -, -⟩ := tellable.orderly
    have told : device.Told := tellable.told device (by simp [BlockDevice.tree_eq])
    rw [hentries, sorted.ofList_eq_of_perm listed, filter_of_told told (by simp),
      filter_of_told told (by simp), filter_of_told told (by simp), filter_of_told told (by simp)]
    -- A record that holds others of its type is equal to its parts only once it is taken apart.
    cases device
    rfl

/-- **A report that shows an inventory is read as that inventory.** -/
theorem Reports.ofLsblk {report : Json} {devices : Devices} (h : Reports report devices)
    (orderly : devices.Orderly) (told : ∀ device ∈ devices.tree, device.Told) {text : String}
    (hread : Json.parse? text = some report) : Devices.ofLsblk text = .ok devices := by
  cases h with
  | @intro fields _ roots only shown disks =>
    obtain ⟨reads, hreads, agree⟩ := exists_decodeAll fun root hroot => (shown root hroot).reads
    have hreport : decodeReport (.object fields) = .ok reads := by
      rw [decodeReport, only]
      show decodeList (.array _) = _
      rw [decodeList, hreads]
    have hentries := map_entry_filter agree (· ∈ diskKinds) fun root hroot hkind =>
      Devices.tellable_of_mem orderly told (disks.subset
        (List.mem_map_of_mem (List.mem_filter.mpr ⟨hroot, hkind⟩)))
    have hkept : ∀ kind : Option String, kind.all (· = "disk") = decide (kind ∈ diskKinds) := by
      intro kind
      cases kind <;> simp [diskKinds]
    obtain ⟨sorted, -, -⟩ := orderly
    rw [Devices.ofLsblk, hread]
    show (do let listed ← decodeReport (.object fields); _ : Decoded Devices) = _
    rw [hreport]
    show Except.ok (Dict.ofList ((reads.filter fun read => read.kind.all (· = "disk")).map
      Listed.entry)) = _
    simp only [hkept]
    rw [hentries, sorted.ofList_eq_of_perm disks]

end Lsblk

end ServerMigration
