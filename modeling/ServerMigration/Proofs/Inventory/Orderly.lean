import ServerMigration.Inventory.Lsblk
import ServerMigration.Proofs.Dict
import ServerMigration.Proofs.Results

/-!
# The shape of a reported inventory

## Main definitions

* `Devices.Orderly` : devices stand under their names, in key order, on every level.

## Main results

* `Devices.orderly_of_ofLsblk` : the devices of a report are orderly.
-/

namespace ServerMigration

/-- The devices stand under their names in key order, and so do the devices below each of them. -/
inductive Devices.Orderly : Devices → Prop
  | intro {devices : Devices} (sorted : Dict.Sorted devices)
      (named : ∀ entry ∈ devices, entry.1 = entry.2.name)
      (below : ∀ entry ∈ devices, Orderly entry.2.children) : Orderly devices

namespace Devices.Orderly

variable {devices : Devices} {device : BlockDevice}

/-- A device is found under its name. -/
theorem get?_of_mem (orderly : Orderly devices) (h : device ∈ devices.values) :
    devices.get? device.name = some device := by
  obtain ⟨sorted, named, -⟩ := orderly
  obtain ⟨⟨name, device'⟩, hmem, rfl⟩ := List.mem_map.mp h
  rw [← named _ hmem]
  exact sorted.get?_of_mem hmem

/-- What lies below a device is orderly too. -/
theorem children_of_mem (orderly : Orderly devices) (h : device ∈ devices.values) :
    Orderly device.children := by
  obtain ⟨-, -, below⟩ := orderly
  obtain ⟨entry, hmem, rfl⟩ := List.mem_map.mp h
  exact below entry hmem

/-- Devices with nothing below them are orderly if they stand under their names in key order. -/
theorem of_childless (sorted : Dict.Sorted devices)
    (named : ∀ entry ∈ devices, entry.1 = entry.2.name)
    (childless : ∀ entry ∈ devices, entry.2.children = []) : Orderly devices := by
  refine .intro sorted named fun entry hmem => ?_
  rw [childless entry hmem]
  exact .intro List.Pairwise.nil nofun nofun

/-- Devices that are entered under their names are orderly if what lies below each of them is. -/
theorem ofList {listed : List Lsblk.Listed}
    (h : ∀ entry ∈ listed, Orderly entry.device.children) :
    Orderly (Dict.ofList (listed.map fun entry => (entry.device.name, entry.device))) := by
  refine .intro (Dict.sorted_ofList _) (fun entry hmem => ?_) (fun entry hmem => ?_)
  all_goals
    obtain ⟨listed, hlisted, rfl⟩ := List.mem_map.mp (Dict.mem_ofList hmem)
  · rfl
  · exact h listed hlisted

end Devices.Orderly

namespace Lsblk

/-- What lies below the devices that a draft lists as children is orderly. -/
def Draft.Orderly (draft : Draft) : Prop :=
  ∀ listed, draft.children = some listed → ∀ entry ∈ listed, Devices.Orderly entry.device.children

theorem Draft.Orderly.finish {draft : Draft} (orderly : draft.Orderly) {entry : Listed}
    (h : draft.finish = .ok entry) : Devices.Orderly entry.device.children := by
  obtain ⟨name, -, h⟩ := bind_eq_ok_iff.mp h
  obtain ⟨size, -, h⟩ := bind_eq_ok_iff.mp h
  cases h
  refine Devices.Orderly.ofList fun entry hmem => ?_
  cases hchildren : draft.children with
  | none => simp [hchildren] at hmem
  | some listed =>
    rw [hchildren] at hmem
    exact orderly listed hchildren entry hmem

theorem orderly_empty : Draft.Orderly {} := fun _ h => by cases h

/-- A field leaves the children of a draft alone, unless it is `children` itself. -/
theorem children_of_readField {draft after : Draft} {key : String} {value : Json}
    (h : readField draft key value = .ok after) :
    after.children = draft.children
      ∨ ∃ listed, decodeList value = .ok listed ∧ after.children = some listed := by
  rw [readField] at h
  by_cases hname : key = "name"
  · rw [if_pos hname] at h
    split at h
    · cases h
    · obtain ⟨name, -, h⟩ := bind_eq_ok_iff.mp h
      cases h
      exact .inl rfl
  rw [if_neg hname] at h
  by_cases hsize : key = "size"
  · rw [if_pos hsize] at h
    split at h
    · cases h
    · obtain ⟨size, -, h⟩ := bind_eq_ok_iff.mp h
      cases h
      exact .inl rfl
  rw [if_neg hsize] at h
  by_cases htext : key ∈ textFields
  · rw [if_pos htext] at h
    split at h
    · cases h
    · obtain ⟨text, -, h⟩ := bind_eq_ok_iff.mp h
      cases h
      exact .inl rfl
  rw [if_neg htext] at h
  by_cases hchildren : key = "children"
  · rw [if_pos hchildren] at h
    split at h
    · cases h
    · obtain ⟨listed, hlisted, h⟩ := bind_eq_ok_iff.mp h
      cases h
      exact .inr ⟨listed, hlisted, rfl⟩
  rw [if_neg hchildren] at h
  cases h
  exact .inl rfl

-- The readers call one another on the values inside a value, and so do the proofs.
mutual

theorem orderly_decodeListed {json : Json} {entry : Listed} (h : decodeListed json = .ok entry) :
    Devices.Orderly entry.device.children := by
  match json with
  | .object fields =>
    rw [decodeListed] at h
    obtain ⟨draft, hread, hfinish⟩ := bind_eq_ok_iff.mp h
    exact (orderly_readFields orderly_empty hread).finish hfinish
  | .array items =>
    rw [decodeListed] at h
    obtain ⟨draft, hread, hfinish⟩ := bind_eq_ok_iff.mp h
    split at hfinish
    · exact (orderly_readItems orderly_empty hread).finish hfinish
    · cases hfinish
  | .null | .bool _ | .number _ | .string _ =>
    rw [decodeListed] at h
    · cases h
    all_goals simp
termination_by (sizeOf json, 0)

theorem orderly_readFields {draft after : Draft} {fields : List (String × Json)}
    (orderly : draft.Orderly) (h : readFields draft fields = .ok after) : after.Orderly := by
  match fields with
  | [] =>
    rw [readFields] at h
    cases h
    exact orderly
  | (key, value) :: fields =>
    rw [readFields] at h
    obtain ⟨middle, hread, hrest⟩ := bind_eq_ok_iff.mp h
    exact orderly_readFields (orderly_readField orderly hread) hrest
termination_by (sizeOf fields, 0)

theorem orderly_readItems {draft after : Draft} {names : List String} {items : List Json}
    (orderly : draft.Orderly) (h : readItems draft names items = .ok after) : after.Orderly := by
  match names, items with
  | name :: names, item :: items =>
    rw [readItems] at h
    obtain ⟨middle, hread, hrest⟩ := bind_eq_ok_iff.mp h
    exact orderly_readItems (orderly_readField orderly hread) hrest
  | [], _ | _ :: _, [] =>
    rw [readItems] at h
    · cases h
      exact orderly
    all_goals simp
termination_by (sizeOf items, 0)

theorem orderly_readField {draft after : Draft} {key : String} {value : Json}
    (orderly : draft.Orderly) (h : readField draft key value = .ok after) : after.Orderly := by
  intro listed hlisted
  rcases children_of_readField h with hsame | ⟨listed', hdecoded, hchildren⟩
  · exact orderly listed (hsame ▸ hlisted)
  · cases hchildren.symm.trans hlisted
    exact orderly_decodeList hdecoded
termination_by (sizeOf value, 1)

theorem orderly_decodeList {json : Json} {listed : List Listed} (h : decodeList json = .ok listed) :
    ∀ entry ∈ listed, Devices.Orderly entry.device.children := by
  match json with
  | .array items =>
    rw [decodeList] at h
    exact orderly_decodeAll h
  | .null | .bool _ | .number _ | .string _ | .object _ =>
    rw [decodeList] at h
    · cases h
    all_goals simp
termination_by (sizeOf json, 0)

theorem orderly_decodeAll {items : List Json} {listed : List Listed}
    (h : decodeAll items = .ok listed) :
    ∀ entry ∈ listed, Devices.Orderly entry.device.children := by
  match items with
  | [] =>
    rw [decodeAll] at h
    cases h
    exact fun _ hmem => absurd hmem List.not_mem_nil
  | item :: items =>
    rw [decodeAll] at h
    obtain ⟨entry, hitem, h⟩ := bind_eq_ok_iff.mp h
    obtain ⟨listed, hitems, h⟩ := bind_eq_ok_iff.mp h
    cases h
    exact List.forall_mem_cons.mpr ⟨orderly_decodeListed hitem, orderly_decodeAll hitems⟩
termination_by (sizeOf items, 0)

end

theorem orderly_decodeReport {json : Json} {listed : List Listed}
    (h : decodeReport json = .ok listed) :
    ∀ entry ∈ listed, Devices.Orderly entry.device.children := by
  unfold decodeReport at h
  split at h
  · split at h
    · exact orderly_decodeList h
    · obtain ⟨_, -, h⟩ := bind_eq_ok_iff.mp h
      cases h
    · cases h
  · exact orderly_decodeList h
  · cases h

end Lsblk

/-- **The devices of a report stand under their names in key order, on every level.** -/
theorem Devices.orderly_of_ofLsblk {text : String} {devices : Devices}
    (h : Devices.ofLsblk text = .ok devices) : devices.Orderly := by
  unfold ofLsblk at h
  split at h
  · obtain ⟨listed, hlisted, h⟩ := bind_eq_ok_iff.mp h
    cases h
    exact .ofList fun entry hmem =>
      Lsblk.orderly_decodeReport hlisted entry (List.mem_filter.mp hmem).1
  · cases h

end ServerMigration
