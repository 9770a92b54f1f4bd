import Mathlib.Data.List.Nodup
import ServerMigration.Proofs.Json.Format

/-!
# Formats of records

A record is described by its fields: their names, the formats of what they hold, how that is taken
from the record, and their defaults.  It is written as an object with all its fields in order, and
it is read from its fields one by one.  That is all that has to be shown of a record; the laws of
its format follow from those of its fields.

## Main definitions

* `RecordField` : a field of a record.
* `RecordAmended` : records with unknown fields added and defaults left out.
* `Format.record` : the format of a record.
* `Format.IsRecord` : a record is written and read by its fields.

## Main results

* `RecordAmended.add`, `RecordAmended.remove` : a field added, and one left out.
* `Format.IsRecord.lawful` : a record of lawful fields is lawful.
-/

namespace ServerMigration

/-- A field of a record. -/
structure RecordField (ρ : Type) where
  /-- Its name. -/
  name : String
  /-- The type of what it holds. -/
  Content : Type
  /-- The format of what it holds. -/
  format : Format Content
  /-- What it holds. -/
  get : ρ → Content
  /-- What it holds if it is not there; none if it has to be there. -/
  default : Option Content

namespace RecordField

variable {ρ α : Type}

/-- A field that has to be there. -/
def required (name : String) (format : Format α) (get : ρ → α) : RecordField ρ :=
  ⟨name, α, format, get, none⟩

/-- A field with a default. -/
def defaulted (name : String) (format : Format α) (get : ρ → α) (default : α) : RecordField ρ :=
  ⟨name, α, format, get, some default⟩

/-- Writes the field of a record. -/
def write (f : RecordField ρ) (v : ρ) : String × Json := (f.name, f.format.encode (f.get v))

/-- Reads a field of which a record has this value, if it has one. -/
def readFrom (f : RecordField ρ) : Option Json → Decoded f.Content
  | some json => f.format.decode json
  | none => match f.default with
    | some value => .ok value
    | none => .error .mismatch

variable {name : String} {format : Format α} {get : ρ → α}

@[simp] theorem lawful_required : (required name format get).format.Lawful ↔ format.Lawful :=
  Iff.rfl

@[simp] theorem proper_required {v : ρ} :
    (required name format get).format.Proper ((required name format get).get v)
      ↔ format.Proper (get v) :=
  Iff.rfl

@[simp] theorem proper_defaulted {default : α} {v : ρ} :
    (defaulted name format get default).format.Proper ((defaulted name format get default).get v)
      ↔ format.Proper (get v) :=
  Iff.rfl

@[simp] theorem lawful_defaulted {default : α} :
    (defaulted name format get default).format.Lawful ↔ format.Lawful :=
  Iff.rfl

/-- Reads the field. -/
def read (f : RecordField ρ) (record : Record) : Decoded f.Content :=
  f.readFrom (record.fields.lookup f.name)

/-- An optional dictionary is read like any other option. -/
theorem read_dict? {F : Format α} {get : ρ → Option (Dict α)} (record : Record) :
    (defaulted name F.dict.option get none).read record
      = @Record.dict? α F.toJsonCodec record name := by
  show (match record.fields.lookup name with
    | some json => F.dict.option.decode json
    | none => .ok none) = _
  rw [@Record.dict?.eq_def α F.toJsonCodec]
  cases record.fields.lookup name with
  | none => rfl
  | some json => cases json <;> rfl

end RecordField

/-! ### Amended records -/

section

variable {ρ : Type}

/-- Changes of the fields of an object that is a record: fields that the record does not have may
be added, and fields with their default may be left out.  What the other fields hold may change as
their formats say. -/
inductive FieldsAmended (fields : List (RecordField ρ)) :
    List (String × Json) → List (String × Json) → Prop
  | nil : FieldsAmended fields [] []
  | kept {entry : String × Json} {entries entries' : List (String × Json)}
    (later : FieldsAmended fields entries entries') :
    FieldsAmended fields (entry :: entries) (entry :: entries')
  | changed {f : RecordField ρ} {json json' : Json} {entries entries' : List (String × Json)}
    (hf : f ∈ fields) (h : f.format.Amended json json')
    (later : FieldsAmended fields entries entries') :
    FieldsAmended fields ((f.name, json) :: entries) ((f.name, json') :: entries')
  | added {key : String} {json : Json} {entries entries' : List (String × Json)}
    (unknown : key ∉ fields.map RecordField.name) (later : FieldsAmended fields entries entries') :
    FieldsAmended fields entries ((key, json) :: entries')
  | removed {f : RecordField ρ} {json : Json} {value : f.Content}
    {entries entries' : List (String × Json)}
    (hf : f ∈ fields) (hdefault : f.default = some value) (h : f.format.decode json = .ok value)
    (later : FieldsAmended fields entries entries') :
    FieldsAmended fields ((f.name, json) :: entries) entries'

theorem FieldsAmended.refl {fields : List (RecordField ρ)} (entries : List (String × Json)) :
    FieldsAmended fields entries entries := by
  induction entries with
  | nil => exact .nil
  | cons entry entries ih => exact .kept ih

/-- Changes of the fields of a record that is written as an array: the last ones may be left out if
they have their defaults. -/
inductive PlacesAmended : List (RecordField ρ) → List Json → List Json → Prop
  | nil {fields : List (RecordField ρ)} : PlacesAmended fields [] []
  | cons {f : RecordField ρ} {fields : List (RecordField ρ)} {json json' : Json}
    {items items' : List Json}
    (h : f.format.Amended json json') (later : PlacesAmended fields items items') :
    PlacesAmended (f :: fields) (json :: items) (json' :: items')
  | removed {f : RecordField ρ} {fields : List (RecordField ρ)} {json : Json} {value : f.Content}
    {items : List Json} (hdefault : f.default = some value) (h : f.format.decode json = .ok value)
    (later : PlacesAmended fields items []) : PlacesAmended (f :: fields) (json :: items) []

/-- Changes of a record. -/
inductive RecordAmended (fields : List (RecordField ρ)) : Json → Json → Prop
  | same (json : Json) : RecordAmended fields json json
  | object {entries entries' : List (String × Json)} (h : FieldsAmended fields entries entries') :
    RecordAmended fields (.object entries) (.object entries')
  | array {items items' : List Json} (h : PlacesAmended fields items items') :
    RecordAmended fields (.array items) (.array items')

/-- A record stays the same record when a field is added that it does not have. -/
theorem RecordAmended.add {fields : List (RecordField ρ)} {key : String}
    (unknown : key ∉ fields.map RecordField.name) (json : Json)
    (earlier later : List (String × Json)) :
    RecordAmended fields (.object (earlier ++ later))
      (.object (earlier ++ (key, json) :: later)) := by
  refine .object ?_
  induction earlier with
  | nil => exact .added unknown (FieldsAmended.refl later)
  | cons entry earlier ih => exact .kept ih

/-- A record stays the same record when a field is removed that has its default. -/
theorem RecordAmended.remove {fields : List (RecordField ρ)} {f : RecordField ρ} (hf : f ∈ fields)
    {value : f.Content} (hdefault : f.default = some value) {json : Json}
    (h : f.format.decode json = .ok value) (earlier later : List (String × Json)) :
    RecordAmended fields (.object (earlier ++ (f.name, json) :: later))
      (.object (earlier ++ later)) := by
  refine .object ?_
  induction earlier with
  | nil => exact .removed hf hdefault h (FieldsAmended.refl later)
  | cons entry earlier ih => exact .kept ih

/-- What a field holds in two versions of a record: the same but for a change of its format, or
its default in one and nothing in the other. -/
inductive RecordField.Agrees (f : RecordField ρ) : Option Json → Option Json → Prop
  | same (json? : Option Json) : f.Agrees json? json?
  | changed {json json' : Json} (h : f.format.Amended json json') :
    f.Agrees (some json) (some json')
  | removed {json : Json} {value : f.Content} (hdefault : f.default = some value)
    (h : f.format.decode json = .ok value) : f.Agrees (some json) none

theorem RecordField.Agrees.readFrom {f : RecordField ρ} {json? json?' : Option Json}
    (agrees : f.Agrees json? json?') (tolerant : f.format.Tolerant) {value : f.Content}
    (h : f.readFrom json? = .ok value) : f.readFrom json?' = .ok value := by
  cases agrees with
  | same => exact h
  | changed amended => exact tolerant amended h
  | removed hdefault hvalue =>
    obtain rfl := Except.ok.inj (hvalue.symm.trans h)
    rw [RecordField.readFrom, hdefault]

/-- The keys of those fields that a record has. -/
def knownKeys (fields : List (RecordField ρ)) (entries : List (String × Json)) : List String :=
  (entries.filter fun (key, _) => key ∈ fields.map RecordField.name).map (·.1)

variable {fields : List (RecordField ρ)} {key : String} {json : Json}
  {entries entries' : List (String × Json)}

theorem knownKeys_cons_of_mem (h : key ∈ fields.map RecordField.name) :
    knownKeys fields ((key, json) :: entries) = key :: knownKeys fields entries := by
  rw [knownKeys, List.filter_cons_of_pos (by simpa using h)]
  rfl

theorem knownKeys_cons_of_notMem (h : key ∉ fields.map RecordField.name) :
    knownKeys fields ((key, json) :: entries) = knownKeys fields entries := by
  rw [knownKeys, List.filter_cons_of_neg (by simpa using h)]
  rfl

theorem RecordField.name_mem {f : RecordField ρ} (hf : f ∈ fields) :
    f.name ∈ fields.map RecordField.name :=
  List.mem_map_of_mem hf

theorem lookup_eq_none_of_notMem_knownKeys (hkey : key ∈ fields.map RecordField.name)
    (h : key ∉ knownKeys fields entries) : entries.lookup key = none := by
  refine List.lookup_eq_none_iff.mpr fun entry hentry => ?_
  refine bne_iff_ne.mpr fun heq => h (List.mem_map.mpr ⟨entry, ?_, heq.symm⟩)
  exact List.mem_filter.mpr ⟨hentry, by simpa [← heq] using hkey⟩

theorem lookup_filter {names : List String} (h : key ∈ names) (entries : List (String × Json)) :
    (entries.filter fun (key, _) => key ∈ names).lookup key = entries.lookup key := by
  induction entries with
  | nil => rfl
  | cons entry entries ih =>
    obtain ⟨other, json⟩ := entry
    rw [List.lookup_cons]
    by_cases hother : other ∈ names
    · rw [List.filter_cons_of_pos (by simpa using hother), List.lookup_cons, ih]
    · rw [List.filter_cons_of_neg (by simpa using hother), ih]
      split
      · next heq => exact absurd (beq_iff_eq.mp heq ▸ h) hother
      · rfl

namespace FieldsAmended

/-- No field comes in twice by a change. -/
theorem knownKeys_sublist (amended : FieldsAmended fields entries entries') :
    (knownKeys fields entries').Sublist (knownKeys fields entries) := by
  induction amended with
  | nil => exact .refl _
  | @kept entry _ _ _ ih =>
    obtain ⟨key, json⟩ := entry
    by_cases hkey : key ∈ fields.map RecordField.name
    · rw [knownKeys_cons_of_mem hkey, knownKeys_cons_of_mem hkey]
      exact ih.cons_cons key
    · rw [knownKeys_cons_of_notMem hkey, knownKeys_cons_of_notMem hkey]
      exact ih
  | changed hf _ _ ih =>
    rw [knownKeys_cons_of_mem (RecordField.name_mem hf),
      knownKeys_cons_of_mem (RecordField.name_mem hf)]
    exact ih.cons_cons _
  | added unknown _ ih =>
    rw [knownKeys_cons_of_notMem unknown]
    exact ih
  | removed hf _ _ _ ih =>
    rw [knownKeys_cons_of_mem (RecordField.name_mem hf)]
    exact ih.cons _

theorem nodup_of_cons (h : (knownKeys fields ((key, json) :: entries)).Nodup) :
    (knownKeys fields entries).Nodup := by
  by_cases hkey : key ∈ fields.map RecordField.name
  · rw [knownKeys_cons_of_mem hkey] at h
    exact h.of_cons
  · rwa [knownKeys_cons_of_notMem hkey] at h

/-- **What a field holds is changed as the field allows.** -/
theorem agrees (amended : FieldsAmended fields entries entries')
    (names : (fields.map RecordField.name).Nodup) (distinct : (knownKeys fields entries).Nodup)
    {f : RecordField ρ} (hf : f ∈ fields) :
    f.Agrees (entries.lookup f.name) (entries'.lookup f.name) := by
  have hsame : ∀ {g : RecordField ρ}, g ∈ fields → f.name = g.name → f = g := fun hg hname =>
    List.inj_on_of_nodup_map names hf hg hname
  induction amended with
  | nil => exact .same none
  | @kept entry _ _ _ ih =>
    obtain ⟨key, json⟩ := entry
    rw [List.lookup_cons, List.lookup_cons]
    split
    · exact .same _
    · exact ih (nodup_of_cons distinct)
  | changed hg amended _ ih =>
    rw [List.lookup_cons, List.lookup_cons]
    split
    · next hname =>
      obtain rfl := hsame hg (by simpa using hname)
      exact .changed amended
    · exact ih (nodup_of_cons distinct)
  | added unknown _ ih =>
    rw [List.lookup_cons]
    split
    · next hname => exact absurd (beq_iff_eq.mp hname ▸ RecordField.name_mem hf) unknown
    · exact ih distinct
  | removed hg hdefault hvalue later ih =>
    rw [List.lookup_cons]
    split
    · next hname =>
      obtain rfl := hsame hg (by simpa using hname)
      rw [knownKeys_cons_of_mem (RecordField.name_mem hf)] at distinct
      have hgone := lookup_eq_none_of_notMem_knownKeys (RecordField.name_mem hf) fun hmem =>
        (List.nodup_cons.mp distinct).1 (later.knownKeys_sublist.subset hmem)
      rw [hgone]
      exact .removed hdefault hvalue
    · exact ih (nodup_of_cons distinct)

end FieldsAmended

/-- What a field holds in a record that is written as an array is changed as the field allows. -/
theorem PlacesAmended.agrees {items items' : List Json}
    (amended : PlacesAmended fields items items') (names : (fields.map RecordField.name).Nodup)
    {f : RecordField ρ} (hf : f ∈ fields) :
    f.Agrees (((fields.map RecordField.name).zip items).lookup f.name)
      (((fields.map RecordField.name).zip items').lookup f.name) := by
  induction amended with
  | nil => exact .same _
  | cons h _ ih =>
    rw [List.map_cons, List.zip_cons_cons, List.zip_cons_cons, List.lookup_cons, List.lookup_cons]
    obtain ⟨hfirst, hrest⟩ := List.nodup_cons.mp names
    rcases List.mem_cons.mp hf with rfl | hf
    · rw [beq_self_eq_true]
      exact .changed h
    · split
      · next hname => exact absurd (beq_iff_eq.mp hname ▸ RecordField.name_mem hf) hfirst
      · exact ih hrest hf
  | removed hdefault h _ ih =>
    rw [List.map_cons, List.zip_cons_cons, List.zip_nil_right, List.lookup_cons]
    obtain ⟨hfirst, hrest⟩ := List.nodup_cons.mp names
    rcases List.mem_cons.mp hf with rfl | hf
    · rw [beq_self_eq_true]
      exact .removed hdefault h
    · split
      · next hname => exact absurd (beq_iff_eq.mp hname ▸ RecordField.name_mem hf) hfirst
      · simpa using ih hrest hf

theorem PlacesAmended.length_le {items items' : List Json}
    (amended : PlacesAmended fields items items') : items'.length ≤ items.length := by
  induction amended with
  | nil => exact Nat.le_refl _
  | cons _ _ ih => exact Nat.succ_le_succ ih
  | removed => exact Nat.zero_le _

/-- A record that is written as an object has the known ones of its fields. -/
theorem ofJson_object_eq_ok_iff {names : List String} {record : Record} :
    Record.ofJson names (.object entries) = .ok record ↔
      ((entries.filter fun (key, _) => key ∈ names).map (·.1)).Nodup
        ∧ record = ⟨entries.filter fun (key, _) => key ∈ names, false⟩ := by
  rw [Record.ofJson]
  split
  · next distinct => simp [distinct, eq_comm]
  · next distinct => simp [distinct]

/-- A record that is written as an array has its first fields. -/
theorem ofJson_array_eq_ok_iff {names : List String} {items : List Json} {record : Record} :
    Record.ofJson names (.array items) = .ok record ↔
      items.length ≤ names.length ∧ record = ⟨names.zip items, true⟩ := by
  rw [Record.ofJson]
  split
  · next hlength => simp [hlength, eq_comm]
  · next hlength => simp [hlength]

/-- **A changed record is read field by field as before.** -/
theorem RecordAmended.ofJson {json' : Json} (amended : RecordAmended fields json json')
    (names : (fields.map RecordField.name).Nodup) {record : Record}
    (h : Record.ofJson (fields.map RecordField.name) json = .ok record) :
    ∃ record', Record.ofJson (fields.map RecordField.name) json' = .ok record'
      ∧ ∀ f ∈ fields, f.Agrees (record.fields.lookup f.name) (record'.fields.lookup f.name) := by
  cases amended with
  | same => exact ⟨record, h, fun f _ => .same _⟩
  | object amended =>
    obtain ⟨distinct, rfl⟩ := ofJson_object_eq_ok_iff.mp h
    refine ⟨_, ofJson_object_eq_ok_iff.mpr ⟨amended.knownKeys_sublist.nodup distinct, rfl⟩,
      fun f hf => ?_⟩
    rw [lookup_filter (RecordField.name_mem hf), lookup_filter (RecordField.name_mem hf)]
    exact amended.agrees names distinct hf
  | array amended =>
    obtain ⟨hlength, rfl⟩ := ofJson_array_eq_ok_iff.mp h
    have hlength := Nat.le_trans amended.length_le hlength
    exact ⟨_, ofJson_array_eq_ok_iff.mpr ⟨hlength, rfl⟩, fun f hf => amended.agrees names hf⟩

end

/-! ### Lawful records -/

section

variable {ρ : Type}

/-- The format of a record with these fields. -/
def Format.record [JsonCodec ρ] (fields : List (RecordField ρ)) : Format ρ where
  Proper v := ∀ f ∈ fields, f.format.Proper (f.get v)
  Amended := RecordAmended fields

@[simp] theorem Format.proper_record [JsonCodec ρ] {fields : List (RecordField ρ)} {v : ρ} :
    (Format.record fields).Proper v ↔ ∀ f ∈ fields, f.format.Proper (f.get v) :=
  Iff.rfl

theorem Format.decode_record [JsonCodec ρ] (fields : List (RecordField ρ)) (json : Json) :
    (Format.record fields).decode json = decode json := rfl

/-- A record is written and read by its fields. -/
structure Format.IsRecord (F : Format ρ) (fields : List (RecordField ρ)) : Prop where
  /-- No two fields have the same name. -/
  names : (fields.map RecordField.name).Nodup
  /-- All fields are written, in order. -/
  encode_eq : ∀ v, F.encode v = .object (fields.map (·.write v))
  /-- Every field is read by itself. -/
  decode_eq_ok_iff : ∀ json v, F.decode json = .ok v ↔
    ∃ record, Record.ofJson (fields.map RecordField.name) json = .ok record
      ∧ ∀ f ∈ fields, f.read record = .ok (f.get v)

variable {F : Format ρ} {fields : List (RecordField ρ)} (isRecord : F.IsRecord fields)

namespace Format.IsRecord

include isRecord

theorem neverNull : F.NeverNull := by
  intro v
  rw [isRecord.encode_eq]
  nofun

theorem plain {v : ρ} (h : ∀ f ∈ fields, (f.format.encode (f.get v)).Plain) :
    (F.encode v).Plain := by
  rw [isRecord.encode_eq]
  show Json.PlainFields _
  exact Json.plainFields_iff.mpr (List.forall_mem_map.mpr h)

/-- A written record is read field by field. -/
theorem ofJson_encode (v : ρ) : ∃ record,
    Record.ofJson (fields.map RecordField.name) (F.encode v) = .ok record
      ∧ ∀ f ∈ fields, record.fields.lookup f.name = some (f.format.encode (f.get v)) := by
  have hkeys : (fields.map (·.write v)).map (·.1) = fields.map RecordField.name := by
    rw [List.map_map]
    rfl
  have hknown : (fields.map (·.write v)).filter (fun (key, _) => key ∈ fields.map RecordField.name)
      = fields.map (·.write v) := by
    refine List.filter_eq_self.mpr fun entry hentry => ?_
    rw [decide_eq_true_eq, ← hkeys]
    exact List.mem_map_of_mem hentry
  rw [isRecord.encode_eq, Record.ofJson, hknown, hkeys]
  refine ⟨_, if_pos isRecord.names, fun f hf => ?_⟩
  have names := isRecord.names
  clear hkeys hknown isRecord
  induction fields with
  | nil => simp at hf
  | cons g fields ih =>
    obtain ⟨hfirst, hrest⟩ := List.nodup_cons.mp names
    show List.lookup f.name ((g.name, _) :: fields.map (·.write v)) = _
    rw [List.lookup_cons]
    rcases List.mem_cons.mp hf with rfl | hf
    · rw [beq_self_eq_true]
    · have hne : (f.name == g.name) = false :=
        beq_false_of_ne fun heq => hfirst (heq ▸ RecordField.name_mem hf)
      rw [hne]
      exact ih hf hrest

/-- **A record is read back if its fields are.** -/
theorem decode_encode {v : ρ}
    (h : ∀ f ∈ fields, f.format.decode (f.format.encode (f.get v)) = .ok (f.get v)) :
    F.decode (F.encode v) = .ok v := by
  obtain ⟨record, hrecord, hfields⟩ := isRecord.ofJson_encode v
  refine (isRecord.decode_eq_ok_iff _ _).mpr ⟨record, hrecord, fun f hf => ?_⟩
  rw [RecordField.read, hfields f hf, RecordField.readFrom, h f hf]

/-- **A changed record is read as before if its fields are.** -/
theorem decode_amended (h : ∀ f ∈ fields, f.format.Tolerant) {json json' : Json}
    (amended : RecordAmended fields json json') {v : ρ} (hv : F.decode json = .ok v) :
    F.decode json' = .ok v := by
  obtain ⟨record, hrecord, hfields⟩ := (isRecord.decode_eq_ok_iff _ _).mp hv
  obtain ⟨record', hrecord', hagrees⟩ := amended.ofJson isRecord.names hrecord
  refine (isRecord.decode_eq_ok_iff _ _).mpr ⟨record', hrecord', fun f hf => ?_⟩
  exact (hagrees f hf).readFrom (h f hf) (hfields f hf)

end Format.IsRecord

/-- **A record of lawful fields is lawful.** -/
theorem Format.IsRecord.lawful [JsonCodec ρ] (isRecord : (Format.record fields).IsRecord fields)
    (h : ∀ f ∈ fields, f.format.Lawful) : (Format.record fields).Lawful where
  plain _ proper := isRecord.plain fun f hf => (h f hf).plain _ (proper f hf)
  decode_encode _ proper :=
    isRecord.decode_encode fun f hf => (h f hf).decode_encode _ (proper f hf)
  same := .same
  tolerant amended hv := isRecord.decode_amended (fun f hf => (h f hf).tolerant) amended hv

end

end ServerMigration
