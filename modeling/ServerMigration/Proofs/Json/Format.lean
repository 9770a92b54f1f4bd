import ServerMigration.Json.Codec
import ServerMigration.Proofs.Dict
import ServerMigration.Proofs.Json.Lexing
import ServerMigration.Proofs.Results

/-!
# Formats of documents

A document is read back from what it is written as, and what is read does not change with the
fields that a record does not know and with those that have their default.  Both are told of a
format: a writer and a reader, together with the values that can be written and the changes that a
document may undergo.  Formats of lists, options and dictionaries are built from those of their
parts.

## Main definitions

* `Format`, `Format.Lawful` : formats, and what holds of them.
* `Format.text`, `Format.flag`, `Format.uint64` : the formats of what records hold in the end.
* `Format.list`, `Format.option`, `Format.dict` : the formats of containers.

## Main results

* `Format.lawful_list`, `Format.lawful_option`, `Format.lawful_dict` : containers of lawful parts.
-/

namespace ServerMigration

open Json (Plain PlainItems PlainFields)

/-- How documents of a type are written and read. -/
structure Format (α : Type) extends JsonCodec α where
  /-- The values that can occur. -/
  Proper : α → Prop
  /-- The changes that a document may undergo. -/
  Amended : Json → Json → Prop

/-! ### Reading items and values -/

/-- Changes of the items of an array, each by itself. -/
inductive ItemsAmended (R : Json → Json → Prop) : List Json → List Json → Prop
  | nil : ItemsAmended R [] []
  | cons {item item' : Json} {items items' : List Json} (h : R item item')
    (later : ItemsAmended R items items') : ItemsAmended R (item :: items) (item' :: items')

/-- Changes of the values of an object's fields, each by itself. -/
inductive ValuesAmended (R : Json → Json → Prop) :
    List (String × Json) → List (String × Json) → Prop
  | nil : ValuesAmended R [] []
  | cons {key : String} {value value' : Json} {fields fields' : List (String × Json)}
    (h : R value value') (later : ValuesAmended R fields fields') :
    ValuesAmended R ((key, value) :: fields) ((key, value') :: fields')

section

variable {α : Type} [JsonCodec α] {R : Json → Json → Prop}

theorem decodeItems_encode {items : List α} (h : ∀ a ∈ items, decode (encode a) = .ok a) :
    decodeItems (items.map encode) = .ok items := by
  induction items with
  | nil => rfl
  | cons a items ih =>
    obtain ⟨ha, hitems⟩ := List.forall_mem_cons.mp h
    rw [List.map_cons, decodeItems, ha, ih hitems]
    rfl

/-- A dictionary is read back if its values are. -/
theorem decodeDict_encodeDict {dict : Dict α} (sorted : dict.Sorted)
    (h : ∀ a ∈ dict.values, decode (encode a) = .ok a) :
    decodeDict (encodeDict dict) = .ok dict := by
  have hfields : decodeFields (dict.map fun entry => (entry.1, encode entry.2)) = .ok dict := by
    clear sorted
    induction dict with
    | nil => rfl
    | cons entry dict ih =>
      obtain ⟨ha, hdict⟩ := List.forall_mem_cons.mp h
      rw [List.map_cons, decodeFields, ha, ih hdict]
      rfl
  show decodeDict (.object (dict.map fun entry => (entry.1, encode entry.2))) = _
  rw [decodeDict, hfields]
  exact congrArg Except.ok sorted.ofList_eq

variable (h : ∀ {json json'} {a : α}, R json json' → decode json = .ok a → decode json' = .ok a)

include h

theorem decodeItems_amended {items items' : List Json} (amended : ItemsAmended R items items')
    {as : List α} (has : decodeItems items = .ok as) : decodeItems items' = .ok as := by
  induction amended generalizing as with
  | nil => exact has
  | cons hitem _ ih =>
    rw [decodeItems] at has ⊢
    obtain ⟨a, ha, has⟩ := bind_eq_ok_iff.mp has
    obtain ⟨as, hitems, has⟩ := bind_eq_ok_iff.mp has
    rw [h hitem ha, ih hitems]
    exact has

theorem decodeFields_amended {fields fields' : List (String × Json)}
    (amended : ValuesAmended R fields fields') {entries : List (String × α)}
    (hentries : decodeFields fields = .ok entries) : decodeFields fields' = .ok entries := by
  induction amended generalizing entries with
  | nil => exact hentries
  | cons hvalue _ ih =>
    rw [decodeFields] at hentries ⊢
    obtain ⟨a, ha, hentries⟩ := bind_eq_ok_iff.mp hentries
    obtain ⟨later, hlater, hentries⟩ := bind_eq_ok_iff.mp hentries
    rw [h hvalue ha, ih hlater]
    exact hentries

end

namespace Format

variable {α : Type}

/-- A changed document is read as before. -/
def Tolerant (F : Format α) : Prop :=
  ∀ {json json' a}, F.Amended json json' → F.decode json = .ok a → F.decode json' = .ok a

/-- **The laws of formats.** -/
structure Lawful (F : Format α) : Prop where
  /-- Numbers are written as whole numbers. -/
  plain : ∀ a, F.Proper a → Plain (F.encode a)
  /-- A document is read back. -/
  decode_encode : ∀ a, F.Proper a → F.decode (F.encode a) = .ok a
  /-- A document may stay as it is. -/
  same : ∀ json, F.Amended json json
  /-- A changed document is read as before. -/
  tolerant : F.Tolerant

/-- No value is written as `null`. -/
def NeverNull (F : Format α) : Prop := ∀ a, F.encode a ≠ .null

/-- The format of a type whose documents hold no records. -/
def scalar (α : Type) [JsonCodec α] (Proper : α → Prop) : Format α where
  Proper := Proper
  Amended := Eq

@[simp] theorem proper_scalar [JsonCodec α] {Proper : α → Prop} {a : α} :
    (scalar α Proper).Proper a ↔ Proper a :=
  Iff.rfl

theorem lawful_scalar [JsonCodec α] {Proper : α → Prop} (plain : ∀ a : α, Plain (encode a))
    (h : ∀ a : α, Proper a → decode (encode a) = .ok a) : (scalar α Proper).Lawful where
  plain a _ := plain a
  decode_encode := h
  same _ := rfl
  tolerant heq h := heq ▸ h

/-! ### Texts, flags and numbers -/

/-- Texts. -/
abbrev text : Format String := scalar String fun _ => True

/-- Flags. -/
abbrev flag : Format Bool := scalar Bool fun _ => True

/-- Numbers of sixteen bits. -/
abbrev uint16 : Format UInt16 := scalar UInt16 fun _ => True

/-- Numbers of thirty-two bits. -/
abbrev uint32 : Format UInt32 := scalar UInt32 fun _ => True

/-- Numbers of sixty-four bits. -/
abbrev uint64 : Format UInt64 := scalar UInt64 fun _ => True

@[simp] theorem neverNull_text : text.NeverNull := nofun

@[simp] theorem neverNull_uint32 : uint32.NeverNull := nofun

@[simp] theorem neverNull_uint64 : uint64.NeverNull := nofun

@[simp] theorem lawful_text : text.Lawful :=
  lawful_scalar (fun _ => trivial) fun _ _ => rfl

@[simp] theorem lawful_flag : flag.Lawful :=
  lawful_scalar (fun _ => trivial) fun _ _ => rfl

theorem natBelow_natCast {limit n : Nat} (h : n < limit) :
    (Json.number (.whole n)).natBelow limit = .ok n := by
  have hbounds : (0 : Int) ≤ n ∧ (n : Int) < limit := ⟨Int.natCast_nonneg n, Int.ofNat_lt.mpr h⟩
  rw [Json.natBelow, Json.whole?, Option.bind_some, if_pos hbounds]
  rfl

@[simp] theorem lawful_uint16 : uint16.Lawful := by
  refine lawful_scalar (fun n => ?_) fun n _ => ?_
  · exact ⟨Int.natCast_nonneg _, Int.ofNat_lt.mpr (Nat.lt_trans n.toNat_lt (by decide))⟩
  · show (return (← (Json.number (.whole n.toNat)).natBelow UInt16.size).toUInt16 : Decoded _) = _
    rw [natBelow_natCast n.toNat_lt]
    exact congrArg Except.ok UInt16.ofNat_toNat

@[simp] theorem lawful_uint32 : uint32.Lawful := by
  refine lawful_scalar (fun n => ?_) fun n _ => ?_
  · exact ⟨Int.natCast_nonneg _, Int.ofNat_lt.mpr (Nat.lt_trans n.toNat_lt (by decide))⟩
  · show (return (← (Json.number (.whole n.toNat)).natBelow UInt32.size).toUInt32 : Decoded _) = _
    rw [natBelow_natCast n.toNat_lt]
    exact congrArg Except.ok UInt32.ofNat_toNat

@[simp] theorem lawful_uint64 : uint64.Lawful := by
  refine lawful_scalar (fun n => ?_) fun n _ => ?_
  · exact ⟨Int.natCast_nonneg _, Int.ofNat_lt.mpr n.toNat_lt⟩
  · show (return (← (Json.number (.whole n.toNat)).natBelow UInt64.size).toUInt64 : Decoded _) = _
    rw [natBelow_natCast n.toNat_lt]
    exact congrArg Except.ok UInt64.ofNat_toNat

/-! ### Lists, options and dictionaries -/

/-- Changes of an array. -/
inductive ArrayAmended (R : Json → Json → Prop) : Json → Json → Prop
  | same (json : Json) : ArrayAmended R json json
  | items {items items' : List Json} (h : ItemsAmended R items items') :
    ArrayAmended R (.array items) (.array items')

/-- Changes of an object that is a dictionary: of its values, but not of its keys. -/
inductive DictAmended (R : Json → Json → Prop) : Json → Json → Prop
  | same (json : Json) : DictAmended R json json
  | values {fields fields' : List (String × Json)} (h : ValuesAmended R fields fields') :
    DictAmended R (.object fields) (.object fields')

/-- Changes of a value that may be `null` instead. -/
inductive OptionAmended (R : Json → Json → Prop) : Json → Json → Prop
  | same (json : Json) : OptionAmended R json json
  | value {json json' : Json} (h : R json json') (hnull : json ≠ .null) (hnull' : json' ≠ .null) :
    OptionAmended R json json'

variable (F : Format α)

/-- Lists of such documents. -/
def list : Format (List α) where
  toJsonCodec := @instJsonCodecList α F.toJsonCodec
  Proper items := ∀ a ∈ items, F.Proper a
  Amended := ArrayAmended F.Amended

/-- Such documents or nothing. -/
def option : Format (Option α) where
  toJsonCodec := @instJsonCodecOption α F.toJsonCodec
  Proper a? := ∀ a ∈ a?, F.Proper a
  Amended := OptionAmended F.Amended

/-- Dictionaries of such documents. -/
def dict : Format (Dict α) where
  encode := @encodeDict α F.toJsonCodec
  decode := @decodeDict α F.toJsonCodec
  Proper dict := dict.Sorted ∧ ∀ a ∈ dict.values, F.Proper a
  Amended := DictAmended F.Amended

variable {F}

@[simp] theorem proper_list {items : List α} : F.list.Proper items ↔ ∀ a ∈ items, F.Proper a :=
  Iff.rfl

@[simp] theorem proper_option {a? : Option α} : F.option.Proper a? ↔ ∀ a ∈ a?, F.Proper a :=
  Iff.rfl

@[simp] theorem proper_dict {dict : Dict α} :
    F.dict.Proper dict ↔ dict.Sorted ∧ ∀ a ∈ dict.values, F.Proper a :=
  Iff.rfl

theorem plain_list {items : List α} (h : ∀ a ∈ items, Plain (F.encode a)) :
    Plain (F.list.encode items) := by
  show PlainItems (items.map F.encode)
  exact Json.plainItems_iff.mpr (List.forall_mem_map.mpr h)

theorem plain_dict {dict : Dict α} (h : ∀ a ∈ dict.values, Plain (F.encode a)) :
    Plain (F.dict.encode dict) := by
  show PlainFields (dict.map fun entry => (entry.1, F.encode entry.2))
  exact Json.plainFields_iff.mpr
    (List.forall_mem_map.mpr fun entry hentry => h entry.2 (List.mem_map_of_mem hentry))

@[simp] theorem lawful_list (lawful : F.Lawful) : F.list.Lawful where
  plain _ proper := plain_list fun a ha => lawful.plain a (proper a ha)
  decode_encode items proper := @decodeItems_encode α F.toJsonCodec items fun a ha =>
    lawful.decode_encode a (proper a ha)
  same := .same
  tolerant amended h := by
    cases amended with
    | same => exact h
    | items hitems => exact @decodeItems_amended α F.toJsonCodec _ lawful.tolerant _ _ hitems _ h

theorem tolerant_dict (tolerant : F.Tolerant) : F.dict.Tolerant := by
  intro json json' dict amended h
  cases amended with
  | same => exact h
  | values hvalues =>
    obtain ⟨entries, hentries, hdict⟩ := bind_eq_ok_iff.mp h
    have hentries := @decodeFields_amended α F.toJsonCodec _ tolerant _ _ hvalues _ hentries
    exact bind_eq_ok_iff.mpr ⟨entries, hentries, hdict⟩

@[simp] theorem neverNull_dict : F.dict.NeverNull := nofun

variable (F) in
/-- An optional dictionary is written like any other option. -/
theorem encode_option_dict (dict? : Option (Dict α)) :
    F.dict.option.encode dict? = @encodeDict? α F.toJsonCodec dict? := by
  cases dict? <;> rfl

@[simp] theorem lawful_dict (lawful : F.Lawful) : F.dict.Lawful where
  plain _ proper := plain_dict fun a ha => lawful.plain a (proper.2 a ha)
  decode_encode dict proper := @decodeDict_encodeDict α F.toJsonCodec dict proper.1 fun a ha =>
    lawful.decode_encode a (proper.2 a ha)
  same := .same
  tolerant := tolerant_dict lawful.tolerant

theorem decode_option_of_ne {json : Json} (hnull : json ≠ .null) {a? : Option α} :
    F.option.decode json = .ok a? ↔ ∃ a, F.decode json = .ok a ∧ a? = some a := by
  have hdecode : F.option.decode json = (return some (← F.decode json)) := by
    cases json with
    | null => exact absurd rfl hnull
    | _ => rfl
  rw [hdecode, bind_eq_ok_iff]
  simp only [pure, Except.pure, Except.ok.injEq, eq_comm]

/-- An option is read back where a value is not written as `null`. -/
@[simp] theorem lawful_option (lawful : F.Lawful) (hnull : F.NeverNull) : F.option.Lawful where
  plain := by
    rintro (_ | a) proper
    · trivial
    · exact lawful.plain a (proper a rfl)
  decode_encode := by
    rintro (_ | a) proper
    · rfl
    · exact (decode_option_of_ne (hnull a)).mpr ⟨a, lawful.decode_encode a (proper a rfl), rfl⟩
  same := .same
  tolerant amended h := by
    cases amended with
    | same => exact h
    | value hvalue hjson hjson' =>
      obtain ⟨a, ha, rfl⟩ := (decode_option_of_ne hjson).mp h
      exact (decode_option_of_ne hjson').mpr ⟨a, lawful.tolerant hvalue ha, rfl⟩

end Format

end ServerMigration
