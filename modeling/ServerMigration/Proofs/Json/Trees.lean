import ServerMigration.Json.Tree
import ServerMigration.Proofs.Json.Records

/-!
# Formats of records that hold records of their own type

Such a record is read like any other, where the field that holds others of its type is a
dictionary of what the reader itself reads.  How deeply a document is changed is counted: a change
of depth zero is none, and a change of the next depth may change the records below as deeply as
the depth before.

## Main definitions

* `amendedTo` : changes up to a depth.
* `Format.tree` : the format of such a record, changed to any depth.

## Main results

* `decodeTree_eq_ok_iff` : such a record is read by its fields.
* `Format.lawful_tree` : its format is lawful.
-/

namespace ServerMigration

section

variable {α : Type} {node : Record → Dict α → Decoded α} {names : List String} {below : String}

theorem forestIn_eq (fields : List (String × Json)) : forestIn node names below fields
    = match fields.lookup below with
      | some json => decodeForest node names below json
      | none => .ok [] := by
  induction fields with
  | nil => rw [forestIn]; rfl
  | cons field fields ih =>
    obtain ⟨key, value⟩ := field
    rw [forestIn, List.lookup_cons, ih]
    by_cases h : key = below
    · simp [h]
    · have hne : (below == key) = false := beq_false_of_ne fun heq => h heq.symm
      rw [if_neg h, hne]

theorem forestAt_eq (places : List String) (items : List Json) :
    forestAt node names below places items
      = match (places.zip items).lookup below with
        | some json => decodeForest node names below json
        | none => .ok [] := by
  induction places generalizing items with
  | nil => rw [forestAt]; rfl; nofun
  | cons name places ih =>
    cases items with
    | nil => rw [forestAt]; rfl; nofun
    | cons item items =>
      rw [forestAt, List.zip_cons_cons, List.lookup_cons, ih]
      by_cases h : name = below
      · simp [h]
      · have hne : (below == name) = false := beq_false_of_ne fun heq => h heq.symm
        rw [if_neg h, hne]

theorem decodeTrees_eq [JsonCodec α] (h : ∀ json, decode json = decodeTree node names below json)
    (fields : List (String × Json)) :
    decodeTrees node names below fields = decodeFields fields := by
  induction fields with
  | nil => rw [decodeTrees]; rfl
  | cons field fields ih =>
    obtain ⟨key, value⟩ := field
    rw [decodeTrees, decodeFields, ih, h]

theorem decodeForest_eq [JsonCodec α] (h : ∀ json, decode json = decodeTree node names below json)
    (json : Json) : decodeForest node names below json = decodeDict json := by
  cases json with
  | object fields => rw [decodeForest, decodeDict, decodeTrees_eq h]
  | _ =>
    rw [decodeForest, decodeDict]
    all_goals
      intro _ heq
      cases heq

/-- **Such a record is read by its fields.** -/
theorem decodeTree_eq_ok_iff [JsonCodec α]
    (h : ∀ json, decode json = decodeTree node names below json) (hbelow : below ∈ names)
    {json : Json} {v : α} : (decode json : Decoded α) = .ok v ↔
      ∃ record, Record.ofJson names json = .ok record ∧
        ∃ children, node record children = .ok v
          ∧ (record.dict below : Decoded (Dict α)) = .ok children := by
  have hdict : ∀ record : Record, (match record.fields.lookup below with
      | some json => decodeForest node names below json
      | none => .ok []) = record.dict below := by
    intro record
    rw [Record.dict, Record.dictOr]
    cases record.fields.lookup below with
    | none => rfl
    | some json => exact decodeForest_eq h json
  have hswap : ∀ {forest : Decoded (Dict α)} {record : Record},
      (forest >>= node record) = .ok v ↔ ∃ children, node record children = .ok v
        ∧ forest = .ok children := by
    intro forest record
    rw [bind_eq_ok_iff]
    exact exists_congr fun children => and_comm
  rw [h]
  cases json with
  | object fields =>
    rw [decodeTree, bind_eq_ok_iff]
    refine exists_congr fun record => and_congr_right fun hrecord => ?_
    obtain ⟨-, rfl⟩ := ofJson_object_eq_ok_iff.mp hrecord
    rw [hswap, forestIn_eq, ← lookup_filter hbelow, hdict ⟨_, false⟩]
  | array items =>
    rw [decodeTree, bind_eq_ok_iff]
    refine exists_congr fun record => and_congr_right fun hrecord => ?_
    obtain ⟨-, rfl⟩ := ofJson_array_eq_ok_iff.mp hrecord
    rw [hswap, forestAt_eq, hdict ⟨_, true⟩]
  | _ =>
    rw [decodeTree]
    · exact iff_of_false nofun fun ⟨_, hrecord, _⟩ => nomatch hrecord
    all_goals nofun

end

/-! ### Changes of trees -/

section

variable {ρ : Type}

/-- Changes of a record with records of its type below it, up to a depth.  The fields are given
with the changes that the records below may undergo. -/
def amendedTo (fields : (Json → Json → Prop) → List (RecordField ρ)) : Nat → Json → Json → Prop
  | 0 => Eq
  | depth + 1 => RecordAmended (fields (amendedTo fields depth))

/-- A record that holds dictionaries in key order on every level. -/
inductive SortedBelow (children : ρ → Dict ρ) : ρ → Prop
  | intro {v : ρ} (sorted : (children v).Sorted) (below : ∀ entry ∈ children v,
    SortedBelow children entry.2) : SortedBelow children v

/-- The format of such a record, changed to any depth. -/
def Format.tree [JsonCodec ρ] (children : ρ → Dict ρ)
    (fields : (Json → Json → Prop) → List (RecordField ρ)) : Format ρ where
  Proper := SortedBelow children
  Amended json json' := ∃ depth, amendedTo fields depth json json'

/-- The format of the records below a record. -/
def Format.below [JsonCodec ρ] (R : Json → Json → Prop) : Format ρ where
  Proper _ := True
  Amended := R

/-- The fields of such a record: those of its own, and the dictionary of the records below. -/
def treeFields [JsonCodec ρ] (own : List (RecordField ρ)) (name : String) (children : ρ → Dict ρ)
    (R : Json → Json → Prop) : List (RecordField ρ) :=
  own ++ [.defaulted name (Format.below R).dict children []]

@[simp] theorem Format.proper_tree [JsonCodec ρ] {children : ρ → Dict ρ}
    {fields : (Json → Json → Prop) → List (RecordField ρ)} {v : ρ} :
    (Format.tree children fields).Proper v ↔ SortedBelow children v :=
  Iff.rfl

variable [JsonCodec ρ] {own : List (RecordField ρ)} {name : String} {children : ρ → Dict ρ}

/-- **The format of such a record is lawful if those of its own fields are.** -/
theorem Format.lawful_tree
    (isRecord : ∀ R, (Format.record (treeFields own name children R)).IsRecord
      (treeFields own name children R))
    (lawful : ∀ f ∈ own, f.format.Lawful) (proper : ∀ f ∈ own, ∀ v, f.format.Proper (f.get v)) :
    (Format.tree children (treeFields own name children)).Lawful where
  plain v sorted := by
    induction sorted with
    | @intro v sorted below ih =>
      refine (isRecord Eq).plain (List.forall_mem_append.mpr ⟨fun f hf => ?_, ?_⟩)
      · exact (lawful f hf).plain _ (proper f hf v)
      · refine List.forall_mem_singleton.mpr (plain_dict fun w hw => ?_)
        obtain ⟨entry, hentry, rfl⟩ := List.mem_map.mp hw
        exact ih entry hentry
  decode_encode v sorted := by
    induction sorted with
    | @intro v sorted below ih =>
      refine (isRecord Eq).decode_encode (List.forall_mem_append.mpr ⟨fun f hf => ?_, ?_⟩)
      · exact (lawful f hf).decode_encode _ (proper f hf v)
      · refine List.forall_mem_singleton.mpr (decodeDict_encodeDict sorted fun w hw => ?_)
        obtain ⟨entry, hentry, rfl⟩ := List.mem_map.mp hw
        exact ih entry hentry
  same json := ⟨0, rfl⟩
  tolerant := by
    have htolerant (depth : Nat) : ∀ {json json' : Json} {v : ρ},
        amendedTo (treeFields own name children) depth json json' →
        (decode json : Decoded ρ) = .ok v → (decode json' : Decoded ρ) = .ok v := by
      induction depth with
      | zero =>
        rintro json json' v rfl
        exact id
      | succ depth ih =>
        intro json json' v amended
        refine (isRecord _).decode_amended (List.forall_mem_append.mpr ⟨fun f hf => ?_, ?_⟩) amended
        · exact (lawful f hf).tolerant
        · exact List.forall_mem_singleton.mpr (tolerant_dict fun amended => ih amended)
    rintro json json' v ⟨depth, amended⟩
    exact htolerant depth amended

end

end ServerMigration
