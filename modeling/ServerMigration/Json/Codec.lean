import ServerMigration.Json.Basic

/-!
# Documents as JSON

A document type is read from and written to JSON.  A record is written as an object with all its
fields in order.  It is read from an object, whose unknown fields are ignored, or from an array
with the fields in order; a field with a default may be missing, but it may be `null` only if its
type allows that.

## Main definitions

* `DecodeError` : why a value is no document of the wanted type.
* `JsonCodec` : types that are read and written.
* `Record` : the fields of a record while it is read.
* `Record.field`, `Record.fieldOr`, `Record.field?` : its required, defaulted and optional fields.
-/

namespace ServerMigration

/-- Why a JSON value is no document of the wanted type. -/
inductive DecodeError
  /-- A value has another shape, a field is missing or double, or a number is out of range. -/
  | mismatch
  /-- A device size is not what a size may be; the text says why. -/
  | deviceSize (reason : String)
  deriving DecidableEq, Repr, Inhabited

/-- What reading a document gives. -/
abbrev Decoded (α : Type) : Type := Except DecodeError α

/-- Types whose values are read from and written to JSON. -/
class JsonCodec (α : Type) where
  /-- Writes a value. -/
  encode : α → Json
  /-- Reads a value. -/
  decode : Json → Decoded α

export JsonCodec (encode decode)

namespace Json

/-- A value of some shape, or a mismatch. -/
def expect {α : Type} : Option α → Decoded α
  | some a => .ok a
  | none => .error .mismatch

/-- The whole number that a value is. -/
def whole? : Json → Option Int
  | .number (.whole n) => some n
  | _ => none

/-- The natural number below a limit that a value is. -/
def natBelow (limit : Nat) (json : Json) : Decoded Nat :=
  expect <| (json.whole?).bind fun n => if 0 ≤ n ∧ n < limit then some n.toNat else none

end Json

instance : JsonCodec String where
  encode := .string
  decode
    | .string s => .ok s
    | _ => .error .mismatch

instance : JsonCodec Bool where
  encode := .bool
  decode
    | .bool b => .ok b
    | _ => .error .mismatch

instance : JsonCodec UInt8 where
  encode n := .number (.whole n.toNat)
  decode json := return (← json.natBelow UInt8.size).toUInt8

instance : JsonCodec UInt16 where
  encode n := .number (.whole n.toNat)
  decode json := return (← json.natBelow UInt16.size).toUInt16

instance : JsonCodec UInt32 where
  encode n := .number (.whole n.toNat)
  decode json := return (← json.natBelow UInt32.size).toUInt32

instance : JsonCodec UInt64 where
  encode n := .number (.whole n.toNat)
  decode json := return (← json.natBelow UInt64.size).toUInt64

instance {α : Type} [JsonCodec α] : JsonCodec (Option α) where
  encode
    | none => .null
    | some a => encode a
  decode
    | .null => .ok none
    | json => return some (← decode json)

/-- Reads every item of a list. -/
def decodeItems {α : Type} [JsonCodec α] : List Json → Decoded (List α)
  | [] => .ok []
  | item :: items => return (← decode item) :: (← decodeItems items)

instance {α : Type} [JsonCodec α] : JsonCodec (List α) where
  encode items := .array (items.map encode)
  decode
    | .array items => decodeItems items
    | _ => .error .mismatch

/-- Reads the value of every field. -/
def decodeFields {α : Type} [JsonCodec α] : List (String × Json) → Decoded (List (String × α))
  | [] => .ok []
  | (key, value) :: fields => return (key, ← decode value) :: (← decodeFields fields)

/-- A dictionary is an object; of equal keys the last one counts. -/
def encodeDict {α : Type} [JsonCodec α] (dict : Dict α) : Json :=
  .object (dict.map fun (key, value) => (key, encode value))

/-- An optional dictionary. -/
def encodeDict? {α : Type} [JsonCodec α] : Option (Dict α) → Json
  | none => .null
  | some dict => encodeDict dict

@[inherit_doc encodeDict]
def decodeDict {α : Type} [JsonCodec α] : Json → Decoded (Dict α)
  | .object fields => return Dict.ofList (← decodeFields fields)
  | _ => .error .mismatch

/-! ### Records -/

/-- The fields of a record while it is read. -/
structure Record where
  /-- The known fields that are there. -/
  fields : List (String × Json)
  /-- Whether the record is written as an array. -/
  positional : Bool

namespace Record

/-- Opens a record with these fields. -/
def ofJson (names : List String) : Json → Decoded Record
  | .object fields =>
    let known := fields.filter fun (key, _) => key ∈ names
    if (known.map (·.1)).Nodup then .ok ⟨known, false⟩ else .error .mismatch
  | .array items =>
    if items.length ≤ names.length then .ok ⟨names.zip items, true⟩ else .error .mismatch
  | _ => .error .mismatch

variable {α : Type} [JsonCodec α]

/-- A field that has to be there. -/
def field (record : Record) (name : String) : Decoded α :=
  match record.fields.lookup name with
  | some json => decode json
  | none => .error .mismatch

/-- A field with a default. -/
def fieldOr (record : Record) (name : String) (default : α) : Decoded α :=
  match record.fields.lookup name with
  | some json => decode json
  | none => .ok default

/-- An optional field without a declared default: it may be missing from an object, but not from
an array. -/
def field? (record : Record) (name : String) : Decoded (Option α) :=
  if record.positional then record.field name else record.fieldOr name none

/-- A dictionary with a default. -/
def dictOr (record : Record) (name : String) (default : Dict α) : Decoded (Dict α) :=
  match record.fields.lookup name with
  | some json => decodeDict json
  | none => .ok default

/-- An optional dictionary, none by default. -/
def dict? (record : Record) (name : String) : Decoded (Option (Dict α)) :=
  match record.fields.lookup name with
  | some .null | none => .ok none
  | some json => return some (← decodeDict json)

/-- A dictionary with the empty one as default. -/
def dict (record : Record) (name : String) : Decoded (Dict α) :=
  record.dictOr name []

end Record

/-! ### Names of constants -/

/-- The name that a value of an enumeration is written with: a string, or an object that maps the
name to `null`. -/
def Json.constantName? : Json → Option String
  | .string name => some name
  | .object [(name, .null)] => some name
  | _ => none

/-- Reads a value of an enumeration by its name. -/
def decodeConstant {α : Type} (values : List α) (name : α → String) (json : Json) : Decoded α :=
  Json.expect <| json.constantName?.bind fun text => values.find? (name · = text)

end ServerMigration
