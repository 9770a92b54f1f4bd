import ServerMigration.Decimal.Layout
import ServerMigration.Dict

/-!
# JSON values

The documents of the library are JSON.  A number is a whole number that fits sixty-four bits,
signed or unsigned, or a double.  The fields of an object keep the order in which they were
written.

## Main definitions

* `Json.Number`, `Json` : numbers and values.
* `Json.normalize` : objects sorted by key, the last of equal keys kept.
* `Json.field?` : the value of an object's field.
-/

namespace ServerMigration

/-- A JSON number. -/
inductive Json.Number
  /-- A whole number written without point and exponent, between -2^63 and 2^64 - 1. -/
  | whole (value : Int)
  /-- Any other number, as the bits of a double. -/
  | double (bits : UInt64)
  deriving DecidableEq, Repr, Inhabited

/-- A JSON value. -/
inductive Json
  | null
  | bool (value : Bool)
  | number (value : Json.Number)
  | string (value : String)
  | array (items : List Json)
  | object (fields : List (String × Json))
  deriving Repr, Inhabited

namespace Json

/-- The value of the field with this key, the first of several. -/
def field? (key : String) : Json → Option Json
  | .object fields => fields.lookup key
  | _ => none

mutual

/-- Every object sorted by key; of equal keys the last one counts. -/
def normalize : Json → Json
  | .array items => .array (normalizeItems items)
  | .object fields => .object (normalizeFields fields)
  | .null => .null
  | .bool b => .bool b
  | .number n => .number n
  | .string s => .string s

/-- `normalize` on the items of an array. -/
def normalizeItems : List Json → List Json
  | [] => []
  | item :: items => normalize item :: normalizeItems items

/-- `normalize` on the fields of an object: a field gives way to a later one with its key. -/
def normalizeFields : List (String × Json) → List (String × Json)
  | [] => []
  | (key, value) :: fields =>
    let later := normalizeFields fields
    if (later.lookup key).isSome then later else Dict.insert key (normalize value) later

end

end Json

end ServerMigration
