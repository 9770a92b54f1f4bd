import ServerMigration.Config.Basic
import ServerMigration.Decimal.Layout
import ServerMigration.Text.Numeral

/-!
# Lenient settings

Settings are written by hand and in environment variables, so a value is accepted for a field if it
can be read as one of the field's kind: a number as a text, a text as a number, a number as a truth
value.  `Field.coerce` turns such a value into the one that the codec of the configuration expects.

## Main definitions

* `Field` : the kinds of fields.
* `Field.coerce` : the value that is meant, if there is one.
* `Configuration.ofSettings?` : the configuration of some settings.
-/

namespace ServerMigration

/-- The kind of a field. -/
inductive Field
  | text
  | flag
  /-- A natural number below a power of two with this exponent; beyond it, numbers wrap around. -/
  | count (bits : Nat)
  | optionalText
  /-- One of these names, in any case. -/
  | name (names : List String)
  /-- A value that the codec reads itself. -/
  | any

namespace Field

/-- The text of a double. -/
def doubleText (bits : UInt64) : String :=
  match Decimal.Layout.plain.write bits with
  | some chars => .ofList chars
  | none =>
    let x := Float.ofBits bits
    if x.isNaN then "NaN" else if x < 0 then "-inf" else "inf"

/-- The text that a setting is read as. -/
def text? : Json → Option String
  | .string s => some s
  | .bool b => some (toString b)
  | .number (.whole n) => some (toString n)
  | .number (.double bits) => some (doubleText bits)
  | _ => none

/-- Whether a word says yes or no. -/
def yesNo? (word : String) : Option Bool :=
  if word.toLower ∈ ["true", "on", "yes"] then some true
  else if word.toLower ∈ ["false", "off", "no"] then some false
  else none

/-- The truth value that a setting is read as. -/
def flag? : Json → Option Bool
  | .bool b => some b
  | .number (.whole n) => some (n ≠ 0)
  | .number (.double bits) => some (Float.ofBits bits != 0.0)
  | .string s => if s = "1" then some true else if s = "0" then some false else yesNo? s
  | _ => none

/-- The number below 2^64 that a setting is read as. -/
def count? : Json → Option Nat
  | .number (.whole n) => if 0 ≤ n then some n.toNat else none
  | .number (.double bits) => some (Float.ofBits bits).round.toUInt64.toNat
  | .bool b => some b.toNat
  | .string s =>
    match yesNo? s with
    | some b => some b.toNat
    | none => Text.readNat UInt64.size s.toList
  | _ => none

/-- The name of a constant: a text, or the only key of a table. -/
def constantName? : Json → Option String
  | .string s => some s
  | .object [(key, _)] => some key
  | _ => none

/-- The value that is meant, as the codec expects it. -/
def coerce (kind : Field) (setting : Json) : Option Json :=
  match kind, setting with
  | any, setting => some setting
  | optionalText, .null => some .null
  | optionalText, setting | text, setting => (text? setting).map .string
  | flag, setting => (flag? setting).map .bool
  | count bits, setting => (count? setting).map fun n => .number (.whole (n % Nat.pow 2 bits : Nat))
  | name names, setting => do
    let word ← constantName? setting
    let found ← names.find? (· = word.toLower)
    return .string found

end Field

/-- The fields of the sections. -/
def configSections : List (String × List (String × Field)) :=
  [("cloud", [("provider", .text), ("endpoint", .text), ("datacenter_id", .text),
      ("username", .text), ("password", .text), ("request_timeout_seconds", .count 64),
      ("poll_interval_seconds", .count 64), ("poll_max_wait_seconds", .count 64),
      ("bootstrap_volume_size_gib", .count 64)]),
    ("ssh", [("binary", .text), ("connect_retries", .count 32),
      ("retry_backoff_seconds", .count 64),
      ("connect_timeout_seconds", .count 64), ("strict_host_key_checking", .flag)]),
    ("scheduler", [("max_simultaneous_migrations", .any)]),
    ("store", [("backend", .name (StoreBackend.all.map StoreBackend.name)), ("directory", .text)]),
    ("logging", [("level", .optionalText), ("json", .flag)])]

/-- A record with these fields: a table by name, or a list in order.  Settings without a field are
dropped. -/
def coerceRecord {α : Type} (fields : List (String × α)) (coerce : α → Json → Option Json)
    (settings : Json) : Option Json := do
  let given ← match settings with
    | .object given => some given
    | .array items => some ((fields.map (·.1)).zip items)
    | _ => none
  let known ← fields.filterMapM fun (name, kind) =>
    match given.lookup name with
    | some value => (coerce kind value).map fun value => some (name, value)
    | none => some none
  return .object known

/-- The configuration of some settings. -/
def Configuration.ofSettings? (settings : Json) : Option Configuration := do
  let json ← coerceRecord configSections (coerceRecord · Field.coerce) settings
  (decode json).toOption

end ServerMigration
