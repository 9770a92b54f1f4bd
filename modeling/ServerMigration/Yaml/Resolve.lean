import ServerMigration.Decimal.Reader
import ServerMigration.Json.Basic
import ServerMigration.Yaml.Node

/-!
# The values of YAML text

A plain scalar denotes `null`, a truth value, a whole number, a double, or else its text.

## Main definitions

* `Scalar.value?` : the value of a scalar.
* `parse?` : the value of a text.
-/

namespace ServerMigration.Yaml

/-- The numeral behind a radix mark, with an optional sign. -/
def radixInt? (radixValue? : List Char → Option Nat) (digits : List Char) : Option Int :=
  let signed := match digits with
    | '-' :: digits => (nonEmpty? digits).map fun n => -(n : Int)
    | '+' :: digits => (nonEmpty? digits).map fun n => (n : Int)
    | _ => (nonEmpty? digits).map fun n => (n : Int)
  signed.filter fun n => -0x8000000000000000 ≤ n && n < 0x8000000000000000
where
  /-- The value of at least one digit. -/
  nonEmpty? (digits : List Char) : Option Nat :=
    if digits.isEmpty then none else radixValue? digits

/-- The number that a run of octal digits denotes. -/
def octalValue? (digits : List Char) : Option Nat :=
  if digits.all fun c => '0' ≤ c && c ≤ '7' then
    some (digits.foldl (fun n d => 8 * n + (d.toNat - '0'.toNat)) 0)
  else none

/-- The whole number that a plain scalar denotes. -/
def wholeNumber? (text : List Char) : Option Int :=
  let marked := match text with
    | '0' :: 'x' :: digits => radixInt? Text.hexDigitsValue? digits
    | '0' :: 'o' :: digits => radixInt? octalValue? digits
    | _ => none
  marked <|> Text.readInt (-0x8000000000000000) 0x8000000000000000 text

/-- Spellings of infinities and of no number, which are no settings. -/
def specialDoubles : List String :=
  [".inf", ".Inf", ".INF", "+.inf", "+.Inf", "+.INF", "-.inf", "-.Inf", "-.INF", ".nan", ".NAN"]

/-- The value of a scalar. -/
def Scalar.value? (scalar : Scalar) : Option Json :=
  if scalar.quoted then some (.string scalar.text)
  else match scalar.text with
    | "~" | "null" => some .null
    | "true" => some (.bool true)
    | "false" => some (.bool false)
    | text =>
      match wholeNumber? text.toList, Decimal.readDouble? text.toList with
      | some n, _ => some (.number (.whole n))
      | none, some x => some (.number (.double x.toBits))
      | none, none => if text ∈ specialDoubles then none else some (.string text)

/-- The key that a scalar denotes: a text or a whole number. -/
def Scalar.key? (scalar : Scalar) : Option String :=
  match scalar.value? with
  | some (.string text) => some text
  | some (.number (.whole n)) => some (toString n)
  | _ => none

mutual

/-- The value of a node. -/
def Node.value? : Node → Option Json
  | .empty => some .null
  | .scalar scalar => scalar.value?
  | .sequence items => (itemValues? items).map .array
  | .mapping fields => (fieldValues? fields).map .object

/-- The values of some nodes. -/
def itemValues? : List Node → Option (List Json)
  | [] => some []
  | item :: items => return (← item.value?) :: (← itemValues? items)

/-- The values of some fields. -/
def fieldValues? : List (Scalar × Node) → Option (List (String × Json))
  | [] => some []
  | (key, value) :: fields => return (← key.key?, ← value.value?) :: (← fieldValues? fields)

end

/-- The value of a text; of equal keys the last one counts. -/
def parse? (text : String) : Option Json := do
  return (← (← Node.parse? text).value?).normalize

end ServerMigration.Yaml
