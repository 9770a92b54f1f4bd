import ServerMigration.Json.Basic
import ServerMigration.Text.Numeral

/-!
# Writing JSON

The compact form has no blanks; the indented form puts every item and field on a line of its own,
two blanks deeper than what holds it, and writes empty arrays and objects as `[]` and `\x7b\x7d`.

## Main definitions

* `Json.compact`, `Json.indented` : the two forms.
-/

namespace ServerMigration.Json

/-- A character inside a JSON string.  Only quotes, backslashes and control characters are
escaped. -/
def escapeChar (c : Char) : List Char :=
  match c with
  | '"' => ['\\', '"']
  | '\\' => ['\\', '\\']
  | '\n' => ['\\', 'n']
  | '\r' => ['\\', 'r']
  | '\t' => ['\\', 't']
  | '\x08' => ['\\', 'b']
  | '\x0c' => ['\\', 'f']
  | c => if c.toNat < 0x20 then ['\\', 'u', '0', '0'] ++ Text.hexByte c.toNat.toUInt8 else [c]

/-- A JSON string literal. -/
def quote (s : String) : List Char :=
  '"' :: s.toList.flatMap escapeChar ++ ['"']

/-- A JSON number.  A double that is no number is written as `null`. -/
def Number.write : Number → List Char
  | .whole n => (toString n).toList
  | .double bits => (Decimal.Layout.json.write bits).getD "null".toList

mutual

/-- The compact form as characters. -/
def write : Json → List Char
  | .null => "null".toList
  | .bool b => (toString b).toList
  | .number n => n.write
  | .string s => quote s
  | .array items => '[' :: writeItems items ++ [']']
  | .object fields => '\x7b' :: writeFields fields ++ ['\x7d']

/-- Items separated by commas. -/
def writeItems : List Json → List Char
  | [] => []
  | [item] => write item
  | item :: items => write item ++ ',' :: writeItems items

/-- Fields separated by commas. -/
def writeFields : List (String × Json) → List Char
  | [] => []
  | [(key, value)] => quote key ++ ':' :: write value
  | (key, value) :: fields => quote key ++ ':' :: write value ++ ',' :: writeFields fields

end

/-- The compact form. -/
def compact (json : Json) : String := .ofList (write json)

/-- A line break and the indentation of a level. -/
def newline (level : Nat) : List Char :=
  '\n' :: List.replicate (2 * level) ' '

mutual

/-- The indented form as characters, for a value that stands at a level. -/
def writeIndented (level : Nat) : Json → List Char
  | .null => "null".toList
  | .bool b => (toString b).toList
  | .number n => n.write
  | .string s => quote s
  | .array [] => ['[', ']']
  | .array (item :: items) =>
    '[' :: newline (level + 1) ++ writeIndented (level + 1) item
      ++ writeIndentedItems (level + 1) items ++ newline level ++ [']']
  | .object [] => ['\x7b', '\x7d']
  | .object ((key, value) :: fields) =>
    '\x7b' :: newline (level + 1) ++ quote key ++ ':' :: ' ' :: writeIndented (level + 1) value
      ++ writeIndentedFields (level + 1) fields ++ newline level ++ ['\x7d']

/-- The items after the first, each behind a comma and a line break. -/
def writeIndentedItems (level : Nat) : List Json → List Char
  | [] => []
  | item :: items =>
    ',' :: newline level ++ writeIndented level item ++ writeIndentedItems level items

/-- The fields after the first, each behind a comma and a line break. -/
def writeIndentedFields (level : Nat) : List (String × Json) → List Char
  | [] => []
  | (key, value) :: fields =>
    ',' :: newline level ++ quote key ++ ':' :: ' ' :: writeIndented level value
      ++ writeIndentedFields level fields

end

/-- The indented form. -/
def indented (json : Json) : String := .ofList (writeIndented 0 json)

end ServerMigration.Json
