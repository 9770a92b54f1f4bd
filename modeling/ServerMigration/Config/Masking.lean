import ServerMigration.Json.Basic
import ServerMigration.Text.Search

/-!
# Masked documents

A configuration that is shown does not give its secrets away: the value of every key that sounds
like one is masked.

## Main definitions

* `maskText` : what is shown of a secret text.
* `maskSecrets` : a document with its secrets masked.
-/

namespace ServerMigration

/-- Parts of keys that stand for a secret. -/
def secretWords : List String := ["password", "secret", "key", "token", "credential"]

/-- Whether a key stands for a secret. -/
def isSecret (key : String) : Bool :=
  secretWords.any fun word => Text.contains key.toLower word

/-- What is shown of a secret: of a text with more than four characters the first and last two,
else only whether it is empty. -/
def maskText : Json → String
  | .string "" => "[EMPTY]"
  | .string text =>
    let chars := text.toList
    if chars.length ≤ 4 then "[MASKED]"
    else
      let (first, last) := (chars.take 2, chars.drop (chars.length - 2))
      s!"[MASKED: {String.ofList first}***{String.ofList last}]"
  | _ => "[MASKED]"

mutual

/-- A document with its secrets masked. -/
def maskSecrets : Json → Json
  | .array items => .array (maskItems items)
  | .object fields => .object (maskFields fields)
  | .null => .null
  | .bool b => .bool b
  | .number n => .number n
  | .string s => .string s

/-- `maskSecrets` on the items of an array. -/
def maskItems : List Json → List Json
  | [] => []
  | item :: items => maskSecrets item :: maskItems items

/-- `maskSecrets` on the fields of an object. -/
def maskFields : List (String × Json) → List (String × Json)
  | [] => []
  | (key, value) :: fields =>
    (key, if isSecret key then .string (maskText value) else maskSecrets value)
      :: maskFields fields

end

end ServerMigration
