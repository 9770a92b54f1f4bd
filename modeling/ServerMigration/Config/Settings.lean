import ServerMigration.Json.Basic
import ServerMigration.Text.Search

/-!
# Layers of settings

Settings come in layers: files and the environment.  A later layer wins; tables are merged key by
key.

## Main definitions

* `mergeFields` : a table with further settings on top of it.
* `settingPath` : the keys that a dotted name leads through.
* `mergeLayers` : the settings of all layers.
-/

namespace ServerMigration

/-- The fields of a table; a value that is no table has none. -/
def Json.fieldsOrNone : Json → List (String × Json)
  | .object fields => fields
  | _ => []

mutual

/-- A value on top of what has been there: a table is merged into it, anything else replaces it. -/
def mergeSetting (existing : Json) : (incoming : Json) → Json
  | .object fields => mergeFields existing fields
  | .array items => .array items
  | .null => .null
  | .bool b => .bool b
  | .number n => .number n
  | .string s => .string s

/-- A value with further settings on top of it; to take one, it becomes a table. -/
def mergeFields (existing : Json) : (incoming : List (String × Json)) → Json
  | [] => existing
  | (key, value) :: incoming =>
    let fields := existing.fieldsOrNone
    let before := (fields.lookup key).getD (.object [])
    mergeFields (.object (Dict.insert key (mergeSetting before value) fields)) incoming

end

/-- Characters of the names between dots. -/
def isSettingChar (c : Char) : Bool :=
  c.isAlphanum || c = ' ' || c = '_' || c = '-'

/-- The keys that a dotted name leads through; a name of another form is one key. -/
def settingPath (name : String) : List String :=
  let parts := Text.splitOn '.' name.toList
  if parts.all fun part => !part.isEmpty && part.all isSettingChar then parts.map String.ofList
  else [name]

/-- Settings with a value at the end of a path. -/
def putSetting (value : Json) : (path : List String) → (settings : Json) → Json
  | [], settings => settings
  | [key], settings => mergeFields settings [(key, value)]
  | key :: path, settings =>
    let fields := settings.fieldsOrNone
    let below := (fields.lookup key).getD .null
    .object (Dict.insert key (putSetting value path below) fields)

/-- The settings of all layers; each is a list of names and values. -/
def mergeLayers (layers : List (List (String × Json))) : Json :=
  layers.flatten.foldl (fun settings (name, value) =>
    putSetting value (settingPath name) settings) (.object [])

end ServerMigration
