import ServerMigration.Decimal.Reader
import ServerMigration.Json.Basic
import ServerMigration.Text.Lowercase
import ServerMigration.Text.Search

/-!
# Settings in the environment

## Main definitions

* `environmentName` : the name of the environment that the program runs in.
* `environmentLayer` : the settings that variables hold.
-/

namespace ServerMigration

/-- The name of the environment: `MIGRATOR_ENV`, else `APP_ENV`, else `development`. -/
def environmentName (settings : Dict String) : String :=
  Text.lowercase (((settings.get? "MIGRATOR_ENV") <|> (settings.get? "APP_ENV")).getD
    "development")

/-- The value of a variable: a truth value, a whole number, a double, or else its text. -/
def variableValue (text : String) : Json :=
  if text.toLower = "true" then .bool true
  else if text.toLower = "false" then .bool false
  else match Text.readInt (-0x8000000000000000) 0x8000000000000000 text.toList with
    | some n => .number (.whole n)
    | none =>
      match Decimal.readDouble? text.toList with
      | some x => .number (.double x.toBits)
      | none => .string text

/-- The setting that a variable names: `MIGRATOR__`, in any case, stands before it, and two
underscores stand for a dot. -/
def variableSetting? (name : String) : Option String :=
  (Text.afterPrefix "migrator__".toList (Text.lowercase name).toList).map fun rest =>
    Text.replace (String.ofList rest) "__" "."

/-- The settings that variables hold. -/
def environmentLayer (settings : Dict String) : List (String × Json) :=
  settings.filterMap fun (name, text) =>
    (variableSetting? name).map fun setting => (setting, variableValue text)

end ServerMigration
