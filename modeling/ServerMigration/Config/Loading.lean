import ServerMigration.Config.Environment
import ServerMigration.Config.Lenient
import ServerMigration.Config.Settings
import ServerMigration.Yaml.Resolve

/-!
# Loading the configuration

A base file is merged with a file for the environment, if there is one, and with the variables of
the environment, in this order.

## Main definitions

* `ConfigFiles` : the files of a directory by their path.
* `LoadedConfig` : a configuration with the names it was loaded under.
* `ConfigFiles.load` : loads the configuration.
-/

namespace ServerMigration

/-- The texts of files by their path below the configuration directory. -/
abbrev ConfigFiles : Type := Dict String

/-- A configuration that has been checked. -/
structure LoadedConfig where
  /-- The configuration. -/
  config : Configuration
  /-- The name of the environment. -/
  environment : String
  /-- The configuration directory. -/
  directory : String
  deriving Repr

/-- A configuration as it is, once checked. -/
def LoadedConfig.ofConfig (config : Configuration) (environment : String) :
    Except ConfigError LoadedConfig := do
  config.check
  return ⟨config, environment, "config"⟩

namespace ConfigFiles

/-- The names of the base file. -/
def baseNames : List String := ["migrator.yaml", "migrator.yml"]

/-- The paths at which the file of an environment is looked for. -/
def environmentPaths (environment : String) : List String :=
  let path := s!"environments/{environment}.yaml"
  [path, path ++ ".yaml", path ++ ".yml"]

/-- The settings of a file; they have to form a table. -/
def fileLayer (text : String) : Except ConfigError (List (String × Json)) :=
  match Yaml.parse? text with
  | some (.object fields) => .ok fields
  | _ => .error .loadFailed

/-- Loads the configuration of a directory. -/
def load (files : ConfigFiles) (directory environment : String) (overrides : Dict String) :
    Except ConfigError LoadedConfig := do
  let some base := baseNames.findSome? files.get?
    | throw (.fileNotFound (baseNames.map fun name => s!"{directory}/{name}"))
  let own := (environmentPaths environment).findSome? files.get?
  let layers := [← fileLayer base, ← (own.map fileLayer).getD (.ok []), environmentLayer overrides]
  let some config := Configuration.ofSettings? (mergeLayers layers) | throw .loadFailed
  config.check
  return ⟨config, environment, directory⟩

end ConfigFiles

end ServerMigration
