import ServerMigration.Cloud.Provisioning
import ServerMigration.Config.Basic
import ServerMigration.Text.Blank

/-!
# The provider of a configuration

## Main definitions

* `CloudProvider` : the supported providers.
* `Provider.ofConfig` : how a provider is used under a configuration.
-/

namespace ServerMigration

/-- A supported cloud provider. -/
inductive CloudProvider
  | profitBricks
  deriving DecidableEq, Repr, Inhabited

namespace CloudProvider

/-- The name of a provider. -/
def name : CloudProvider → String
  | profitBricks => "profitbricks"

/-- The supported providers. -/
def all : List CloudProvider := [profitBricks]

instance : JsonCodec CloudProvider where
  encode provider := .string provider.name
  decode := decodeConstant all name

/-- The provider of a name, in which case and blanks around it do not count. -/
def parse (text : String) : Except CloudError CloudProvider :=
  let name := (Text.trimmed text).toLower
  if name = "" then .error (.invalidSettings "cloud.provider is not set")
  else match all.find? (·.name = name) with
    | some provider => .ok provider
    | none => .error (.unsupportedProvider name)

end CloudProvider

/-- The settings that a provider needs. -/
def CloudConfig.required (config : CloudConfig) : List (String × String) :=
  [("cloud.endpoint", config.endpoint), ("cloud.datacenter_id", config.datacenterId),
    ("cloud.username", config.username), ("cloud.password", config.password)]

/-- How a provider is used under a configuration, which has to name it and to have all settings
that it needs. -/
def Provider.ofConfig (config : CloudConfig) : Except CloudError (CloudProvider × Provider) := do
  let provider ← CloudProvider.parse config.provider
  match config.required.find? fun (_, value) => Text.isBlankText value with
  | some (setting, _) =>
    throw (.invalidSettings s!"{setting} is required for provider {provider.name}")
  | none =>
    return (provider, {
      polling := ⟨.ofSeconds config.pollIntervalSeconds.toNat,
        .ofSeconds config.pollMaxWaitSeconds.toNat⟩
      bootstrapVolumeSizeGib := config.bootstrapVolumeSizeGib })

end ServerMigration
