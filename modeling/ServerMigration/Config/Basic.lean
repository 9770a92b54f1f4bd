import ServerMigration.Json.Codec
import ServerMigration.Text.Blank
import ServerMigration.Text.Literal
import ServerMigration.Text.Numeral

/-!
# Configuration

## Main definitions

* `Configuration` and its sections, with their defaults and their JSON form.
* `SchedulerConfig.admissionLimit` : how many sources may be under way at once.
* `Configuration.check` : what a configuration has to satisfy.
-/

namespace ServerMigration

/-- How to reach the cloud provider. -/
structure CloudConfig where
  /-- The name of the provider. -/
  provider : String := ""
  /-- The address of its interface. -/
  endpoint : String := "https://api.profitbricks.com/cloudapi/v4"
  /-- The datacenter in which targets are created. -/
  datacenterId : String := ""
  /-- The account. -/
  username : String := ""
  /-- The password of the account. -/
  password : String := ""
  /-- The time after which a call is given up. -/
  requestTimeoutSeconds : UInt64 := 60
  /-- The time between two looks at an operation that takes its time. -/
  pollIntervalSeconds : UInt64 := 10
  /-- The time that such an operation may take. -/
  pollMaxWaitSeconds : UInt64 := 1800
  /-- The size of the volume that is made from the template image. -/
  bootstrapVolumeSizeGib : UInt64 := 10
  deriving DecidableEq, Repr, Inhabited

instance : JsonCodec CloudConfig where
  encode c := .object [("provider", encode c.provider), ("endpoint", encode c.endpoint),
    ("datacenter_id", encode c.datacenterId), ("username", encode c.username),
    ("password", encode c.password), ("request_timeout_seconds", encode c.requestTimeoutSeconds),
    ("poll_interval_seconds", encode c.pollIntervalSeconds),
    ("poll_max_wait_seconds", encode c.pollMaxWaitSeconds),
    ("bootstrap_volume_size_gib", encode c.bootstrapVolumeSizeGib)]
  decode json := do
    let record ← Record.ofJson ["provider", "endpoint", "datacenter_id", "username", "password",
      "request_timeout_seconds", "poll_interval_seconds", "poll_max_wait_seconds",
      "bootstrap_volume_size_gib"] json
    let d : CloudConfig := {}
    return {
      provider := ← record.fieldOr "provider" d.provider
      endpoint := ← record.fieldOr "endpoint" d.endpoint
      datacenterId := ← record.fieldOr "datacenter_id" d.datacenterId
      username := ← record.fieldOr "username" d.username
      password := ← record.fieldOr "password" d.password
      requestTimeoutSeconds := ← record.fieldOr "request_timeout_seconds" d.requestTimeoutSeconds
      pollIntervalSeconds := ← record.fieldOr "poll_interval_seconds" d.pollIntervalSeconds
      pollMaxWaitSeconds := ← record.fieldOr "poll_max_wait_seconds" d.pollMaxWaitSeconds
      bootstrapVolumeSizeGib :=
        ← record.fieldOr "bootstrap_volume_size_gib" d.bootstrapVolumeSizeGib }

/-- How commands are run on hosts. -/
structure SshConfig where
  /-- The ssh client. -/
  binary : String := "ssh"
  /-- How often a command is tried while the connection fails. -/
  connectRetries : UInt32 := 3
  /-- The pause between two tries. -/
  retryBackoffSeconds : UInt64 := 5
  /-- The time after which a connection is given up. -/
  connectTimeoutSeconds : UInt64 := 30
  /-- Whether a host has to be known. -/
  strictHostKeyChecking : Bool := false
  deriving DecidableEq, Repr, Inhabited

instance : JsonCodec SshConfig where
  encode c := .object [("binary", encode c.binary), ("connect_retries", encode c.connectRetries),
    ("retry_backoff_seconds", encode c.retryBackoffSeconds),
    ("connect_timeout_seconds", encode c.connectTimeoutSeconds),
    ("strict_host_key_checking", encode c.strictHostKeyChecking)]
  decode json := do
    let record ← Record.ofJson ["binary", "connect_retries", "retry_backoff_seconds",
      "connect_timeout_seconds", "strict_host_key_checking"] json
    let d : SshConfig := {}
    return {
      binary := ← record.fieldOr "binary" d.binary
      connectRetries := ← record.fieldOr "connect_retries" d.connectRetries
      retryBackoffSeconds := ← record.fieldOr "retry_backoff_seconds" d.retryBackoffSeconds
      connectTimeoutSeconds := ← record.fieldOr "connect_timeout_seconds" d.connectTimeoutSeconds
      strictHostKeyChecking :=
        ← record.fieldOr "strict_host_key_checking" d.strictHostKeyChecking }

/-- The limits of the scheduler. -/
structure SchedulerConfig where
  /-- How many sources any run may have under way at once. -/
  maxSimultaneousMigrations : UInt64 := 16
  deriving DecidableEq, Repr, Inhabited

/-- How many sources may be under way at once in a run that asks for so many: at least one, and not
more than the configured limit allows. -/
def SchedulerConfig.admissionLimit (config : SchedulerConfig) (requested : UInt64) : UInt64 :=
  max 1 (min requested (max 1 config.maxSimultaneousMigrations))

/-- A limit: a natural number, a text that is one but for blanks around it, or an object with a
number under `max`. -/
def decodeLimit : Json → Decoded UInt64
  | .string text =>
    Json.expect <| (Text.readNat UInt64.size (Text.trim text.toList)).map (·.toUInt64)
  | .object fields => Json.expect (fields.reverse.lookup "max") >>= decode
  | json => decode json

instance : JsonCodec SchedulerConfig where
  encode c := .object [("max_simultaneous_migrations", encode c.maxSimultaneousMigrations)]
  decode json := do
    let record ← Record.ofJson ["max_simultaneous_migrations"] json
    match record.fields.lookup "max_simultaneous_migrations" with
    | some limit => return { maxSimultaneousMigrations := ← decodeLimit limit }
    | none => return {}

/-- Where documents are kept. -/
inductive StoreBackend
  | memory
  | file
  deriving DecidableEq, Repr, Inhabited

/-- The name of a backend. -/
def StoreBackend.name : StoreBackend → String
  | memory => "memory"
  | file => "file"

/-- The backends. -/
def StoreBackend.all : List StoreBackend := [memory, file]

instance : JsonCodec StoreBackend where
  encode backend := .string backend.name
  decode := decodeConstant StoreBackend.all StoreBackend.name

/-- How documents are kept. -/
structure StoreConfig where
  /-- Where they are kept. -/
  backend : StoreBackend := .memory
  /-- The directory of a store in files. -/
  directory : String := "migrations"
  deriving DecidableEq, Repr, Inhabited

instance : JsonCodec StoreConfig where
  encode c := .object [("backend", encode c.backend), ("directory", encode c.directory)]
  decode json := do
    let record ← Record.ofJson ["backend", "directory"] json
    let d : StoreConfig := {}
    return {
      backend := ← record.fieldOr "backend" d.backend
      directory := ← record.fieldOr "directory" d.directory }

/-- What is logged, and how. -/
structure LoggingConfig where
  /-- The least level that is logged. -/
  level : Option String := none
  /-- Whether events are written as JSON. -/
  json : Bool := false
  deriving DecidableEq, Repr, Inhabited

instance : JsonCodec LoggingConfig where
  encode c := .object [("level", encode c.level), ("json", encode c.json)]
  decode json := do
    let record ← Record.ofJson ["level", "json"] json
    return { level := ← record.fieldOr "level" none, json := ← record.fieldOr "json" false }

/-- The configuration. -/
structure Configuration where
  /-- The cloud provider. -/
  cloud : CloudConfig := {}
  /-- The transport of commands. -/
  ssh : SshConfig := {}
  /-- The limits of the scheduler. -/
  scheduler : SchedulerConfig := {}
  /-- The store. -/
  store : StoreConfig := {}
  /-- The log. -/
  logging : LoggingConfig := {}
  deriving DecidableEq, Repr, Inhabited

instance : JsonCodec Configuration where
  encode c := .object [("cloud", encode c.cloud), ("ssh", encode c.ssh),
    ("scheduler", encode c.scheduler), ("store", encode c.store), ("logging", encode c.logging)]
  decode json := do
    let record ← Record.ofJson ["cloud", "ssh", "scheduler", "store", "logging"] json
    return {
      cloud := ← record.fieldOr "cloud" {}
      ssh := ← record.fieldOr "ssh" {}
      scheduler := ← record.fieldOr "scheduler" {}
      store := ← record.fieldOr "store" {}
      logging := ← record.fieldOr "logging" {} }

/-! ### What a configuration has to satisfy -/

/-- Why there is no configuration. -/
inductive ConfigError
  /-- None of these files exists. -/
  | fileNotFound (searched : List String)
  /-- A file cannot be read, or a setting is of the wrong kind. -/
  | loadFailed
  /-- A setting is empty. -/
  | missingField (field place : String)
  /-- A setting cannot work. -/
  | invalidValue (field value reason : String)
  deriving DecidableEq, Repr, Inhabited

/-- The name of an error's kind. -/
def ConfigError.kind : ConfigError → String
  | fileNotFound _ => "ConfigFileNotFound"
  | loadFailed => "LoadFailed"
  | missingField .. => "MissingRequiredField"
  | invalidValue .. => "InvalidValue"

/-- The text of an error. -/
def ConfigError.message : ConfigError → String
  | fileNotFound searched =>
    "Configuration file not found. Searched paths: ["
      ++ ", ".intercalate (searched.map Text.literal) ++ "]"
  | loadFailed => "Failed to load configuration"
  | missingField field place => s!"Missing required configuration field '{field}' in {place}"
  | invalidValue field value reason =>
    s!"Invalid value '{value}' for field '{field}': {reason}"

/-- A configuration that can work; what the provider needs is checked when it is used. -/
def Configuration.check (config : Configuration) : Except ConfigError Unit :=
  if config.cloud.pollIntervalSeconds = 0 then
    .error (.invalidValue "cloud.poll_interval_seconds" "0" "polling interval must be positive")
  else if config.cloud.pollMaxWaitSeconds < config.cloud.pollIntervalSeconds then
    .error (.invalidValue "cloud.poll_max_wait_seconds"
      (toString config.cloud.pollMaxWaitSeconds.toNat)
      "wait budget must cover at least one polling interval")
  else if config.ssh.connectRetries = 0 then
    .error (.invalidValue "ssh.connect_retries" "0"
      "at least one connection attempt is required")
  else if Text.isBlankText config.ssh.binary then .error (.missingField "binary" "ssh")
  else if config.scheduler.maxSimultaneousMigrations = 0 then
    .error (.invalidValue "scheduler.max_simultaneous_migrations" "0"
      "at least one migration must be allowed to run")
  else if config.store.backend = .file ∧ config.store.directory = "" then
    .error (.missingField "directory" "store")
  else .ok ()

end ServerMigration
