import ServerMigration.Action
import ServerMigration.Blueprint
import ServerMigration.Cloud.Error
import ServerMigration.Cloud.PollPolicy
import ServerMigration.Cloud.Provisioning
import ServerMigration.Cloud.Request
import ServerMigration.Cloud.Rest
import ServerMigration.Cloud.Settings
import ServerMigration.Cloud.Url
import ServerMigration.CloudMetadata
import ServerMigration.Commander.Basic
import ServerMigration.Commander.CommandTable
import ServerMigration.Commander.StepErrors
import ServerMigration.Config.Basic
import ServerMigration.Config.Environment
import ServerMigration.Config.Lenient
import ServerMigration.Config.Loading
import ServerMigration.Config.Masking
import ServerMigration.Config.Settings
import ServerMigration.Decimal.Layout
import ServerMigration.Decimal.Reader
import ServerMigration.Decimal.Shortest
import ServerMigration.Device.BlockDevice
import ServerMigration.Device.Partition
import ServerMigration.Dict
import ServerMigration.Digest.Blake3
import ServerMigration.Inventory.Basic
import ServerMigration.Inventory.Lsblk
import ServerMigration.Inventory.Network
import ServerMigration.Json.Basic
import ServerMigration.Json.Codec
import ServerMigration.Json.Numeral
import ServerMigration.Json.Reader
import ServerMigration.Json.Token
import ServerMigration.Json.Tree
import ServerMigration.Json.Writer
import ServerMigration.Lifecycle.HookPhase
import ServerMigration.Lifecycle.StatusLifecycle
import ServerMigration.LogEvent
import ServerMigration.Mapping.DeviceMapping
import ServerMigration.Mapping.Error
import ServerMigration.Mapping.MountTable
import ServerMigration.Mapping.MountDirectory
import ServerMigration.Migration.Bootloader
import ServerMigration.Migration.Catalog
import ServerMigration.Migration.Copying
import ServerMigration.Migration.Cutover
import ServerMigration.Migration.Disks
import ServerMigration.Migration.Driving
import ServerMigration.Migration.Fstab
import ServerMigration.Migration.Hooks
import ServerMigration.Migration.Inventory
import ServerMigration.Migration.PartitionTable
import ServerMigration.Migration.Provisioning
import ServerMigration.Migration.Replacement
import ServerMigration.Migration.SystemConfig
import ServerMigration.Migration.Work
import ServerMigration.OsFamily
import ServerMigration.Plan.Basic
import ServerMigration.Plan.Launch
import ServerMigration.Program
import ServerMigration.Proofs.Program.Runs
import ServerMigration.Rehearsal.Datacenter
import ServerMigration.Rehearsal.Journal
import ServerMigration.Rehearsal.RestServer
import ServerMigration.Rehearsal.Script
import ServerMigration.Rehearsal.SshClient
import ServerMigration.Rehearsal.Stable
import ServerMigration.Rehearsal.Stage
import ServerMigration.Rehearsal.Steps
import ServerMigration.Rehearsal.Storage
import ServerMigration.Rehearsal.World
import ServerMigration.Remote.Error
import ServerMigration.Remote.Ssh
import ServerMigration.RemoteHost
import ServerMigration.Scheduler.Host
import ServerMigration.Scheduler.Pass
import ServerMigration.Scheduler.Report
import ServerMigration.Scheduler.Runs
import ServerMigration.Source.Basic
import ServerMigration.Source.Status
import ServerMigration.Source.Target
import ServerMigration.StableSort
import ServerMigration.Store.Basic
import ServerMigration.Store.FileStore
import ServerMigration.Store.FileTree
import ServerMigration.Text.Base64
import ServerMigration.Text.Blank
import ServerMigration.Text.Literal
import ServerMigration.Text.Lowercase
import ServerMigration.Text.NaturalOrder
import ServerMigration.Text.Numeral
import ServerMigration.Text.Quoted
import ServerMigration.Text.Search
import ServerMigration.Text.Template
import ServerMigration.Text.Unprintable
import ServerMigration.Text.Utf8
import ServerMigration.Time.Calendar
import ServerMigration.Time.Duration
import ServerMigration.Time.Instant
import ServerMigration.Uuid
import ServerMigration.Yaml.Node
import ServerMigration.Yaml.Resolve
import ServerMigration.Yaml.Token
import ServerMigration.Proofs.Commander.Steps
import ServerMigration.Proofs.Commander.Itinerary
import ServerMigration.Proofs.Commander.Pause
import ServerMigration.Proofs.Migration.Confinement
import ServerMigration.Proofs.Commander.Path
import ServerMigration.Proofs.Commander.Saves
import ServerMigration.Proofs.Store.Documents
import ServerMigration.Proofs.Migration.Document
import ServerMigration.Proofs.Scheduler.Admission
import ServerMigration.Proofs.Dict
import ServerMigration.Proofs.Results
import ServerMigration.Proofs.Inventory.Orderly
import ServerMigration.Proofs.Device.PartitionNames
import ServerMigration.Proofs.Inventory.Tree
import ServerMigration.Proofs.Mapping.Fitting
import ServerMigration.Proofs.Mapping.FirstFit
import ServerMigration.Proofs.Mapping.Replica
import ServerMigration.Proofs.Mapping.Coverage
import ServerMigration.Proofs.Text.NaturalOrder
import ServerMigration.Proofs.Mapping.ByPlace
import ServerMigration.Proofs.Text.Splitting
import ServerMigration.Proofs.Mapping.Counterparts
import ServerMigration.Proofs.Mapping.Resolution
import ServerMigration.Proofs.Cloud.Operations
import ServerMigration.Proofs.Cloud.Attachment
import ServerMigration.Proofs.Migration.Changes
import ServerMigration.Proofs.Migration.Crew
import ServerMigration.Proofs.Migration.Parts
import ServerMigration.Proofs.Migration.Preparation
import ServerMigration.Proofs.Migration.Formatting
import ServerMigration.Proofs.Migration.MigratedFstab
import ServerMigration.Proofs.Text.Lines
import ServerMigration.Proofs.Migration.SettledFstab
import ServerMigration.Proofs.Text.Runs
import ServerMigration.Proofs.Migration.Substitution
import ServerMigration.Proofs.Migration.AddressChains
import ServerMigration.Proofs.Migration.Series
import ServerMigration.Proofs.Migration.Failures
import ServerMigration.Proofs.Migration.Readiness
import ServerMigration.Proofs.Commander.Contract
import ServerMigration.Proofs.Commander.Stops
import ServerMigration.Proofs.Scheduler.Course
import ServerMigration.Proofs.Scheduler.Passes
import ServerMigration.Proofs.Scheduler.Outcomes
import ServerMigration.Proofs.Scheduler.Histories
import ServerMigration.Proofs.Text.Numerals
import ServerMigration.Proofs.Json.Lexing
import ServerMigration.Proofs.Json.Reading
import ServerMigration.Proofs.Json.Format
import ServerMigration.Proofs.Json.Records
import ServerMigration.Proofs.Json.Trees
import ServerMigration.Proofs.Identifiers
import ServerMigration.Proofs.Time.Calendar
import ServerMigration.Proofs.Time.Instants
import ServerMigration.Proofs.Documents.Hosts
import ServerMigration.Proofs.Documents.Blueprints
import ServerMigration.Proofs.Documents.Plans
import ServerMigration.Proofs.Documents.Faithful
import ServerMigration.Proofs.Store.FileTrees
import ServerMigration.Proofs.Store.Files
import ServerMigration.Proofs.Store.Answers
import ServerMigration.Proofs.Store.Agreement
import ServerMigration.Proofs.Shell.Reading
import ServerMigration.Proofs.Text.Placeholders
import ServerMigration.Proofs.Migration.CommandWords
import ServerMigration.Proofs.Cloud.Creation
import ServerMigration.Proofs.Migration.Inventories
import ServerMigration.Proofs.Migration.TargetCreation
import ServerMigration.Proofs.Text.NumeralOrder
import ServerMigration.Proofs.Text.Blanks
import ServerMigration.Proofs.Migration.PartitionTables
import ServerMigration.Proofs.Migration.NamedDevices
import ServerMigration.Proofs.Migration.RetargetedFstab
import ServerMigration.Proofs.Shell.Lists
import ServerMigration.Proofs.Sed.Substitution
import ServerMigration.Proofs.Migration.ReplacementProgram
import ServerMigration.Proofs.Migration.BoundRoot
import ServerMigration.Proofs.Cloud.Polling
import ServerMigration.Proofs.Cloud.CreationCourse
import ServerMigration.Proofs.Migration.BootstrapRemoval
import ServerMigration.Proofs.Commander.Ascent
import ServerMigration.Proofs.Scheduler.FailedHosts
import ServerMigration.Proofs.Scheduler.GoLiveTime
import ServerMigration.Proofs.Migration.Synchronisation
import ServerMigration.Proofs.Inventory.Reports
import ServerMigration.Proofs.Inventory.Listings
import ServerMigration.Proofs.Remote.Retries
import ServerMigration.Proofs.Lifecycle.Order
