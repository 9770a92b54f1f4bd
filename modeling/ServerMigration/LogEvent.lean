import ServerMigration.Cloud.Settings
import ServerMigration.Json.Codec

/-!
# Log events

What is logged about sources, about operations of the provider, and about errors: an event with
named texts.

## Main definitions

* `LogEvent` : an event.
* `LogEvent.sourceOperation`, `LogEvent.cloudOperation`, `LogEvent.failure` : the events.
* `LogEvent.toJson` : an event as it is written.
-/

namespace ServerMigration

/-- How much an event matters. -/
inductive LogLevel
  | info
  | error
  deriving DecidableEq, Repr, Inhabited

/-- The name of a level. -/
def LogLevel.name : LogLevel → String
  | info => "INFO"
  | error => "ERROR"

/-- An event. -/
structure LogEvent where
  /-- How much it matters. -/
  level : LogLevel
  /-- What it says. -/
  message : String
  /-- The texts that go with it. -/
  fields : List (String × String)
  deriving DecidableEq, Repr, Inhabited

namespace LogEvent

/-- The part of the program that these events come from. -/
def target : String := "migrator_core::logging"

/-- A text that may be missing. -/
def optionalField (name : String) : Option String → List (String × String)
  | some text => [(name, text)]
  | none => []

/-- Something happened to a source. -/
def sourceOperation (operation source status : String) (details : Option String) : LogEvent where
  level := .info
  message := "📋 SOURCE_OPERATION"
  fields := [("operation", operation), ("source", source), ("status", status)]
    ++ optionalField "details" details

/-- An operation of a provider ended, with an error or without. -/
def cloudOperation (operation : String) (provider : CloudProvider) (subject : String)
    (error : Option String) : LogEvent where
  level := if error.isSome then .error else .info
  message := if error.isSome then "❌ CLOUD_OPERATION" else "☁️ CLOUD_OPERATION"
  fields := [("operation", operation), ("provider", provider.name), ("subject", subject)]
    ++ optionalField "error" error

/-- Something failed. -/
def failure (component operation error : String) (context : Option String) : LogEvent where
  level := .error
  message := "❌ ERROR"
  fields := [("component", component), ("operation", operation), ("error", error)]
    ++ optionalField "context" context

/-- An event as it is written. -/
def toJson (event : LogEvent) : Json := .object [
  ("level", .string event.level.name), ("target", .string target),
  ("fields", .object (("message", .string event.message)
    :: event.fields.map fun (name, value) => (name, .string value)))]

end LogEvent

end ServerMigration
