import ServerMigration.Text.Numeral

/-!
# Errors of the device mapping

## Main definitions

* `reportSeparator` : stands between the parts of an aggregated report.
* `MappingError`, `MappingError.message`.
-/

namespace ServerMigration

/-- Stands between the parts of an aggregated report. -/
def reportSeparator : String := "\n----------\n"

/-- The parts of a report, joined. -/
def joinReport (parts : List String) : String := reportSeparator.intercalate parts

/-- Why devices or paths of the source cannot be mapped onto the target. -/
inductive MappingError
  /-- Some devices have no counterpart, and so nothing was mapped. -/
  | unidentified (failures : List String)
  /-- A mapping is recorded already. -/
  | alreadyIdentified
  /-- No mapping is recorded yet. -/
  | notIdentified
  /-- A host has no inventory. -/
  | missingSystemInfo (host : String)
  /-- A path or device cannot be resolved. -/
  | invalidPath (path reason : String)
  deriving DecidableEq, Repr, Inhabited

/-- The name of an error's kind. -/
def MappingError.kind : MappingError → String
  | unidentified _ => "Unidentified"
  | alreadyIdentified => "AlreadyIdentified"
  | notIdentified => "NotIdentified"
  | missingSystemInfo _ => "MissingSystemInfo"
  | invalidPath .. => "InvalidPath"

/-- The text of an error. -/
def MappingError.message : MappingError → String
  | unidentified failures =>
    s!"Device identification failed for {failures.length} device(s):\n" ++ joinReport failures
  | alreadyIdentified =>
    "Devices were already identified for this target; the mapping is never recomputed"
  | notIdentified => "Devices have not been identified for this target yet"
  | missingSystemInfo host => s!"No system info recorded for {host}"
  | invalidPath path reason => "Invalid path '" ++ path ++ "': " ++ reason

end ServerMigration
