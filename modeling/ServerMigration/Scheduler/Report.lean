import ServerMigration.Source.Basic

/-!
# Reports of a pass

## Main definitions

* `HostOutcome`, `HostReport` : how a source stopped.
* `PassReport` : how all sources of a pass stopped.
-/

namespace ServerMigration

/-- How a source stopped. -/
inductive HostOutcome
  /-- It sleeps at a status. -/
  | paused (status : SourceStatus)
  /-- Its target has taken over. -/
  | completed
  /-- It failed at a status. -/
  | failed (status : SourceStatus) (report : String)
  deriving DecidableEq, Repr, Inhabited

/-- The report on a source. -/
structure HostReport where
  /-- The source. -/
  sourceId : Uuid
  /-- Its name. -/
  name : String
  /-- How it stopped. -/
  outcome : HostOutcome
  deriving DecidableEq, Repr, Inhabited

namespace HostReport

/-- Whether the source sleeps. -/
def isPaused (report : HostReport) : Bool :=
  match report.outcome with
  | .paused _ => true
  | _ => false

/-- Whether the target has taken over. -/
def isCompleted (report : HostReport) : Bool := report.outcome = .completed

/-- Whether the source failed. -/
def isFailed (report : HostReport) : Bool :=
  match report.outcome with
  | .failed .. => true
  | _ => false

/-- Reports in the order of the names. -/
def ordered (reports : List HostReport) : List HostReport :=
  stableSort (fun a b => compareStrings a.name b.name) reports

end HostReport

/-- The report of a pass. -/
structure PassReport where
  /-- The reports on its sources. -/
  hosts : List HostReport := []
  /-- The most sources that were under way at once. -/
  maxInFlight : Nat := 0
  deriving DecidableEq, Repr, Inhabited

namespace PassReport

/-- The sources that failed. -/
def failed (report : PassReport) : List HostReport := report.hosts.filter HostReport.isFailed

/-- How many sources sleep. -/
def pausedCount (report : PassReport) : Nat := report.hosts.countP HostReport.isPaused

/-- How many targets have taken over. -/
def completedCount (report : PassReport) : Nat := report.hosts.countP HostReport.isCompleted

/-- Whether no source failed. -/
def isSuccess (report : PassReport) : Bool := report.failed.isEmpty

end PassReport

end ServerMigration
