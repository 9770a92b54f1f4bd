import ServerMigration.Cloud.Error
import ServerMigration.Mapping.Error
import ServerMigration.Remote.Error

/-!
# What a step reports

A step goes on after the failure of an independent part and collects such failures; at its end a
collection that is not empty becomes one aggregated error.  Failures that end the step at once are
errors of their own.

## Main definitions

* `CommandError` : why a step failed.
* `StepErrors` : the failures collected so far.
* `Signal` : what a step may ask of the commander.
-/

namespace ServerMigration

/-- Why a step failed. -/
inductive CommandError
  /-- Some independent parts failed; the report joins all of them. -/
  | failed (command : String) (errorCount : Nat) (report : String)
  /-- Something that the step needs is not there. -/
  | precondition (command reason : String)
  /-- A remote command failed. -/
  | remote (error : RemoteError)
  /-- A cloud operation failed. -/
  | cloud (error : CloudError)
  /-- Devices or paths cannot be mapped. -/
  | mapping (error : MappingError)
  deriving DecidableEq, Repr, Inhabited

/-- The name of an error's kind; an error of another part keeps that part's name. -/
def CommandError.kind : CommandError → String
  | failed .. => "Failed"
  | precondition .. => "Precondition"
  | remote error => error.kind
  | cloud error => error.kind
  | mapping error => error.kind

/-- The text of an error. -/
def CommandError.message : CommandError → String
  | failed command errorCount report => s!"{command} failed with {errorCount} error(s):\n{report}"
  | precondition command reason => s!"{command} cannot run: {reason}"
  | remote error => error.message
  | cloud error => error.message
  | mapping error => error.message

/-- What a step may ask of the commander when it has done its work. -/
inductive Signal
  /-- Stay at the current status until someone resumes the migration. -/
  | sleep
  deriving DecidableEq, Repr, Inhabited

/-- The failures that a step has collected, in order. -/
abbrev StepErrors : Type := List String

namespace StepErrors

/-- Adds the failure of a part. -/
def record (errors : StepErrors) (operation error : String) : StepErrors :=
  errors ++ [s!"{operation}: {error}"]

/-- All failures as one report. -/
def report (errors : StepErrors) : String :=
  joinReport errors

/-- The aggregated error of a collection that is not empty. -/
def toExcept (errors : StepErrors) (command : String) : Except CommandError Unit :=
  if errors.isEmpty then .ok ()
  else .error (.failed command errors.length errors.report)

end StepErrors

end ServerMigration
