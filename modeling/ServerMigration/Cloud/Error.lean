import ServerMigration.Time.Duration

/-!
# Errors of the cloud provider

## Main definitions

* `CloudError`, `CloudError.message`.
-/

namespace ServerMigration

/-- Why a cloud operation did not succeed. -/
inductive CloudError
  /-- A setting is missing. -/
  | invalidSettings (reason : String)
  /-- There is no such provider. -/
  | unsupportedProvider (name : String)
  /-- The provider did not reach a state in time. -/
  | timedOut (operation : String) (waited : Duration)
  /-- The provider gave up a request. -/
  | requestFailed (operation requestId reason : String)
  /-- The provider refused a call. -/
  | api (status : UInt16) (reason : String)
  /-- No answer came, or one that cannot be read. -/
  | http
  /-- An answer lacks something or holds something unexpected. -/
  | invalidResponse (field reason : String)
  deriving DecidableEq, Repr, Inhabited

/-- The name of an error's kind. -/
def CloudError.kind : CloudError → String
  | invalidSettings _ => "InvalidCloudSettings"
  | unsupportedProvider _ => "UnsupportedProvider"
  | timedOut .. => "CloudConnection"
  | requestFailed .. => "RequestFailed"
  | api .. => "Api"
  | http => "Http"
  | invalidResponse .. => "InvalidResponse"

/-- The text of an error. -/
def CloudError.message : CloudError → String
  | invalidSettings reason => s!"Invalid cloud settings: {reason}"
  | unsupportedProvider name => s!"Unsupported cloud provider: {name}"
  | timedOut operation waited => s!"Timed out after {waited.text} waiting for {operation}"
  | requestFailed operation requestId reason =>
    s!"Provider request {requestId} for {operation} failed: {reason}"
  | api status reason => s!"API error: {status.toNat} - {reason}"
  | http => "HTTP request failed"
  | invalidResponse field reason => s!"Invalid response: {field} - {reason}"

end ServerMigration
