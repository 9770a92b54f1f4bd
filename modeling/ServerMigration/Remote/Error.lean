/-!
# Errors of remote commands

## Main definitions

* `RemoteError`, `RemoteError.message`.
-/

namespace ServerMigration

/-- Why a command on a host did not succeed. -/
inductive RemoteError
  /-- The command ran and ended with an exit status other than zero. -/
  | execution (host command : String) (exitCode : Int) (stdout stderr : String)
  /-- The host was not reached. -/
  | connection (host : String) (attempts : Nat) (reason : String)
  deriving DecidableEq, Repr, Inhabited

namespace RemoteError

/-- The name of an error's kind. -/
def kind : RemoteError → String
  | execution .. => "Execution"
  | connection .. => "Connection"

/-- The text of an error. -/
def message : RemoteError → String
  | execution host command exitCode _ stderr =>
    s!"Command failed on {host} with exit code {exitCode}: {command}\n{stderr}"
  | connection host attempts reason =>
    s!"Could not connect to {host} after {attempts} attempt(s): {reason}"

/-- Whether the host was not reached. -/
def isConnection : RemoteError → Bool
  | connection .. => true
  | execution .. => false

end RemoteError

end ServerMigration
