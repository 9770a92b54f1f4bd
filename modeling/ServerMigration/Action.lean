import ServerMigration.Cloud.Error
import ServerMigration.Cloud.Request
import ServerMigration.Program
import ServerMigration.Remote.Error
import ServerMigration.Store.Basic

/-!
# Actions

The questions that a migration puts to its surroundings, gathered in one type: the time, fresh
identifiers, commands on hosts, calls to the datacenter, and the store.

## Main definitions

* `ExecOptions` : how a command is run on a host.
* `Site.Ask`, `Site.Answer` : the questions and the types of their answers.
* `Action` : programs over them, with one name for each question.
-/

namespace ServerMigration

/-- How a command is run on a host. -/
structure ExecOptions where
  /-- Whether an exit status other than zero is an error. -/
  raiseOnFailure : Bool := true
  /-- Whether to wait for the command; otherwise it is left to itself and prints nothing. -/
  blockForResponse : Bool := true
  deriving DecidableEq, Repr, Inhabited

/-- Takes what a command prints whatever its exit status is. -/
def ExecOptions.lenient : ExecOptions := { raiseOnFailure := false }

/-- Starts a command and does not wait for it. -/
def ExecOptions.detached : ExecOptions := { blockForResponse := false }

namespace Site

/-- A question to the surroundings. -/
inductive Ask
  /-- The time of day. -/
  | clock
  /-- The reading of a clock that only runs forward. -/
  | elapsed
  /-- Wait. -/
  | sleep (duration : Duration)
  /-- An identifier that is not in use. -/
  | freshId
  /-- What a command on a host prints. -/
  | remote (host : RemoteHost) (command : String) (options : ExecOptions)
  /-- A call to the datacenter. -/
  | datacenter (call : DatacenterCall)
  /-- A call to the store. -/
  | store (call : StoreCall)

/-- The answers to a question. -/
@[reducible] def Answer : Ask → Type
  | .clock => Instant
  | .elapsed => Duration
  | .sleep _ => Unit
  | .freshId => Uuid
  | .remote .. => Except RemoteError String
  | .datacenter call => Except CloudError call.Reply
  | .store call => Except StoreError call.Reply

end Site

/-- A computation that deals with the surroundings of a migration. -/
abbrev Action (α : Type) : Type := Program Site.Ask Site.Answer α

namespace Action

/-- The time of day. -/
def clock : Action Instant := Program.request Site.Ask.clock

/-- The reading of a clock that only runs forward. -/
def elapsed : Action Duration := Program.request Site.Ask.elapsed

/-- Waits. -/
def sleep (duration : Duration) : Action Unit := Program.request (Site.Ask.sleep duration)

/-- An identifier that is not in use. -/
def freshId : Action Uuid := Program.request Site.Ask.freshId

/-- Runs a command on a host. -/
def remote (host : RemoteHost) (command : String) (options : ExecOptions := {}) :
    Action (Except RemoteError String) :=
  Program.request (Site.Ask.remote host command options)

/-- Calls the datacenter. -/
def datacenter (call : DatacenterCall) : Action (Except CloudError call.Reply) :=
  Program.request (Site.Ask.datacenter call)

/-- Calls the store. -/
def store (call : StoreCall) : Action (Except StoreError call.Reply) :=
  Program.request (Site.Ask.store call)

end Action

end ServerMigration
