import ServerMigration.Action
import ServerMigration.Config.Basic
import ServerMigration.Text.Blank
import ServerMigration.Text.Quoted
import ServerMigration.Text.Utf8

/-!
# Commands over ssh

A command is run on a host by starting an ssh client.  The client ends with a status of its own
when it cannot connect; it is then started again after a pause, for a configured number of times.

## Main definitions

* `Ssh.Ask`, `Ssh.Answer` : starting the client, and pausing.
* `Ssh.arguments` : the client's arguments.
* `Ssh.execute` : runs a command.
-/

namespace ServerMigration.Ssh

/-- What a process leaves when it ends. -/
structure ProcessOutput where
  /-- The exit status, unless a signal ended it. -/
  status : Option Int
  /-- What it printed. -/
  stdout : List UInt8
  /-- What it printed as an error. -/
  stderr : List UInt8
  deriving DecidableEq, Repr, Inhabited

/-- The exit status; minus one if a signal ended the process. -/
def ProcessOutput.exitCode (output : ProcessOutput) : Int :=
  output.status.getD (-1)

/-- What running a command needs. -/
inductive Ask
  /-- Start the client and wait for its end. -/
  | start (arguments : List String)
  /-- Wait. -/
  | pause (duration : Duration)
  deriving DecidableEq, Repr

/-- The answers: a client that could not be started gives the reason. -/
@[reducible] def Answer : Ask → Type
  | .start _ => Except String ProcessOutput
  | .pause _ => Unit

/-- Starts the client and waits for its end. -/
def start (arguments : List String) : Program Ask Answer (Except String ProcessOutput) :=
  Program.request (Ask.start arguments)

/-- Waits. -/
def pause (duration : Duration) : Program Ask Answer Unit :=
  Program.request (Ask.pause duration)

/-- The exit status by which the client says that it could not connect. -/
def connectionFailure : Int := 255

/-- The arguments of the client for a command on a host. -/
def arguments (config : SshConfig) (host : RemoteHost) (command : String) : List String :=
  ["-p", toString host.port.toNat, "-o", "BatchMode=yes",
    "-o", s!"ConnectTimeout={config.connectTimeoutSeconds.toNat}"]
  ++ (if config.strictHostKeyChecking then []
      else ["-o", "StrictHostKeyChecking=no", "-o", "UserKnownHostsFile=/dev/null"])
  ++ (match host.privateKeyPath with
      | some key => ["-i", key]
      | none => [])
  ++ [s!"{host.username}@{host.address}", "--", command]

/-- The command as the host's shell gets it: one that nobody waits for runs in the background,
apart from the connection. -/
def remoteCommand (command : String) (options : ExecOptions) : String :=
  if options.blockForResponse then command
  else s!"nohup sh -c {Text.shellWord command} >/dev/null 2>&1 &"

/-- How often the client is started while it cannot connect. -/
def attempts (config : SshConfig) : Nat :=
  max 1 config.connectRetries.toNat

/-- What comes of a client that connected. -/
def outcome (host : RemoteHost) (command : String) (options : ExecOptions)
    (output : ProcessOutput) : Except RemoteError String :=
  let stdout := Text.decodeUtf8 output.stdout
  if output.exitCode ≠ 0 ∧ options.raiseOnFailure then
    .error (.execution host.displayName command output.exitCode stdout
      (Text.decodeUtf8 output.stderr))
  else .ok stdout

/-- Starts the client at most `left` times more; `reason` is why the last start did not connect. -/
def executeFrom (config : SshConfig) (host : RemoteHost) (command : String)
    (options : ExecOptions) : (left : Nat) → (reason : String) →
    Program Ask Answer (Except RemoteError String)
  | 0, reason => return .error (.connection host.displayName (attempts config) reason)
  | left + 1, _ => do
    match ← start (arguments config host (remoteCommand command options)) with
    | .error reason =>
      return .error (.connection host.displayName (attempts config - left) reason)
    | .ok output =>
      if output.exitCode = connectionFailure then
        if left ≠ 0 then pause (.ofSeconds config.retryBackoffSeconds.toNat)
        executeFrom config host command options left
          (Text.trimmed (Text.decodeUtf8 output.stderr))
      else return outcome host command options output

/-- Runs a command on a host. -/
def execute (config : SshConfig) (host : RemoteHost) (command : String)
    (options : ExecOptions := {}) : Program Ask Answer (Except RemoteError String) :=
  executeFrom config host command options (attempts config) ""

end ServerMigration.Ssh
