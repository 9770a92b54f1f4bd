import ServerMigration.Rehearsal.Script
import ServerMigration.Remote.Ssh
import ServerMigration.Text.Numeral

/-!
# A rehearsed ssh client

What each start of the client does is laid down in a script; a start for which there is none ends
at once, without an error.

## Main definitions

* `SshClient` : the script, and a record of the starts.
* `SshClient.run` : runs a command over it.
-/

namespace ServerMigration.Rehearsal

/-- The bytes that pairs of hexadecimal digits stand for. -/
def hexBytes? : List Char → Option (List UInt8)
  | [] => some []
  | [_] => none
  | high :: low :: rest => do
    let high ← Text.hexValue? high
    let low ← Text.hexValue? low
    return (high * 16 + low).toUInt8 :: (← hexBytes? rest)

/-- A stream of a process: bytes in hexadecimal, or text. -/
def streamOfJson (json : Json) (key : String) : Decoded (List UInt8) := do
  let hex : Option String ← optional json (key ++ "_hex") none
  match hex with
  | some digits => Json.expect (hexBytes? digits.toList)
  | none => return Text.encodeUtf8 (← optional json key "")

/-- Reads what a start of the client does.  A status has eight bits. -/
def processOfJson (json : Json) : Decoded Ssh.ProcessOutput := do
  let exit ← match json.field? "exit" with
    | none | some .null => .ok 0
    | some value => Json.expect value.whole?
  let killed ← optional json "killed" false
  return {
    status := if killed then none else some (exit % 256)
    stdout := ← streamOfJson json "stdout"
    stderr := ← streamOfJson json "stderr" }

/-- A client. -/
structure SshClient where
  /-- Whether there is no such program. -/
  missing : Bool := false
  /-- What the next starts do. -/
  starts : List Ssh.ProcessOutput := []
  /-- The arguments of the starts so far. -/
  invocations : List (List String) := []
  /-- The time spent in pauses. -/
  waited : Duration := ⟨0⟩
  deriving Repr, Inhabited

namespace SshClient

/-- Reads a script. -/
def ofJson (json : Json) : Decoded SshClient := return {
  missing := ← optional json "missing_binary" false
  starts := ← optionalList processOfJson json "attempts" }

/-- Starts the client.  An argument cannot hold the character zero. -/
def start (arguments : List String) : StateM SshClient (Except String Ssh.ProcessOutput) := do
  if arguments.any fun argument => argument.toList.contains '\x00' then
    return .error "nul byte found in provided data"
  let client ← get
  if client.missing then return .error "No such file or directory (os error 2)"
  let (output, starts) := takeNext false client.starts
  set { client with starts, invocations := client.invocations ++ [arguments] }
  return .ok (output.getD ⟨some 0, [], []⟩)

/-- Answers a question. -/
def answer : (q : Ssh.Ask) → StateM SshClient (Ssh.Answer q)
  | .start arguments => start arguments
  | .pause duration => modify fun client => { client with waited := client.waited + duration }

/-- Runs a command. -/
def run {α : Type} (program : Program Ssh.Ask Ssh.Answer α) (client : SshClient) :
    α × SshClient :=
  (Program.run answer program).run client

/-- The options that a rehearsal names. -/
def optionsOfJson (json : Json) : Decoded ExecOptions := do
  match json.field? "options" with
  | none | some .null => .ok {}
  | some (.string "lenient") => .ok .lenient
  | some (.string "detached") => .ok .detached
  | _ => .error .mismatch

end SshClient

end ServerMigration.Rehearsal
