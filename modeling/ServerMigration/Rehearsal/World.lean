import ServerMigration.Action
import ServerMigration.Rehearsal.Datacenter

/-!
# Rehearsed surroundings

The surroundings of a migration in a rehearsal.  Only sleeping takes time.  What a command on a
host prints is laid down by rules, of which the first that fits counts.

## Main definitions

* `Rule` : what a command prints.
* `World` : the surroundings, and a record of what was asked of them.
* `World.answer` : the answers to the questions of a migration.
-/

namespace ServerMigration.Rehearsal

/-- What commands do whose text contains a word. -/
structure Rule where
  /-- The address of the host, if it matters. -/
  host : Option String
  /-- The word. -/
  word : String
  /-- What is printed. -/
  out : String
  /-- The exit status. -/
  exit : Int
  /-- What is printed as an error. -/
  stderr : String
  /-- Why the host cannot be reached, if so. -/
  unreachable : Option String
  /-- Whether whoever runs the command is lost. -/
  lost : Bool
  deriving Repr, Inhabited

/-- Reads a rule. -/
def Rule.ofJson (json : Json) : Decoded Rule := do
  let exit ← match json.field? "exit" with
    | none | some .null => .ok 0
    | some value => Json.expect value.whole?
  return {
    host := ← optional json "on" none
    word := ← required json "contains"
    out := ← optional json "out" ""
    exit
    stderr := ← optional json "stderr" ""
    unreachable := ← optional json "unreachable" none
    lost := ← optional json "panic" false }

/-- A document whose saving fails. -/
structure SaveFailure where
  /-- The name of the source, if it matters. -/
  name : Option String
  /-- The status of the source, if it matters. -/
  status : Option String
  deriving Repr, Inhabited

/-- Reads a failure. -/
def SaveFailure.ofJson (json : Json) : Decoded SaveFailure :=
  return ⟨← optional json "name" none, ← optional json "status" none⟩

/-- A command that was run. -/
structure Executed where
  /-- The host. -/
  host : String
  /-- The command. -/
  command : String
  /-- Whether its exit status did not matter. -/
  lenient : Bool
  deriving Repr, Inhabited

/-- The surroundings. -/
structure World where
  /-- The time that has passed. -/
  elapsed : Duration := ⟨0⟩
  /-- How many identifiers have been given out. -/
  issued : Nat := 0
  /-- What commands do. -/
  rules : List (Scripted Rule) := []
  /-- The datacenter. -/
  datacenter : Datacenter := {}
  /-- The store. -/
  store : MemoryStore := {}
  /-- The saves that fail. -/
  saveFailures : List (Scripted SaveFailure) := []
  /-- The commands so far. -/
  log : List Executed := []
  deriving Inhabited

namespace World

/-- When a rehearsal begins. -/
def beginning : Instant := ⟨1717200000, 0⟩

/-- The time of day. -/
def now (world : World) : Instant := beginning.after world.elapsed

/-- The identifiers that are given out. -/
def identifier (n : Nat) : Uuid := ⟨.ofNat 128 (0x5eed0e55000040008000000000000000 + n)⟩

/-- What a rule makes of a command. -/
def Rule.apply (rule : Rule) (host : RemoteHost) (command : String) (options : ExecOptions) :
    Except RemoteError String :=
  match rule.unreachable with
  | some reason => .error (.connection host.displayName 3 reason)
  | none =>
    if rule.exit ≠ 0 ∧ options.raiseOnFailure then
      .error (.execution host.displayName command rule.exit rule.out rule.stderr)
    else .ok rule.out

/-- Runs a command; there is no result if whoever runs it is lost. -/
def execute (host : RemoteHost) (command : String) (options : ExecOptions) :
    OptionT (StateM World) (Except RemoteError String) := do
  modify fun world => { world with
    log := world.log ++ [⟨host.displayName, command, !options.raiseOnFailure⟩] }
  let world ← get
  match useFirst (fun rule : Rule =>
    rule.host.all (· = host.address) && Text.contains command rule.word) world.rules with
  | (some rule, rules) =>
    set { world with rules }
    if rule.lost then failure
    return Rule.apply rule host command options
  | (none, _) => return .ok ""

/-- Calls the store. -/
def callStore (call : StoreCall) : StateM World (Except StoreError call.Reply) := do
  let world ← get
  let refuses (source : Source) (failure : SaveFailure) : Bool :=
    failure.name.all (· = source.name) && failure.status.all (· = source.status.name)
  let (failed, saveFailures) := match call with
    | .saveSource source => useFirst (refuses source) world.saveFailures
    | _ => (none, world.saveFailures)
  set { world with saveFailures }
  if failed.isSome then return .error (.io "scripted" "disk full")
  let (reply, store) := (MemoryStore.answer call).run world.store
  modify fun world => { world with store }
  return reply

/-- Calls the datacenter. -/
def callDatacenter (call : DatacenterCall) : StateM World (Except CloudError call.Reply) := do
  let world ← get
  let (reply, datacenter) := (Datacenter.answer call).run world.datacenter
  set { world with datacenter }
  return reply

/-- Answers a question. -/
def answer : (q : Site.Ask) → OptionT (StateM World) (Site.Answer q)
  | .clock => return (← get).now
  | .elapsed => return (← get).elapsed
  | .sleep duration => modify fun world => { world with elapsed := world.elapsed + duration }
  | .freshId => do
    let world ← get
    set { world with issued := world.issued + 1 }
    return identifier world.issued
  | .remote host command options => execute host command options
  | .datacenter call => (callDatacenter call : StateM World _)
  | .store call => (callStore call : StateM World _)

/-- Runs an action. -/
def run {α : Type} (action : Action α) (world : World) : Option α × World :=
  (Program.run answer action).run.run world

end World

end ServerMigration.Rehearsal
