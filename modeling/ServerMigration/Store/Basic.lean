import ServerMigration.Plan.Basic

/-!
# Stores

A store keeps the documents of sources and runs.

## Main definitions

* `StoreCall`, `StoreCall.Reply` : the calls and what each of them returns.
* `StoreError` : why a call fails.
* `MemoryStore` : a store that lives as long as its process.
-/

namespace ServerMigration

/-- A call to a store. -/
inductive StoreCall
  | saveSource (source : Source)
  | loadSource (id : Uuid)
  /-- The sources of a run, ordered by name. -/
  | sourcesOfRun (runId : Uuid)
  | saveRun (run : MigrationRun)
  | loadRun (id : Uuid)

/-- What a call returns when it succeeds. -/
@[reducible] def StoreCall.Reply : StoreCall → Type
  | saveSource _ => Unit
  | loadSource _ => Source
  | sourcesOfRun _ => List Source
  | saveRun _ => Unit
  | loadRun _ => MigrationRun

/-- Why a call to a store fails. -/
inductive StoreError
  /-- There is no such document. -/
  | notFound (kind : String) (id : Uuid)
  /-- The file system refused. -/
  | io (path error : String)
  /-- A document cannot be read. -/
  | serialization
  deriving DecidableEq, Repr, Inhabited

/-- The name of an error's kind. -/
def StoreError.kind : StoreError → String
  | notFound .. => "NotFound"
  | io .. => "Io"
  | serialization => "Serialization"

/-- The text of an error. -/
def StoreError.message : StoreError → String
  | notFound kind id => s!"{kind} {id.text} not found"
  | io path error => s!"Store I/O failed for {path}: {error}"
  | serialization => "Store serialization failed"

/-- Sources in the order of their names. -/
def orderedByName (sources : List Source) : List Source :=
  stableSort (fun a b => compareStrings a.name b.name) sources

/-- A store that lives as long as its process: the documents that were saved last. -/
structure MemoryStore where
  /-- The sources, each saved once. -/
  sources : List Source := []
  /-- The runs, each saved once. -/
  runs : List MigrationRun := []
  deriving Inhabited

namespace MemoryStore

/-- Puts an element into the place of the one with its key, or at the end. -/
def upsert {α : Type} (key : α → Uuid) (x : α) : List α → List α
  | [] => [x]
  | y :: ys => if key y = key x then x :: ys else y :: upsert key x ys

/-- Answers a call. -/
def answer : (call : StoreCall) → StateM MemoryStore (Except StoreError call.Reply)
  | .saveSource source => do
    modify fun store => { store with sources := upsert (·.id) source store.sources }
    return .ok ()
  | .loadSource id => do
    match (← get).sources.find? (·.id = id) with
    | some source => return .ok source
    | none => return .error (.notFound "source" id)
  | .sourcesOfRun runId => do
    return .ok (orderedByName ((← get).sources.filter (·.runId = runId)))
  | .saveRun run => do
    modify fun store => { store with runs := upsert (·.id) run store.runs }
    return .ok ()
  | .loadRun id => do
    match (← get).runs.find? (·.id = id) with
    | some run => return .ok run
    | none => return .error (.notFound "run" id)

end MemoryStore

end ServerMigration
