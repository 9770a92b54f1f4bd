import ServerMigration.Rehearsal.Script
import ServerMigration.Store.FileStore

/-!
# Rehearsing a store

A store of either kind, and operations on it in JSON.  Over files there are also operations on the
files themselves, past the store.

## Main definitions

* `Storage` : a store and what it holds.
* `Storage.perform` : an operation.
-/

namespace ServerMigration.Rehearsal

/-- A store and what it holds. -/
inductive Storage
  | memory (store : MemoryStore)
  | files (tree : FileTree)

namespace Storage

/-- The directory of a store over files. -/
def store : FileStore := ⟨"<root>"⟩

/-- Reads the kind of a store that holds nothing yet. -/
def ofJson (json : Json) : Decoded Storage := do
  match ← required json "backend" with
  | "memory" => return .memory {}
  | "file" => return .files {}
  | _ => .error .mismatch

/-- Calls the store. -/
def call (call : StoreCall) : Storage → Except StoreError call.Reply × Storage
  | .memory held => let (reply, held) := (MemoryStore.answer call).run held; (reply, .memory held)
  | .files tree => let (reply, tree) := (store.answer call).run tree; (reply, .files tree)

/-- The names on a path. -/
def pathOf (text : String) : List String :=
  ((Text.splitOn '/' text.toList).map String.ofList).filter fun name => name ∉ ["", "."]

/-- The documents and whatever else is beside them. -/
def listed (tree : FileTree) : List String :=
  stableSort compareStrings <| ["runs", "sources"].flatMap fun kind =>
    ((tree.children [kind]).toOption.getD []).map fun name => kind ++ "/" ++ name

/-- An operation on files, past the store.  What is refused changes nothing. -/
def performOnFiles (tree : FileTree) (json : Json) (operation : String) :
    Decoded (Json × FileTree) := do
  let path := pathOf <$> required json "path"
  match operation with
  | "write_file" =>
    let path ← path
    let text ← required json "text"
    let written := do (← tree.makeDirectory path.dropLast).write path text
    return (.null, written.toOption.getD tree)
  | "make_dir" => return (.null, (tree.makeDirectory (← path)).toOption.getD tree)
  | "read_file" => return (encode (tree.readFile (← path)).toOption, tree)
  | "list" => return (encode (listed tree), tree)
  | _ => .error .mismatch

/-- A source in a list. -/
def rowOf (source : Source) : Json :=
  encode [source.name, source.id.text]

/-- Calls the store and writes the answer in JSON. -/
def callJson (storage : Storage) (question : StoreCall) (write : question.Reply → Json) :
    Except StoreError Json × Storage :=
  let (reply, storage) := storage.call question
  (reply.map write, storage)

/-- An operation. -/
def perform (storage : Storage) (json : Json) : Decoded (Except StoreError Json × Storage) := do
  let id := required json "id"
  let saved : Unit → Json := fun _ => .string "saved"
  match ← required json "do" with
  | "save_source" => return storage.callJson (.saveSource (← required json "source")) saved
  | "save_run" => return storage.callJson (.saveRun (← required json "run")) saved
  | "load_source" => return storage.callJson (.loadSource (← id)) encode
  | "load_run" => return storage.callJson (.loadRun (← id)) encode
  | "sources_for_run" =>
    return storage.callJson (.sourcesOfRun (← id)) fun sources => .array (sources.map rowOf)
  | "root" => return (.ok (.string (FileStore.mk (← required json "path")).root), storage)
  | operation =>
    match storage with
    | .memory _ =>
      if operation = "reopen" then return (.ok .null, .memory {}) else .error .mismatch
    | .files tree =>
      if operation = "reopen" then return (.ok .null, storage)
      let (answer, tree) ← performOnFiles tree json operation
      return (.ok answer, .files tree)

end Storage

end ServerMigration.Rehearsal
