import ServerMigration.Json.Reader
import ServerMigration.Json.Writer
import ServerMigration.Store.Basic
import ServerMigration.Store.FileTree

/-!
# Stores in files

A store in a directory: every document is a file of its own, named for its identifier, below
`sources` or `runs`.  A document is first written beside its file, which then takes its place, so
that nobody reads one that is not complete.

## Main definitions

* `FileStore` : the directory.
* `FileStore.answer` : the answers to calls, over a tree of files.
-/

namespace ServerMigration

/-- A store in a directory. -/
structure FileStore where
  /-- The directory. -/
  root : String
  deriving DecidableEq, Repr, Inhabited

namespace FileStore

/-- The text of a path below the store's directory. -/
def pathText (store : FileStore) (path : List String) : String :=
  path.foldl (fun text name =>
    if text.isEmpty || text.endsWith "/" then text ++ name else text ++ "/" ++ name) store.root

/-- The failure of an operation at a path. -/
def failure (store : FileStore) (path : List String) (error : FileError) : StoreError :=
  .io (store.pathText path) error.message

/-- The path of a document. -/
def pathOf (kind : String) (id : Uuid) : List String :=
  [kind, id.text ++ ".json"]

/-- The path at which a document is written first. -/
def stagingPath (kind : String) (id : Uuid) : List String :=
  [kind, id.text ++ ".json.tmp"]

/-- Whether a file with this name is a document: its extension is `json`, and there is something in
front of it. -/
def isDocumentName (name : String) : Bool :=
  match Text.afterPrefix ".json".toList.reverse name.toList.reverse with
  | some (_ :: _) => true
  | _ => false

/-- The document that a text holds. -/
def parseDocument {α : Type} [JsonCodec α] (text : String) : Except StoreError α :=
  match (Json.parse? text).map decode with
  | some (.ok document) => .ok document
  | _ => .error .serialization

/-- An operation on the tree, or its failure at a path; the tree stays as it is if it fails. -/
def change (store : FileStore) (path : List String)
    (operation : FileTree → Except FileError FileTree) :
    ExceptT StoreError (StateM FileTree) Unit := do
  match operation (← get) with
  | .ok tree => set tree
  | .error error => throw (store.failure path error)

/-- Writes a document. -/
def putDocument {α : Type} [JsonCodec α] (store : FileStore) (kind : String) (id : Uuid)
    (document : α) : ExceptT StoreError (StateM FileTree) Unit := do
  let staging := stagingPath kind id
  let path := pathOf kind id
  store.change [kind] (·.makeDirectory [kind])
  store.change staging (·.write staging (encode document).indented)
  store.change path (·.rename staging path)

/-- Reads a document; `name` says what it is. -/
def fetchDocument {α : Type} [JsonCodec α] (store : FileStore) (tree : FileTree)
    (kind name : String) (id : Uuid) : Except StoreError α :=
  let path := pathOf kind id
  match tree.readFile path with
  | .ok text => parseDocument text
  | .error .notFound => .error (.notFound name id)
  | .error error => .error (store.failure path error)

/-- Reads the sources of the files with these names, as far as they are documents. -/
def readSources (store : FileStore) (tree : FileTree) :
    (names : List String) → Except StoreError (List Source)
  | [] => .ok []
  | name :: names =>
    if isDocumentName name then do
      let path := ["sources", name]
      match tree.readFile path with
      | .ok text => return (← parseDocument text) :: (← readSources store tree names)
      | .error error => .error (store.failure path error)
    else readSources store tree names

/-- The sources of a run. -/
def sourcesOfRun (store : FileStore) (tree : FileTree) (runId : Uuid) :
    Except StoreError (List Source) :=
  match tree.children ["sources"] with
  | .ok names =>
    (store.readSources tree names).map fun sources =>
      orderedByName (sources.filter (·.runId = runId))
  | .error .notFound => .ok []
  | .error error => .error (store.failure ["sources"] error)

/-- Answers a call. -/
def answer (store : FileStore) :
    (call : StoreCall) → StateM FileTree (Except StoreError call.Reply)
  | .saveSource source => (store.putDocument "sources" source.id source).run
  | .loadSource id => do return store.fetchDocument (← get) "sources" "source" id
  | .sourcesOfRun runId => do return store.sourcesOfRun (← get) runId
  | .saveRun run => (store.putDocument "runs" run.id run).run
  | .loadRun id => do return store.fetchDocument (← get) "runs" "run" id

end FileStore

end ServerMigration
