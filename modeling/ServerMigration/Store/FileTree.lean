import ServerMigration.Text.Search

/-!
# File trees

Files and directories below a root that nobody else touches.  What an operation refuses, and with
which text, is what a POSIX system does.

## Main definitions

* `FileTree` : the files and directories.
* `FileTree.look` : what there is at a path.
* `FileTree.makeDirectory`, `FileTree.write`, `FileTree.rename`, `FileTree.children` : the
  operations.
* `FileError` : why an operation is refused.
-/

namespace ServerMigration

/-- Why an operation on files is refused. -/
inductive FileError
  /-- There is nothing at a path. -/
  | notFound
  /-- There is something else at a path. -/
  | alreadyExists
  /-- A file stands where a directory is needed. -/
  | notDirectory
  /-- A directory stands where a file is needed. -/
  | isDirectory
  deriving DecidableEq, Repr, Inhabited

/-- The text of an error, with its number. -/
def FileError.message : FileError → String
  | notFound => "No such file or directory (os error 2)"
  | alreadyExists => "File exists (os error 17)"
  | notDirectory => "Not a directory (os error 20)"
  | isDirectory => "Is a directory (os error 21)"

/-- What there is at a path. -/
inductive FileEntry
  | file (text : String)
  | directory
  deriving DecidableEq, Repr, Inhabited

/-- Files and directories by path: the names from below the root down to the entry. -/
structure FileTree where
  /-- The entries; every path occurs once, and what is above an entry is a directory. -/
  entries : List (List String × FileEntry) := []
  deriving Repr, Inhabited

namespace FileTree

/-- The entry at a path, without a look at what is above it.  The root is a directory. -/
def entryAt (tree : FileTree) (path : List String) : Option FileEntry :=
  if path.isEmpty then some .directory else tree.entries.lookup path

/-- `look` for the path `rest` below the directory `above`. -/
def lookFrom (tree : FileTree) (above : List String) :
    (rest : List String) → Except FileError FileEntry
  | [] =>
    match tree.entryAt above with
    | some entry => .ok entry
    | none => .error .notFound
  | name :: rest =>
    match tree.entryAt above with
    | some .directory => lookFrom tree (above ++ [name]) rest
    | some (.file _) => .error .notDirectory
    | none => .error .notFound

/-- What there is at a path. -/
def look (tree : FileTree) (path : List String) : Except FileError FileEntry :=
  tree.lookFrom [] path

/-- The text of the file at a path. -/
def readFile (tree : FileTree) (path : List String) : Except FileError String := do
  match ← tree.look path with
  | .file text => .ok text
  | .directory => .error .isDirectory

/-- Puts an entry in the place of the one at its path, or behind all others. -/
def putEntry (path : List String) (entry : FileEntry) :
    List (List String × FileEntry) → List (List String × FileEntry)
  | [] => [(path, entry)]
  | (other, old) :: entries =>
    if other = path then (path, entry) :: entries
    else (other, old) :: putEntry path entry entries

/-- The tree with an entry at a path. -/
def put (tree : FileTree) (path : List String) (entry : FileEntry) : FileTree :=
  ⟨putEntry path entry tree.entries⟩

/-- The tree without the entry at a path. -/
def remove (tree : FileTree) (path : List String) : FileTree :=
  ⟨tree.entries.filter (·.1 ≠ path)⟩

/-- `makeDirectory` for the path `rest` below the directory `above`. -/
def makeDirectoryFrom (tree : FileTree) (above : List String) :
    (rest : List String) → Except FileError FileTree
  | [] => .ok tree
  | name :: rest =>
    let path := above ++ [name]
    match tree.entryAt path with
    | none => makeDirectoryFrom (tree.put path .directory) path rest
    | some .directory => makeDirectoryFrom tree path rest
    | some (.file _) => .error (if rest.isEmpty then .alreadyExists else .notDirectory)

/-- Makes a directory and those above it, as far as they are not there. -/
def makeDirectory (tree : FileTree) (path : List String) : Except FileError FileTree :=
  tree.makeDirectoryFrom [] path

/-- Writes a file, in a directory that is there. -/
def write (tree : FileTree) (path : List String) (text : String) : Except FileError FileTree :=
  match tree.look path with
  | .ok .directory => .error .isDirectory
  | .ok (.file _) => .ok (tree.put path (.file text))
  | .error .notFound =>
    match tree.look path.dropLast with
    | .ok .directory => .ok (tree.put path (.file text))
    | .ok (.file _) => .error .notDirectory
    | .error error => .error error
  | .error error => .error error

/-- Moves a file to a path in a directory that is there; a file at that path gives way. -/
def rename (tree : FileTree) (source target : List String) : Except FileError FileTree := do
  let text ← tree.readFile source
  (tree.remove source).write target text

/-- The names in a directory. -/
def children (tree : FileTree) (path : List String) : Except FileError (List String) := do
  match ← tree.look path with
  | .directory =>
    .ok (tree.entries.filterMap fun (other, _) =>
      if other.dropLast = path then other.getLast? else none)
  | .file _ => .error .notDirectory

end FileTree

end ServerMigration
