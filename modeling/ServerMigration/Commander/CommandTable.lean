import ServerMigration.StableSort
import ServerMigration.Text.Literal

/-!
# Command tables

## Main definitions

* `CommandTable` : the commands that are bound to statuses.
* `CommandTable.insert`, `CommandTable.remove`, `CommandTable.get?`.
* `CommandTable.describe` : the table as text.
-/

namespace ServerMigration

/-- The commands that are bound to statuses, one for a status, in the order in which the statuses
were bound first. -/
structure CommandTable (S C : Type) where
  /-- The bound statuses with their commands. -/
  entries : List (S × C) := []
  deriving Repr, Inhabited

namespace CommandTable

variable {S C : Type} [DecidableEq S]

/-- The command of a status. -/
def get? (table : CommandTable S C) (s : S) : Option C :=
  table.entries.lookup s

/-- Binds a command to a status, in the place of one that is bound to it. -/
def insert (table : CommandTable S C) (s : S) (c : C) : CommandTable S C :=
  if (table.get? s).isSome then
    ⟨table.entries.map fun (t, d) => if t = s then (t, c) else (t, d)⟩
  else ⟨table.entries ++ [(s, c)]⟩

/-- Frees a status. -/
def remove (table : CommandTable S C) (s : S) : CommandTable S C :=
  ⟨table.entries.filter fun (t, _) => t ≠ s⟩

/-- The bound statuses. -/
def statuses (table : CommandTable S C) : List S :=
  table.entries.map (·.1)

/-- The number of bound statuses. -/
def size (table : CommandTable S C) : Nat := table.entries.length

variable [ToString S] [ToString C]

/-- The table as text, sorted. -/
def describe (table : CommandTable S C) : String :=
  let pairs := table.entries.map fun (s, c) => (toString s, toString c)
  let sorted := stableSort
    (fun a b => (compareStrings a.1 b.1).then (compareStrings a.2 b.2)) pairs
  let items := sorted.map fun (s, c) => s!"({Text.literal s}, {Text.literal c})"
  "CommandTable \x7b commands: [" ++ ", ".intercalate items ++ "] \x7d"

end CommandTable

end ServerMigration
