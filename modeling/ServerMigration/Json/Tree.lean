import ServerMigration.Json.Codec

/-!
# Documents that hold documents of their own type

Some records hold, under one field, a dictionary of records of the same type.  They are read by
recursion on the JSON value.

## Main definitions

* `decodeTree` : reads such a record, given how its other fields are read.
* `decodeForest` : reads a dictionary of such records.
-/

namespace ServerMigration

section

variable {α : Type} (node : Record → Dict α → Decoded α) (names : List String) (below : String)

mutual

/-- Reads a record with the fields `names`, of which `below` holds records of the same type and
may be missing. -/
def decodeTree : Json → Decoded α
  | .object fields => do
    node (← Record.ofJson names (.object fields)) (← forestIn fields)
  | .array items => do
    node (← Record.ofJson names (.array items)) (← forestAt names items)
  | _ => .error .mismatch

/-- Reads a dictionary of such records. -/
def decodeForest : Json → Decoded (Dict α)
  | .object fields => return Dict.ofList (← decodeTrees fields)
  | _ => .error .mismatch

/-- The dictionary under the field `below` of an object. -/
def forestIn : List (String × Json) → Decoded (Dict α)
  | [] => .ok []
  | (key, value) :: fields => if key = below then decodeForest value else forestIn fields

/-- The dictionary at the place of the field `below` in an array. -/
def forestAt : List String → List Json → Decoded (Dict α)
  | name :: names, item :: items => if name = below then decodeForest item else forestAt names items
  | _, _ => .ok []

/-- Reads every record of a dictionary. -/
def decodeTrees : List (String × Json) → Decoded (List (String × α))
  | [] => .ok []
  | (key, value) :: fields => return (key, ← decodeTree value) :: (← decodeTrees fields)

end

end

end ServerMigration
