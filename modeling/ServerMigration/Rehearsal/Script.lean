import ServerMigration.Json.Codec

/-!
# Scripts

What the surroundings do in a rehearsal is laid down in scripts: lists of entries, some of which
are good for a number of uses only.

## Main definitions

* `Scripted` : an entry with its uses.
* `useFirst` : uses the first entry that fits.
* `optional`, `optionalList`, `scripted` : parts of a script in JSON.
-/

namespace ServerMigration.Rehearsal

/-- An entry of a script. -/
structure Scripted (α : Type) where
  /-- What it says. -/
  value : α
  /-- How often it may still be used; without a number, always. -/
  times : Option UInt64
  deriving Repr, Inhabited

/-- The first entry that fits, and the entries that are left: it is dropped after its last use. -/
def useFirst {α : Type} (fits : α → Bool) : List (Scripted α) → Option α × List (Scripted α)
  | [] => (none, [])
  | entry :: entries =>
    if fits entry.value then
      let left := entry.times.map fun times => times.toNat - 1
      (some entry.value,
        if left = some 0 then entries
        else { entry with times := left.map (·.toUInt64) } :: entries)
    else
      let (found, rest) := useFirst fits entries
      (found, entry :: rest)

/-- The first element of a list that is used up; the last one of `repeating` lists stays. -/
def takeNext {α : Type} (repeating : Bool) : List α → Option α × List α
  | [] => (none, [])
  | [last] => (some last, if repeating then [last] else [])
  | next :: rest => (some next, rest)

/-! ### Scripts in JSON -/

/-- A part that may be missing. -/
def optional {α : Type} [JsonCodec α] (json : Json) (key : String) (default : α) : Decoded α :=
  match json.field? key with
  | none | some .null => .ok default
  | some value => decode value

/-- A list that may be missing. -/
def optionalList {α : Type} (read : Json → Decoded α) (json : Json) (key : String) :
    Decoded (List α) :=
  match json.field? key with
  | none | some .null => .ok []
  | some (.array items) => items.mapM read
  | some _ => .error .mismatch

/-- A part that has to be there. -/
def required {α : Type} [JsonCodec α] (json : Json) (key : String) : Decoded α :=
  match json.field? key with
  | some value => decode value
  | none => .error .mismatch

/-- An entry with its uses. -/
def scripted {α : Type} (read : Json → Decoded α) (json : Json) : Decoded (Scripted α) :=
  return ⟨← read json, ← optional json "times" none⟩

end ServerMigration.Rehearsal
