import ServerMigration.Json.Token

/-!
# Reading JSON

A reader takes one token at a time and keeps the containers that are still open.  A text may nest
at most 127 containers.

## Main definitions

* `Reader` : the open containers and what may come next.
* `Reader.step` : reads one token.
* `parse?` : the value that a text denotes.
* `beginning?` : what a text denotes up to its first fault.
-/

namespace ServerMigration.Json

/-- A container that is still open, with what it holds so far in reverse. -/
inductive Frame
  | array (items : List Json)
  /-- An object, and the key whose value is being read. -/
  | object (fields : List (String × Json)) (key : String)

/-- What may come next. -/
inductive Expected
  /-- A value. -/
  | value
  /-- The first item of the innermost array, or its end. -/
  | firstItem
  /-- The first key of an object that has just been opened, or its end. -/
  | firstKey
  /-- Another key of an object with these fields. -/
  | key (fields : List (String × Json))
  /-- The colon behind a key. -/
  | colon
  /-- A comma or the end of the innermost container, whose latest value is given. -/
  | more (latest : Json)

/-- The state of a reader. -/
structure Reader where
  /-- The open containers, innermost first. -/
  open_ : List Frame
  /-- What may come next. -/
  expected : Expected

namespace Reader

/-- The number of containers that may be open at once. -/
def maxDepth : Nat := 127

/-- A reader at the start of a text. -/
def start : Reader := ⟨[], .value⟩

/-- Reads a token where a value may begin. -/
def beginValue (frames : List Frame) : Token → Option Reader
  | .null => some ⟨frames, .more .null⟩
  | .bool b => some ⟨frames, .more (.bool b)⟩
  | .number n => some ⟨frames, .more (.number n)⟩
  | .string s => some ⟨frames, .more (.string s)⟩
  | .openArray => if frames.length < maxDepth then some ⟨.array [] :: frames, .firstItem⟩ else none
  | .openObject => if frames.length < maxDepth then some ⟨frames, .firstKey⟩ else none
  | _ => none

/-- Reads one token. -/
def step : Reader → Token → Option Reader
  | ⟨frames, .value⟩, token => beginValue frames token
  | ⟨.array _ :: frames, .firstItem⟩, .closeArray => some ⟨frames, .more (.array [])⟩
  | ⟨frames, .firstItem⟩, token => beginValue frames token
  | ⟨frames, .firstKey⟩, .closeObject => some ⟨frames, .more (.object [])⟩
  | ⟨frames, .firstKey⟩, .string key => some ⟨.object [] key :: frames, .colon⟩
  | ⟨frames, .key fields⟩, .string key => some ⟨.object fields key :: frames, .colon⟩
  | ⟨frames, .colon⟩, .colon => some ⟨frames, .value⟩
  | ⟨.array items :: frames, .more latest⟩, .comma =>
    some ⟨.array (latest :: items) :: frames, .value⟩
  | ⟨.array items :: frames, .more latest⟩, .closeArray =>
    some ⟨frames, .more (.array (latest :: items).reverse)⟩
  | ⟨.object fields key :: frames, .more latest⟩, .comma =>
    some ⟨frames, .key ((key, latest) :: fields)⟩
  | ⟨.object fields key :: frames, .more latest⟩, .closeObject =>
    some ⟨frames, .more (.object ((key, latest) :: fields).reverse)⟩
  | _, _ => none

/-- The value read, if the text may end here. -/
def result? : Reader → Option Json
  | ⟨[], .more json⟩ => some json
  | _ => none

/-- Reads tokens up to the first one that does not fit. -/
def upToFault (reader : Reader) : List Token → Reader
  | [] => reader
  | token :: tokens =>
    match reader.step token with
    | some next => next.upToFault tokens
    | none => reader

/-- The value of the innermost open container, or the latest value in it, and whether that value
has come to its end. -/
def latest? : Expected → Option (Json × Bool)
  | .more latest => some (latest, true)
  | .key fields => some (.object fields.reverse, false)
  | .firstKey => some (.object [], false)
  | .value | .firstItem | .colon => none

/-- Closes the open containers around a value.  Under one of the keys `atoms` a value counts only
if it has come to its end. -/
def close (atoms : List String) (latest : Option (Json × Bool)) : List Frame → Option Json
  | [] => latest.map (·.1)
  | .array items :: frames =>
    let items := (latest.map (·.1)).toList ++ items
    close atoms (some (.array items.reverse, false)) frames
  | .object fields key :: frames =>
    let kept := latest.filter fun (_, ended) => ended || key ∉ atoms
    let fields := kept.toList.map (fun (value, _) => (key, value)) ++ fields
    close atoms (some (.object fields.reverse, false)) frames

end Reader

/-- The value that a text denotes. -/
def parse? (text : String) : Option Json := do
  (← (tokens text).foldlM Reader.step Reader.start).result?

/-- The value that a text denotes if its containers are closed at the first fault; under the keys
`atoms` only values that have come to their end are kept. -/
def beginning? (atoms : List String) (text : String) : Option Json :=
  let reader := Reader.start.upToFault (tokens text)
  Reader.close atoms (Reader.latest? reader.expected) reader.open_

end ServerMigration.Json
