import ServerMigration.Yaml.Token

/-!
# The structure of YAML text

Flow collections are delimited by their marks and block collections by the column of their first
token: an entry starts at that column, a value stands further to the right, and a token to the left
ends the collection.

## Main definitions

* `Node` : scalars, sequences and mappings.
* `Node.parse?` : the node of a text.
-/

namespace ServerMigration.Yaml

/-- A node. -/
inductive Node
  /-- A value that is left out. -/
  | empty
  | scalar (scalar : Scalar)
  | sequence (items : List Node)
  | mapping (fields : List (Scalar × Node))
  deriving Repr

/-- Whether a key starts here: a scalar with a colon behind it on its line. -/
def startsKey : List Token → Bool
  | ⟨.scalar _, at_⟩ :: ⟨.colon, colon⟩ :: _ => at_.line = colon.line
  | _ => false

/-- A plain scalar goes on over the lines below that stand to the right of a column.  The first
argument bounds the number of lines. -/
def continuePlain (column : Nat) : (fuel : Nat) → String → List Token → String × List Token
  | fuel + 1, text, tokens@(⟨.scalar ⟨more, false⟩, place⟩ :: rest) =>
    if column ≤ place.column && !startsKey tokens then
      continuePlain column fuel (text ++ " " ++ more) rest
    else (text, tokens)
  | _, text, tokens => (text, tokens)

/-- A scalar node that stands to the right of a column. -/
def scalarNode (column : Nat) (scalar : Scalar) (tokens : List Token) : Node × List Token :=
  if scalar.quoted then (.scalar scalar, tokens)
  else
    let (text, rest) := continuePlain column tokens.length scalar.text tokens
    (.scalar ⟨text, false⟩, rest)

/-! ### Flow collections

The first argument bounds the nesting and the number of entries. -/

mutual

/-- A node within a flow collection. -/
def flowNode : (fuel : Nat) → List Token → Option (Node × List Token)
  | fuel + 1, ⟨.openSequence, _⟩ :: tokens => flowItems fuel [] tokens
  | fuel + 1, ⟨.openMapping, _⟩ :: tokens => flowFields fuel [] tokens
  | _ + 1, ⟨.scalar scalar, _⟩ :: tokens => some (scalarNode 0 scalar tokens)
  | _, _ => none

/-- The rest of a flow sequence, behind the items that have been read, in reverse. -/
def flowItems : (fuel : Nat) → List Node → List Token → Option (Node × List Token)
  | _, items, ⟨.closeSequence, _⟩ :: tokens => some (.sequence items.reverse, tokens)
  | fuel + 1, items, tokens => do
    match ← flowNode fuel tokens with
    | (item, ⟨.comma, _⟩ :: tokens) => flowItems fuel (item :: items) tokens
    | (item, ⟨.closeSequence, _⟩ :: tokens) => some (.sequence (item :: items).reverse, tokens)
    | _ => none
  | 0, _, _ => none

/-- The rest of a flow mapping, behind the fields that have been read, in reverse. -/
def flowFields : (fuel : Nat) → List (Scalar × Node) → List Token → Option (Node × List Token)
  | _, fields, ⟨.closeMapping, _⟩ :: tokens => some (.mapping fields.reverse, tokens)
  | fuel + 1, fields, ⟨.scalar key, _⟩ :: tokens => do
    match ← flowValue fuel tokens with
    | (value, ⟨.comma, _⟩ :: tokens) => flowFields fuel ((key, value) :: fields) tokens
    | (value, ⟨.closeMapping, _⟩ :: tokens) =>
      some (.mapping ((key, value) :: fields).reverse, tokens)
    | _ => none
  | _, _, _ => none

/-- The value behind a key of a flow mapping; it may be left out. -/
def flowValue : (fuel : Nat) → List Token → Option (Node × List Token)
  | fuel + 1, ⟨.colon, _⟩ :: tokens =>
    match tokens with
    | ⟨.comma, _⟩ :: _ | ⟨.closeMapping, _⟩ :: _ => some (.empty, tokens)
    | _ => flowNode fuel tokens
  | _ + 1, tokens => some (.empty, tokens)
  | 0, _ => none

end

/-! ### Block collections -/

/-- Whether the next token starts an entry at a column. -/
def entryAt (column : Nat) : List Token → Bool
  | token :: _ => token.place.column = column
  | [] => false

/-- Whether the next token stands to the right of a column. -/
def indentedBehind (column : Nat) : List Token → Bool
  | token :: _ => column < token.place.column
  | [] => false

mutual

/-- A node whose lines stand at least at a column.  Behind a key on the same line no block
collection starts. -/
def blockNode :
    (fuel : Nat) → (column : Nat) → (behindKey : Bool) → List Token → Option (Node × List Token)
  | fuel + 1, column, behindKey, tokens =>
    match tokens with
    | ⟨.dash, place⟩ :: _ => if behindKey then none else blockItems fuel place.column [] tokens
    | ⟨.scalar scalar, place⟩ :: rest =>
      if startsKey tokens then
        if behindKey then none else blockFields fuel place.column [] tokens
      else some (scalarNode column scalar rest)
    | _ => flowNode (2 * tokens.length) tokens
  | 0, _, _, _ => none

/-- The rest of a block sequence at a column, behind the items that have been read, in reverse. -/
def blockItems : (fuel : Nat) → (column : Nat) → List Node → List Token → Option (Node × List Token)
  | fuel + 1, column, items, ⟨.dash, place⟩ :: tokens => do
    if place.column ≠ column then none
    let (item, tokens) ←
      if indentedBehind column tokens then blockNode fuel (column + 1) false tokens
      else some (.empty, tokens)
    if indentedBehind column tokens then none
    match tokens with
    | ⟨.dash, next⟩ :: _ =>
      if next.column = column then blockItems fuel column (item :: items) tokens
      else some (.sequence (item :: items).reverse, tokens)
    | _ => some (.sequence (item :: items).reverse, tokens)
  | _, _, _, _ => none

/-- The rest of a block mapping at a column, behind the fields that have been read, in reverse. -/
def blockFields :
    (fuel : Nat) → (column : Nat) → List (Scalar × Node) → List Token → Option (Node × List Token)
  | fuel + 1, column, fields, tokens =>
    match tokens with
    | ⟨.scalar key, _⟩ :: ⟨.colon, colon⟩ :: tokens => do
      let (value, tokens) ← blockValue fuel column colon.line tokens
      if indentedBehind column tokens then none
      if entryAt column tokens then
        if startsKey tokens then blockFields fuel column ((key, value) :: fields) tokens else none
      else some (.mapping ((key, value) :: fields).reverse, tokens)
    | _ => none
  | 0, _, _, _ => none

/-- The value behind a key at a column: on the line of its colon, or below it and further to the
right; a sequence may also stand at the column of the key. -/
def blockValue : (fuel : Nat) → (column line : Nat) → List Token → Option (Node × List Token)
  | fuel + 1, column, line, tokens =>
    match tokens with
    | [] => some (.empty, [])
    | token :: _ =>
      if token.place.line = line then blockNode fuel (column + 1) true tokens
      else if column < token.place.column then blockNode fuel (column + 1) false tokens
      else if token.kind = .dash ∧ token.place.column = column then
        blockItems fuel column [] tokens
      else some (.empty, tokens)
  | 0, _, _, _ => none

end

/-- The node that all of the tokens form; with no tokens it is an empty mapping. -/
def Node.ofTokens? : List Token → Option Node
  | [] => some (.mapping [])
  | [⟨.document, _⟩] => some .empty
  | ⟨.document, _⟩ :: tokens => whole? tokens
  | tokens => whole? tokens
where
  /-- The node that all of the tokens form. -/
  whole? (tokens : List Token) : Option Node := do
    match ← blockNode (4 * tokens.length) 0 false tokens with
    | (node, []) => some node
    | _ => none

/-- The node of a text. -/
def Node.parse? (text : String) : Option Node := do
  Node.ofTokens? (← tokens? text)

end ServerMigration.Yaml
