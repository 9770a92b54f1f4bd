import ServerMigration.Text.Numeral

/-!
# The tokens of YAML text

The part of YAML that configuration files are written in: nested block mappings and sequences,
flow collections, plain and quoted scalars, comments, and the mark before a document.

## Main definitions

* `Token` : a mark or a scalar, with its line and column.
* `tokens?` : the tokens of a text.
-/

namespace ServerMigration.Yaml

/-- A scalar as it is written. -/
structure Scalar where
  /-- Its text, without quotes. -/
  text : String
  /-- Whether it stands between quotes. -/
  quoted : Bool
  deriving DecidableEq, Repr

/-- What a token is. -/
inductive Kind
  | openSequence
  | closeSequence
  | openMapping
  | closeMapping
  | comma
  /-- Stands between a key and its value. -/
  | colon
  /-- Stands before an item of a block sequence. -/
  | dash
  /-- Stands before a document. -/
  | document
  | scalar (scalar : Scalar)
  deriving DecidableEq, Repr

/-- A place in a text. -/
structure Place where
  /-- The line, from zero. -/
  line : Nat
  /-- The number of characters before it on its line. -/
  column : Nat
  deriving DecidableEq, Repr

/-- A token with the place where it starts. -/
structure Token where
  /-- What it is. -/
  kind : Kind
  /-- Where it starts. -/
  place : Place
  deriving DecidableEq, Repr

/-- What the lexer is in the middle of.  The characters of a scalar so far are kept in reverse. -/
inductive Lexeme
  /-- Between tokens; directly behind a quoted scalar a colon needs no blank. -/
  | between (adjacent : Bool)
  /-- At the start of a line. -/
  | lineStart
  | comment
  /-- In the mark before a document, of which so many characters come after the next one. -/
  | marker (after : Nat)
  /-- In a plain scalar. -/
  | plain (start : Place) (reversed : List Char)
  /-- In a quoted scalar.  Line breaks that have just been passed are counted. -/
  | quoted (mark : Char) (start : Place) (reversed : List Char) (breaks : Nat)
  /-- Behind an apostrophe in a scalar between apostrophes. -/
  | apostrophe (start : Place) (reversed : List Char)
  /-- Behind a backslash in a scalar between double quotes. -/
  | escape (start : Place) (reversed : List Char)
  /-- In the digits of a character, of which so many come after the next one. -/
  | digits (start : Place) (reversed : List Char) (after value : Nat)

/-- Blanks within a line. -/
def isGap (c : Char) : Bool := c = ' ' || c = '\t'

/-- Whether a text starts with a blank, or is empty. -/
def startsBlank (text : List Char) : Bool :=
  text.head?.all fun c => isGap c || c = '\n'

/-- The marks of flow collections. -/
def flowMark? : Char → Option Kind
  | '[' => some .openSequence
  | ']' => some .closeSequence
  | '\x7b' => some .openMapping
  | '\x7d' => some .closeMapping
  | ',' => some .comma
  | _ => none

/-- The number of flow collections that are open behind a mark. -/
def depthAfter (depth : Nat) : Kind → Nat
  | .openSequence | .openMapping => depth + 1
  | .closeSequence | .closeMapping => depth - 1
  | _ => depth

/-- Whether a colon before this text separates a key from its value. -/
def isSeparator (depth : Nat) (adjacent : Bool) (text : List Char) : Bool :=
  startsBlank text || (0 < depth && (adjacent || (text.head?.bind flowMark?).isSome))

/-- Characters that no plain scalar starts with. -/
def isReserved (c : Char) : Bool := "&*!|>%@`?".contains c

/-- The plain scalar of some characters, which are in reverse. -/
def plainToken (start : Place) (reversed : List Char) : Token :=
  ⟨.scalar ⟨.ofList (reversed.dropWhile isGap).reverse, false⟩, start⟩

/-- The character that a one-letter escape stands for. -/
def unescape? : Char → Option Char
  | '0' => some '\x00'
  | 'a' => some '\x07'
  | 'b' => some '\x08'
  | 't' | '\t' => some '\t'
  | 'n' => some '\n'
  | 'v' => some '\x0b'
  | 'f' => some '\x0c'
  | 'r' => some '\r'
  | 'e' => some '\x1b'
  | ' ' => some ' '
  | '"' => some '"'
  | '/' => some '/'
  | '\\' => some '\\'
  | 'N' => some '\u0085'
  | '_' => some '\u00a0'
  | 'L' => some '\u2028'
  | 'P' => some '\u2029'
  | _ => none

/-- A quoted scalar after some line breaks: one of them is a space, more are one break fewer. -/
def folded (reversed : List Char) : (breaks : Nat) → List Char
  | 0 => reversed
  | 1 => ' ' :: reversed
  | breaks + 2 => List.replicate (breaks + 1) '\n' ++ reversed

/-- A quoted scalar of some characters, which are in reverse. -/
def quotedToken (start : Place) (reversed : List Char) : Token :=
  ⟨.scalar ⟨.ofList reversed.reverse, true⟩, start⟩

/-- The number of hexadecimal digits that an escape takes. -/
def escapeWidth? : Char → Option Nat
  | 'x' => some 2
  | 'u' => some 4
  | 'U' => some 8
  | _ => none

/-! ### Steps

Each step takes one character, with the text behind it, and gives the tokens that it ends and what
the lexer is then in the middle of. -/

/-- What a step gives. -/
abbrev Step : Type := Option (List Token × Lexeme)

/-- A step between tokens. -/
def stepBetween (depth : Nat) (place : Place) (adjacent : Bool) (c : Char) (text : List Char) :
    Step :=
  if c = '\n' then some ([], .lineStart)
  else if isGap c then some ([], .between false)
  else if c = '#' then some ([], .comment)
  else if c = '"' || c = '\'' then some ([], .quoted c place [] 0)
  else if c = '-' && startsBlank text then some ([⟨.dash, place⟩], .between false)
  else if c = ':' && isSeparator depth adjacent text then
    some ([⟨.colon, place⟩], .between false)
  else match flowMark? c with
    | some mark => some ([⟨mark, place⟩], .between false)
    | none =>
      if isReserved c && (c ≠ '?' || startsBlank text) then none
      else some ([], .plain place [c])

/-- A step at the start of a line. -/
def stepLineStart (depth : Nat) (place : Place) (c : Char) (text : List Char) : Step :=
  if c = ' ' then some ([], .lineStart)
  else if c = '\t' && depth = 0 then none
  else if c = '-' && "--".toList.isPrefixOf text then
    if depth = 0 && place.column = 0 && startsBlank (text.drop 2) then
      some ([⟨.document, place⟩], .marker 1)
    else some ([], .plain place [c])
  else stepBetween depth place false c text

/-- A step in a plain scalar. -/
def stepPlain (depth : Nat) (place start : Place) (reversed : List Char) (c : Char)
    (text : List Char) : Step :=
  let token := plainToken start reversed
  if c = '\n' then some ([token], .lineStart)
  else if c = '#' && reversed.head?.all isGap then some ([token], .comment)
  else if c = ':' && isSeparator depth false text then
    some ([token, ⟨.colon, place⟩], .between false)
  else match if 0 < depth then flowMark? c else none with
    | some mark => some ([token, ⟨mark, place⟩], .between false)
    | none => some ([], .plain start (c :: reversed))

/-- A step in a quoted scalar. -/
def stepQuoted (mark : Char) (start : Place) (reversed : List Char) (breaks : Nat) (c : Char) :
    Step :=
  if c = '\n' then some ([], .quoted mark start (reversed.dropWhile isGap) (breaks + 1))
  else if c = mark then
    let reversed := folded reversed breaks
    if mark = '\'' then some ([], .apostrophe start reversed)
    else some ([quotedToken start reversed], .between true)
  else if c = '\\' && mark = '"' then some ([], .escape start (folded reversed breaks))
  else if isGap c && 0 < breaks then some ([], .quoted mark start reversed breaks)
  else some ([], .quoted mark start (c :: folded reversed breaks) 0)

/-- A step behind a backslash. -/
def stepEscape (start : Place) (reversed : List Char) (c : Char) : Step :=
  match escapeWidth? c with
  | some width => some ([], .digits start reversed (width - 1) 0)
  | none => (unescape? c).map fun c => ([], .quoted '"' start (c :: reversed) 0)

/-- A step in the digits of a character. -/
def stepDigits (start : Place) (reversed : List Char) (after value : Nat) (c : Char) : Step := do
  let value := value * 16 + (← Text.hexValue? c)
  match after with
  | after + 1 => some ([], .digits start reversed after value)
  | 0 =>
    if value.isValidChar then some ([], .quoted '"' start (.ofNat value :: reversed) 0) else none

/-- A step. -/
def step (depth : Nat) (place : Place) (c : Char) (text : List Char) : Lexeme → Step
  | .between adjacent => stepBetween depth place adjacent c text
  | .lineStart => stepLineStart depth place c text
  | .comment => some ([], if c = '\n' then .lineStart else .comment)
  | .marker 0 => some ([], .between false)
  | .marker (after + 1) => some ([], .marker after)
  | .plain start reversed => stepPlain depth place start reversed c text
  | .quoted mark start reversed breaks => stepQuoted mark start reversed breaks c
  | .apostrophe start reversed =>
    if c = '\'' then some ([], .quoted '\'' start ('\'' :: reversed) 0)
    else (stepBetween depth place true c text).map fun (tokens, lexeme) =>
      (quotedToken start reversed :: tokens, lexeme)
  | .escape start reversed => stepEscape start reversed c
  | .digits start reversed after value => stepDigits start reversed after value c

/-- The last tokens of a text. -/
def finish : Lexeme → Option (List Token)
  | .between _ | .lineStart | .comment | .marker _ => some []
  | .plain start reversed => some [plainToken start reversed]
  | .apostrophe start reversed => some [quotedToken start reversed]
  | .quoted .. | .escape .. | .digits .. => none

/-- The place behind a character. -/
def Place.after (place : Place) (c : Char) : Place :=
  if c = '\n' then ⟨place.line + 1, 0⟩ else ⟨place.line, place.column + 1⟩

/-- Splits text into tokens, given how many flow collections are open, where the text stands, and
what it is in the middle of. -/
def lex (depth : Nat) (place : Place) (lexeme : Lexeme) : List Char → Option (List Token)
  | [] => finish lexeme
  | c :: text => do
    let (tokens, lexeme) ← step depth place c text lexeme
    let depth := tokens.foldl (fun depth token => depthAfter depth token.kind) depth
    return tokens ++ (← lex depth (place.after c) lexeme text)

/-- The tokens of a text. -/
def tokens? (text : String) : Option (List Token) :=
  lex 0 ⟨0, 0⟩ .lineStart (text.toList.filter (· ≠ '\r'))

end ServerMigration.Yaml
