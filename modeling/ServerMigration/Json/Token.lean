import ServerMigration.Json.Numeral

/-!
# The tokens of JSON text

## Main definitions

* `Token` : punctuation and scalars.
* `tokens` : the tokens of a text.
-/

namespace ServerMigration.Json

/-- A token of JSON text. -/
inductive Token
  | openArray
  | closeArray
  | openObject
  | closeObject
  | comma
  | colon
  | null
  | bool (value : Bool)
  | number (value : Number)
  | string (value : String)
  /-- Something that is no token; what stands behind it does not matter. -/
  | fault
  deriving DecidableEq, Repr

/-- What the lexer is in the middle of. -/
inductive Lexeme
  /-- Between tokens. -/
  | none
  /-- In a string, whose characters so far are kept in reverse. -/
  | string (reversed : List Char)
  /-- In a word or numeral, whose characters so far are kept in reverse. -/
  | bare (reversed : List Char)

/-- Characters of words and numerals. -/
def isBare (c : Char) : Bool :=
  c.isAlphanum || c = '-' || c = '+' || c = '.'

/-- The token that a run of bare characters denotes. -/
def bareToken (word : List Char) : Token :=
  if word = "null".toList then .null
  else if word = "true".toList then .bool true
  else if word = "false".toList then .bool false
  else match Number.ofChars? word with
    | some n => .number n
    | none => .fault

/-- The token of a punctuation mark. -/
def punctuation (c : Char) : Token :=
  match c with
  | '[' => .openArray
  | ']' => .closeArray
  | '\x7b' => .openObject
  | '\x7d' => .closeObject
  | ',' => .comma
  | ':' => .colon
  | _ => .fault

/-- Blanks between tokens. -/
def isSpace (c : Char) : Bool :=
  c = ' ' || c = '\n' || c = '\t' || c = '\r'

/-- The character that a one-letter escape stands for. -/
def unescape? (c : Char) : Option Char :=
  match c with
  | '"' => some '"'
  | '\\' => some '\\'
  | '/' => some '/'
  | 'b' => some '\x08'
  | 'f' => some '\x0c'
  | 'n' => some '\n'
  | 'r' => some '\r'
  | 't' => some '\t'
  | _ => .none

/-- The code unit that four hexadecimal digits denote. -/
def codeUnit? (a b c d : Char) : Option Nat :=
  Text.hexDigitsValue? [a, b, c, d]

/-- The character of a high and a low surrogate. -/
def surrogatePair (high low : Nat) : Char :=
  Char.ofNat (0x10000 + (high - 0xD800) * 0x400 + (low - 0xDC00))

/-- Whether a code unit is the first, or the second, of a surrogate pair. -/
def isHigh (unit : Nat) : Bool := 0xD800 ≤ unit && unit < 0xDC00

@[inherit_doc isHigh]
def isLow (unit : Nat) : Bool := 0xDC00 ≤ unit && unit < 0xE000

/-- Splits text into tokens, given what it is in the middle of. -/
def lex : Lexeme → List Char → List Token
  | .none, [] => []
  | .string _, [] => [.fault]
  | .bare word, [] => [bareToken word.reverse]
  | .string reversed, '\\' :: 'u' :: a :: b :: c :: d :: '\\' :: 'u' :: a' :: b' :: c' :: d' ::
      text =>
    match codeUnit? a b c d with
    | none => [.fault]
    | some unit =>
      if isHigh unit then
        match codeUnit? a' b' c' d' with
        | none => [.fault]
        | some low =>
          if isLow low then lex (.string (surrogatePair unit low :: reversed)) text else [.fault]
      else if isLow unit then [.fault]
      else lex (.string (Char.ofNat unit :: reversed))
        ('\\' :: 'u' :: a' :: b' :: c' :: d' :: text)
  | .string reversed, '\\' :: 'u' :: a :: b :: c :: d :: text =>
    match codeUnit? a b c d with
    | none => [.fault]
    | some unit =>
      if isHigh unit || isLow unit then [.fault]
      else lex (.string (Char.ofNat unit :: reversed)) text
  | .string reversed, '\\' :: c :: text =>
    match unescape? c with
    | none => [.fault]
    | some escaped => lex (.string (escaped :: reversed)) text
  | .string reversed, '"' :: text => .string (String.ofList reversed.reverse) :: lex .none text
  | .string reversed, c :: text =>
    if c.toNat < 0x20 then [.fault] else lex (.string (c :: reversed)) text
  | .none, c :: text =>
    if isSpace c then lex .none text
    else if c = '"' then lex (.string []) text
    else if isBare c then lex (.bare [c]) text
    else punctuation c :: lex .none text
  | .bare word, c :: text =>
    if isBare c then lex (.bare (c :: word)) text
    else if isSpace c then bareToken word.reverse :: lex .none text
    else if c = '"' then bareToken word.reverse :: lex (.string []) text
    else bareToken word.reverse :: punctuation c :: lex .none text

/-- The tokens of a text. -/
def tokens (text : String) : List Token :=
  lex .none text.toList

end ServerMigration.Json
