import ServerMigration.Text.Search

/-!
# Words of the POSIX shell

A text becomes one shell word either as it stands, when it consists of characters that mean
nothing to the shell, or between single quotes, in which a single quote is written by closing the
quotes, escaping one quote, and opening them again.

## Main definitions

* `isPlain` : characters that need no quoting.
* `shellWord` : the word for a text.
-/

namespace ServerMigration.Text

/-- Characters that stand for themselves in an unquoted shell word. -/
def isPlain (c : Char) : Bool :=
  c.isAlphanum || c ∈ ['-', '_', '.', '/', '=', ':', ',', '@', '%', '+']

/-- The inside of a single-quoted word. -/
def escapeQuotes : List Char → List Char
  | [] => []
  | '\'' :: rest => '\'' :: '\\' :: '\'' :: '\'' :: escapeQuotes rest
  | c :: rest => c :: escapeQuotes rest

/-- The shell word that denotes a text. -/
def quoteWord (text : List Char) : List Char :=
  if !text.isEmpty && text.all isPlain then text
  else '\'' :: escapeQuotes text ++ ['\'']

/-- The shell word that denotes a string. -/
def shellWord (text : String) : String :=
  .ofList (quoteWord text.toList)

end ServerMigration.Text
