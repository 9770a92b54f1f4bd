import ServerMigration.Text.Numeral
import ServerMigration.Text.Unprintable

/-!
# Texts as literals

In a message that has to show a text exactly, the text stands in double quotes, with its quotes,
backslashes and invisible characters escaped.

## Main definitions

* `literal` : the quoted text.
-/

namespace ServerMigration.Text

/-- The hexadecimal digits of a number without leading zeros. -/
def hexNat (n : Nat) : List Char := Nat.toDigits 16 n

/-- A character inside a literal. -/
def literalChar (c : Char) : List Char :=
  match c with
  | '"' => ['\\', '"']
  | '\\' => ['\\', '\\']
  | '\n' => ['\\', 'n']
  | '\r' => ['\\', 'r']
  | '\t' => ['\\', 't']
  | '\x00' => ['\\', '0']
  | c =>
    if isUnprintable c then '\\' :: 'u' :: '\x7b' :: hexNat c.toNat ++ ['\x7d'] else [c]

/-- A text in double quotes. -/
def literal (text : String) : String :=
  .ofList ('"' :: text.toList.flatMap literalChar ++ ['"'])

end ServerMigration.Text
