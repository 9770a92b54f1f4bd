/-!
# Blanks

The characters that count as blank are those with the Unicode property `White_Space`.

## Main definitions

* `isBlank` : membership in that property.
* `trim`, `trimStart`, `trimEnd` : text without blanks at its ends.
-/

namespace ServerMigration.Text

/-- The Unicode property `White_Space`. -/
def isBlank (c : Char) : Bool :=
  let n := c.toNat
  (0x09 ≤ n && n ≤ 0x0D) || n == 0x20 || n == 0x85 || n == 0xA0 || n == 0x1680
    || (0x2000 ≤ n && n ≤ 0x200A) || n == 0x2028 || n == 0x2029 || n == 0x202F || n == 0x205F
    || n == 0x3000

/-- Text without its leading blanks. -/
def trimStart (text : List Char) : List Char :=
  text.dropWhile isBlank

/-- Text without its trailing blanks. -/
def trimEnd (text : List Char) : List Char :=
  (text.reverse.dropWhile isBlank).reverse

/-- Text without leading and trailing blanks. -/
def trim (text : List Char) : List Char :=
  trimEnd (trimStart text)

/-- Whether text holds nothing but blanks. -/
def isBlankText (text : String) : Bool :=
  text.toList.all isBlank

/-- A string without leading and trailing blanks. -/
def trimmed (text : String) : String :=
  .ofList (trim text.toList)

end ServerMigration.Text
