import ServerMigration.Json.Codec
import ServerMigration.Text.Numeral

/-!
# Identifiers

A UUID is written as 32 hexadecimal digits in five groups with hyphens.  It is read in that form,
also in braces or behind `urn:uuid:`, or as 32 digits without hyphens.

## Main definitions

* `Uuid` : 128 bits.
* `Uuid.text`, `Uuid.parse?` : writing and reading.
-/

namespace ServerMigration

/-- A universally unique identifier. -/
structure Uuid where
  /-- Its bits, most significant first. -/
  bits : BitVec 128
  deriving DecidableEq, Repr, Inhabited

namespace Uuid

/-- The lower-case hexadecimal digits of the lowest `count` half-bytes of a number. -/
def hexDigits : (count n : Nat) → List Char
  | 0, _ => []
  | count + 1, n => Text.hexDigit (n / Nat.pow 16 count % 16) :: hexDigits count n

/-- The five groups of digits. -/
def text (id : Uuid) : String :=
  let digits := hexDigits 32 id.bits.toNat
  .ofList (digits.take 8 ++ '-' :: (digits.drop 8).take 4 ++ '-' :: (digits.drop 12).take 4
    ++ '-' :: (digits.drop 16).take 4 ++ '-' :: digits.drop 20)

/-- The identifier of 32 hexadecimal digits. -/
def ofDigits? (digits : List Char) : Option Uuid :=
  if digits.length = 32 then (Text.hexDigitsValue? digits).map fun n => ⟨.ofNat 128 n⟩ else none

/-- The identifier of five groups of digits. -/
def ofGroups? (text : List Char) : Option Uuid :=
  if text.length = 36 ∧ [8, 13, 18, 23].all fun i => text[i]? = some '-' then
    ofDigits? (text.filter (· ≠ '-'))
  else none

/-- The identifier that a text denotes. -/
def parse? (text : String) : Option Uuid :=
  let chars := text.toList
  if chars.length = 32 then ofDigits? chars
  else if chars.length = 38 ∧ chars.head? = some '\x7b' ∧ chars.getLast? = some '\x7d' then
    ofGroups? (chars.drop 1).dropLast
  else if chars.length = 45 ∧ "urn:uuid:".toList.isPrefixOf chars then ofGroups? (chars.drop 9)
  else ofGroups? chars

instance : JsonCodec Uuid where
  encode id := .string id.text
  decode
    | .string s => Json.expect (parse? s)
    | _ => .error .mismatch

end Uuid

end ServerMigration
