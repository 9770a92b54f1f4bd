/-!
# Numerals

Reading whole numbers that stand in text: runs of ASCII decimal digits, optionally signed and
bounded by a width.

## Main definitions

* `digitsValue` : the number that a run of decimal digits denotes.
* `readNat` : an unsigned numeral below a bound, with an optional plus sign.
* `readInt` : a signed numeral within two bounds.
* `readHex` : an unsigned hexadecimal numeral below a bound.
-/

namespace ServerMigration.Text

/-- The number that a run of decimal digits denotes, most significant digit first. -/
def digitsValue (digits : List Char) : Nat :=
  digits.foldl (fun n d => 10 * n + (d.toNat - '0'.toNat)) 0

/-- A non-empty run of decimal digits and nothing else. -/
def readDigits (text : List Char) : Option Nat :=
  if !text.isEmpty && text.all Char.isDigit then some (digitsValue text) else none

/-- An unsigned numeral below `limit`; one leading plus sign is allowed. -/
def readNat (limit : Nat) (text : List Char) : Option Nat :=
  let digits := match text with
    | '+' :: rest => rest
    | _ => text
  (readDigits digits).filter (· < limit)

/-- A signed numeral `n` with `low ≤ n < limit`. -/
def readInt (low limit : Int) (text : List Char) : Option Int :=
  let value? := match text with
    | '-' :: rest => (readDigits rest).map fun n => -(n : Int)
    | '+' :: rest => (readDigits rest).map fun n => (n : Int)
    | _ => (readDigits text).map fun n => (n : Int)
  value?.filter fun n => low ≤ n && n < limit

/-- The value of a hexadecimal digit of either case. -/
def hexValue? (c : Char) : Option Nat :=
  if c.isDigit then some (c.toNat - '0'.toNat)
  else if 'a' ≤ c ∧ c ≤ 'f' then some (c.toNat - 'a'.toNat + 10)
  else if 'A' ≤ c ∧ c ≤ 'F' then some (c.toNat - 'A'.toNat + 10)
  else none

/-- The number that a run of hexadecimal digits denotes, if it consists of such digits only. -/
def hexDigitsValue? (digits : List Char) : Option Nat :=
  digits.foldlM (fun n d => (hexValue? d).map (16 * n + ·)) 0

/-- An unsigned hexadecimal numeral below `limit`; one leading plus sign is allowed. -/
def readHex (limit : Nat) (text : List Char) : Option Nat :=
  let digits := match text with
    | '+' :: rest => rest
    | _ => text
  if digits.isEmpty then none else (hexDigitsValue? digits).filter (· < limit)

/-- The hexadecimal digit of a value below sixteen, in lower case. -/
def hexDigit (n : Nat) : Char :=
  if n < 10 then Char.ofNat ('0'.toNat + n) else Char.ofNat ('a'.toNat + (n - 10))

/-- A byte as two lower-case hexadecimal digits. -/
def hexByte (b : UInt8) : List Char :=
  [hexDigit (b.toNat / 16), hexDigit (b.toNat % 16)]

end ServerMigration.Text
