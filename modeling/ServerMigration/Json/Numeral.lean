import ServerMigration.Json.Basic
import ServerMigration.Text.Numeral

/-!
# Reading JSON numbers

A numeral without point and exponent is a whole number if it fits; minus zero and all other
numerals are doubles.  A double is found by rounding the leading digits that fit sixty-four bits
and then scaling once, or in steps of `10 ^ 308`, by a power of ten.

## Main definitions

* `Numeral` : the parts of a numeral.
* `Numeral.ofChars?` : splits a text that obeys the grammar of JSON numbers.
* `Numeral.value?` : its value; none for a numeral beyond the greatest double.
-/

namespace ServerMigration.Json

/-- The parts of a numeral: `(-1) ^ negative * whole.fraction * 10 ^ exponent`. -/
structure Numeral where
  /-- Whether a minus sign stands in front. -/
  negative : Bool
  /-- The digits before the point. -/
  whole : List Char
  /-- The digits after the point; none if there is no point. -/
  fraction : Option (List Char)
  /-- The exponent's sign, true for a minus, and its digits; none if there is no exponent. -/
  exponent : Option (Bool × List Char)
  deriving Repr, DecidableEq

/-- Reads the part of a numeral behind its digits: nothing, or an exponent with at least one
digit. -/
def Numeral.exponentOf? : List Char → Option (Option (Bool × List Char))
  | [] => some none
  | c :: text =>
    if c = 'e' ∨ c = 'E' then
      let (negative, digits) := match text with
        | '-' :: rest => (true, rest)
        | '+' :: rest => (false, rest)
        | _ => (false, text)
      if !digits.isEmpty && digits.all Char.isDigit then some (some (negative, digits)) else none
    else none

/-- Splits a numeral: an optional minus, digits without a superfluous leading zero, an optional
fraction, an optional exponent. -/
def Numeral.ofChars? (text : List Char) : Option Numeral :=
  let (negative, unsigned) := match text with
    | '-' :: rest => (true, rest)
    | _ => (false, text)
  let whole := unsigned.takeWhile Char.isDigit
  let rest := unsigned.dropWhile Char.isDigit
  if whole.isEmpty || (whole.head? = some '0' && whole.length ≠ 1) then none
  else match rest with
    | '.' :: afterPoint =>
      let fraction := afterPoint.takeWhile Char.isDigit
      if fraction.isEmpty then none
      else (exponentOf? (afterPoint.dropWhile Char.isDigit)).map
        (⟨negative, whole, some fraction, ·⟩)
    | _ => (exponentOf? rest).map (⟨negative, whole, none, ·⟩)

/-- The leading digits whose value stays below `2 ^ 64`, continuing from a value already read, and
how many digits were left. -/
def leadingValue (start : Nat) : List Char → Nat × Nat
  | [] => (start, 0)
  | d :: digits =>
    let next := 10 * start + (d.toNat - '0'.toNat)
    if next < UInt64.size then leadingValue next digits else (start, digits.length + 1)

/-- `10 ^ n` as a double. -/
def tenPower (n : Nat) : Float := Float.ofScientific 1 false n

/-- A double times a power of ten; none if that is beyond the greatest double. -/
def scaleDouble (value : Float) (exponent : Int) : (fuel : Nat) → Option Float
  | 0 => some 0
  | fuel + 1 =>
    if exponent.natAbs ≤ 308 then
      if 0 ≤ exponent then
        let scaled := value * tenPower exponent.toNat
        if scaled.isInf then none else some scaled
      else some (value / tenPower exponent.natAbs)
    else if value == 0 then some value
    else if 0 ≤ exponent then none
    else scaleDouble (value / tenPower 308) (exponent + 308) fuel

/-- The double of a numeral. -/
def Numeral.double? (numeral : Numeral) : Option Float :=
  let fraction := numeral.fraction.getD []
  let (whole, droppedWhole) := leadingValue 0 numeral.whole
  let (significand, droppedFraction) := leadingValue whole fraction
  let places : Int := droppedWhole + droppedFraction - fraction.length
  let exponent := match numeral.exponent with
    | none => places
    | some (true, digits) => places - Text.digitsValue digits
    | some (false, digits) => places + Text.digitsValue digits
  (scaleDouble significand.toUInt64.toFloat exponent 4).map fun value =>
    if numeral.negative then -value else value

/-- The value of a numeral. -/
def Numeral.value? (numeral : Numeral) : Option Number :=
  match numeral.fraction, numeral.exponent with
  | none, none =>
    let n : Int := Text.digitsValue numeral.whole
    if numeral.negative then
      if 0 < n ∧ n ≤ 0x8000000000000000 then some (.whole (-n)) else double
    else if n < UInt64.size then some (.whole n) else double
  | _, _ => double
where
  /-- The numeral's double as a number. -/
  double : Option Number := numeral.double?.map fun value => .double value.toBits

/-- The number that a text denotes. -/
def Number.ofChars? (text : List Char) : Option Number := do
  (← Numeral.ofChars? text).value?

end ServerMigration.Json
