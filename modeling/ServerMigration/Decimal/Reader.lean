import ServerMigration.Text.Numeral

/-!
# Reading doubles

## Main definitions

* `readDouble?` : the double that a decimal numeral denotes.
-/

namespace ServerMigration.Decimal

open Text

/-- The digits at the start of a text and what follows them. -/
def leadingDigits (text : List Char) : List Char × List Char := text.span Char.isDigit

/-- The exponent that a numeral ends in, zero if there is none. -/
def exponent? : List Char → Option Int
  | [] => some 0
  | e :: text =>
    if e ≠ 'e' ∧ e ≠ 'E' then none
    else match text with
      | '-' :: digits => (readDigits digits).map fun n => -(n : Int)
      | '+' :: digits => (readDigits digits).map fun n => (n : Int)
      | digits => (readDigits digits).map fun n => (n : Int)

/-- The double next to `digits * 10 ^ exponent`.  Beyond three hundred and ten places before the
point it is infinite, and behind three hundred and fifty places after it, zero. -/
def nearestDouble (digits : Nat) (exponent : Int) : Float :=
  let point : Int := (toString digits).length + exponent
  if digits = 0 ∨ point < -350 then 0.0
  else if 310 < point then 1.0 / 0.0
  else if exponent < 0 then Float.ofScientific digits true exponent.natAbs
  else Float.ofScientific digits false exponent.toNat

/-- The double of an unsigned decimal: digits with an optional point among, before or behind them,
and an optional exponent. -/
def unsignedDouble? (text : List Char) : Option Float := do
  let (whole, rest) := leadingDigits text
  let (fraction, rest) := match rest with
    | '.' :: rest => leadingDigits rest
    | _ => ([], rest)
  if whole.isEmpty && fraction.isEmpty then none
  let exponent ← exponent? rest
  return nearestDouble (digitsValue (whole ++ fraction)) (exponent - fraction.length)

/-- The double that a numeral denotes; `inf`, `infinity` and `nan`, in any case, are numerals
too. -/
def magnitude? (text : List Char) : Option Float :=
  match (String.ofList text).toLower with
  | "inf" | "infinity" => some (1.0 / 0.0)
  | "nan" => some (0.0 / 0.0)
  | _ => unsignedDouble? text

/-- The double that a numeral with an optional sign denotes. -/
def readDouble? : List Char → Option Float
  | '-' :: text => (magnitude? text).map fun x => -x
  | '+' :: text => magnitude? text
  | text => magnitude? text

end ServerMigration.Decimal
