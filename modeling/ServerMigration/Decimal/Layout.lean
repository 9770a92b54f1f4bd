import ServerMigration.Decimal.Shortest

/-!
# Writing doubles

How the shortest decimal of a double is laid out as text.

## Main definitions

* `Layout` : where positional notation gives way to an exponent, and whether a whole number keeps
  a decimal point.
* `Layout.write` : the text of a double.
-/

namespace ServerMigration.Decimal

/-- The choices that turn digits and a power of ten into text. -/
structure Layout where
  /-- Positional notation is used while at most this many digits precede the point. -/
  maxWhole : Nat
  /-- Positional notation is used while at most this many zeros follow the point. -/
  maxLeadingZeros : Nat
  /-- Whole numbers end in `.0`. -/
  keepsPoint : Bool
  deriving Repr, DecidableEq

/-- Doubles in JSON documents: an exponent from 10^16 up and below 10^-5. -/
def Layout.json : Layout := ⟨16, 4, true⟩

/-- Doubles as configuration text: always positional, whole numbers without a point. -/
def Layout.plain : Layout := ⟨400, 400, false⟩

/-- The text of a positive decimal. -/
def Layout.writeScientific (layout : Layout) (s : Scientific) : List Char :=
  let digits := (toString s.digits).toList
  let point : Int := digits.length + s.exponent
  if 0 ≤ s.exponent ∧ point ≤ layout.maxWhole then
    digits ++ List.replicate s.exponent.toNat '0' ++ (if layout.keepsPoint then ['.', '0'] else [])
  else if 0 < point ∧ point ≤ layout.maxWhole then
    digits.take point.toNat ++ '.' :: digits.drop point.toNat
  else if -(layout.maxLeadingZeros : Int) ≤ point ∧ point ≤ 0 then
    '0' :: '.' :: List.replicate (-point).toNat '0' ++ digits
  else
    let tail := 'e' :: (toString (point - 1)).toList
    match digits with
    | [] => tail
    | [d] => d :: tail
    | d :: rest => d :: '.' :: rest ++ tail

/-- The text of a finite double; infinities and NaN have none. -/
def Layout.write (layout : Layout) (bits : UInt64) : Option (List Char) :=
  (Binary64.ofBits bits).map fun x =>
    let sign := if x.negative then ['-'] else []
    if x.significand = 0 then sign ++ '0' :: (if layout.keepsPoint then ['.', '0'] else [])
    else sign ++ layout.writeScientific (shortest x)

end ServerMigration.Decimal
