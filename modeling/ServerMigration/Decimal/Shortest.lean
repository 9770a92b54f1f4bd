/-!
# The shortest decimal of a double

A finite double stands for all reals that round to it.  Its shortest decimal is the decimal with
the fewest significant digits among those reals, and of several with equally few digits the one
nearest to the double; of two equally near the one whose last digit is even.

## Main definitions

* `Binary64.ofBits` : sign, significand and exponent of a double's bits.
* `Scientific` : digits and a power of ten.
* `shortest` : the shortest decimal of a positive double.
-/

namespace ServerMigration.Decimal

/-- A finite double: `(-1) ^ negative * significand * 2 ^ exponent`. -/
structure Binary64 where
  /-- Whether the sign bit is set. -/
  negative : Bool
  /-- The significand, with the hidden bit for normal numbers. -/
  significand : Nat
  /-- The binary exponent of the significand's last place. -/
  exponent : Int
  /-- Whether the next smaller double is only half a unit away. -/
  atBoundary : Bool
  deriving Repr, DecidableEq

/-- Reads the bits of a finite double; infinities and NaN have none of these parts. -/
def Binary64.ofBits (bits : UInt64) : Option Binary64 :=
  let fraction : Nat := bits.toNat % 0x10000000000000
  let biased : Nat := bits.toNat / 0x10000000000000 % 0x800
  let negative : Bool := 0x8000000000000000 ≤ bits.toNat
  if biased = 2047 then none
  else if biased = 0 then some ⟨negative, fraction, -1074, false⟩
  else
    some ⟨negative, 0x10000000000000 + fraction, (biased : Int) - 1075, fraction = 0 && 1 < biased⟩

/-- The decimal `digits * 10 ^ exponent`. -/
structure Scientific where
  /-- The significant digits as one number. -/
  digits : Nat
  /-- The power of ten of the last digit. -/
  exponent : Int
  deriving Repr, DecidableEq

/-- The fraction `num / den` scaled by `10 ^ (-k)`, again as a fraction. -/
def scaleDown (num den : Nat) (k : Int) : Nat × Nat :=
  if 0 ≤ k then (num, den * Nat.pow 10 k.toNat) else (num * Nat.pow 10 (-k).toNat, den)

/-- The greatest `k` with `10 ^ k ≤ num / den`, searched upwards from `k`. -/
def magnitude (num den : Nat) : (fuel : Nat) → (k : Int) → Int
  | 0, k => k
  | fuel + 1, k =>
    let (n, d) := scaleDown num den (k + 1)
    if d ≤ n then magnitude num den fuel (k + 1) else k

/-- The decimals on the grid `10 ^ k` that lie next to `num / den`, the nearer one first. -/
def gridNeighbours (num den : Nat) (k : Int) : List Nat :=
  let (n, d) := scaleDown num den k
  let below := n / d
  let twice := 2 * (n % d)
  if twice < d ∨ (twice = d ∧ below % 2 = 0) then [below, below + 1] else [below + 1, below]

/-- Drops trailing zeros from the digits. -/
def Scientific.trimZeros : (fuel : Nat) → Scientific → Scientific
  | 0, s => s
  | fuel + 1, s =>
    if s.digits % 10 = 0 ∧ s.digits ≠ 0 then trimZeros fuel ⟨s.digits / 10, s.exponent + 1⟩ else s

/-- The shortest decimal of a positive double.  All quantities are multiples of a quarter of the
unit in the last place, so that the ends of the interval are whole. -/
def shortest (x : Binary64) : Scientific :=
  let shift := x.exponent - 2
  let scaled (n : Nat) : Nat := if 0 ≤ shift then n * Nat.pow 2 shift.toNat else n
  let den : Nat := if 0 ≤ shift then 1 else Nat.pow 2 (-shift).toNat
  let value := scaled (4 * x.significand)
  let low := scaled (4 * x.significand - if x.atBoundary then 1 else 2)
  let high := scaled (4 * x.significand + 2)
  let inclusive := x.significand % 2 = 0
  let top := magnitude value den 700 (-330)
  let rounds (k : Int) (digits : Nat) : Bool :=
    let (l, d) := scaleDown low den k
    let h := (scaleDown high den k).1
    if inclusive then l ≤ digits * d && digits * d ≤ h else l < digits * d && digits * d < h
  let attempt (places : Nat) : Option Scientific :=
    let k := top - places
    (gridNeighbours value den k |>.find? (rounds k)).map (⟨·, k⟩)
  ((List.range 17).findSome? attempt).getD ⟨0, 0⟩ |>.trimZeros 20

end ServerMigration.Decimal
