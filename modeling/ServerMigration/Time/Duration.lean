/-!
# Durations

## Main definitions

* `Duration` : a length of time in nanoseconds.
* `Duration.text` : its text in the largest unit that is not zero.
-/

namespace ServerMigration

/-- A length of time. -/
structure Duration where
  /-- The length in nanoseconds. -/
  nanoseconds : Nat
  deriving DecidableEq, Repr, Inhabited

namespace Duration

/-- A whole number of seconds. -/
def ofSeconds (n : Nat) : Duration := ⟨n * 1_000_000_000⟩

/-- A whole number of milliseconds. -/
def ofMilliseconds (n : Nat) : Duration := ⟨n * 1_000_000⟩

/-- The whole milliseconds of a duration. -/
def milliseconds (d : Duration) : Nat := d.nanoseconds / 1_000_000

instance : Add Duration := ⟨fun a b => ⟨a.nanoseconds + b.nanoseconds⟩⟩

instance : LT Duration := ⟨fun a b => a.nanoseconds < b.nanoseconds⟩

instance : LE Duration := ⟨fun a b => a.nanoseconds ≤ b.nanoseconds⟩

instance (a b : Duration) : Decidable (a < b) :=
  inferInstanceAs (Decidable (a.nanoseconds < b.nanoseconds))

instance (a b : Duration) : Decidable (a ≤ b) :=
  inferInstanceAs (Decidable (a.nanoseconds ≤ b.nanoseconds))

/-- The digits of a fraction of `10 ^ places` parts without trailing zeros, behind a point. -/
def fractionDigits (places parts : Nat) : List Char :=
  let digits := (toString parts).toList
  let padded := List.replicate (places - digits.length) '0' ++ digits
  match (padded.reverse.dropWhile (· = '0')).reverse with
  | [] => []
  | kept => '.' :: kept

/-- A number of nanoseconds in a unit of `10 ^ places` nanoseconds. -/
def inUnit (places nanoseconds : Nat) : String :=
  toString (nanoseconds / Nat.pow 10 places)
    ++ String.ofList (fractionDigits places (nanoseconds % Nat.pow 10 places))

/-- The duration in the largest of the units `s`, `ms`, `µs`, `ns` of which it holds at least one,
with as many decimals as are exact. -/
def text (d : Duration) : String :=
  let n := d.nanoseconds
  if 1_000_000_000 ≤ n then inUnit 9 n ++ "s"
  else if 1_000_000 ≤ n then inUnit 6 n ++ "ms"
  else if 1_000 ≤ n then inUnit 3 n ++ "µs"
  else toString n ++ "ns"

end Duration

end ServerMigration
