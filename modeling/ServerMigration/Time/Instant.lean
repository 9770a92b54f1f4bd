import ServerMigration.Time.Calendar
import ServerMigration.Time.Duration
import ServerMigration.Text.Blank
import ServerMigration.Text.Numeral
import ServerMigration.Text.Search
import ServerMigration.Json.Codec

/-!
# Points in time

An instant is written as RFC 3339 text in UTC, with as few decimals of the second as are exact, in
groups of three.  Reading is more lenient: numbers may be short, blanks may stand between the
parts, and any offset is taken into account.  A leap second is the sixtieth second of its minute.

## Main definitions

* `Instant` : seconds and nanoseconds since 1970-01-01T00:00:00Z.
* `Instant.text`, `Instant.parse?` : writing and reading.
* `Instant.timeUntil` : the time from one instant to a later one.
-/

namespace ServerMigration

/-- A point in time. -/
structure Instant where
  /-- Whole seconds since 1970-01-01T00:00:00Z. -/
  seconds : Int
  /-- Nanoseconds into the second; in a leap second they go on beyond `10 ^ 9`. -/
  nanoseconds : Nat
  deriving DecidableEq, Repr, Inhabited

namespace Instant

/-- Nanoseconds since 1970-01-01T00:00:00Z. -/
def total (t : Instant) : Int := t.seconds * 1_000_000_000 + t.nanoseconds

/-- The instant a duration later. -/
def after (t : Instant) (d : Duration) : Instant :=
  let n := t.nanoseconds + d.nanoseconds
  ⟨t.seconds + (n / 1_000_000_000 : Nat), n % 1_000_000_000⟩

/-- Seconds since midnight. -/
def secondOfDay (t : Instant) : Int := t.seconds % 86400

/-- An instant in a leap second. -/
def IsLeap (t : Instant) : Prop := 1_000_000_000 ≤ t.nanoseconds

instance (t : Instant) : Decidable t.IsLeap := inferInstanceAs (Decidable (_ ≤ _))

/-- The length of a leap second that lies between two instants, less than zero if `later` is the
one in it.  The times of day are compared whatever the days, so that a leap second at the end of a
day is never counted. -/
def leapBetween (t later : Instant) : Int :=
  if t.secondOfDay < later.secondOfDay ∧ t.IsLeap then 1_000_000_000
  else if later.secondOfDay < t.secondOfDay ∧ later.IsLeap then -1_000_000_000
  else 0

/-- The time from `t` to `later`, zero if that is not later. -/
def timeUntil (t later : Instant) : Duration :=
  ⟨(later.total - t.total + t.leapBetween later).toNat⟩

/-! ### Writing -/

/-- A number with at least `width` digits. -/
def padded (width n : Nat) : List Char :=
  let digits := (toString n).toList
  List.replicate (width - digits.length) '0' ++ digits

/-- Years beyond four digits carry a sign. -/
def yearText (year : Int) : List Char :=
  if 0 ≤ year ∧ year ≤ 9999 then padded 4 year.toNat
  else (if year < 0 then '-' else '+') :: padded 4 year.natAbs

/-- Decimals of the second. -/
def decimals (nanoseconds : Nat) : List Char :=
  if nanoseconds = 0 then []
  else if nanoseconds % 1_000_000 = 0 then '.' :: padded 3 (nanoseconds / 1_000_000)
  else if nanoseconds % 1_000 = 0 then '.' :: padded 6 (nanoseconds / 1_000)
  else '.' :: padded 9 nanoseconds

/-- The instant as RFC 3339 text in UTC. -/
def chars (t : Instant) : List Char :=
  let (year, month, day) := Calendar.dateOf (t.seconds / 86400)
  let ofDay := (t.seconds % 86400).toNat
  let (second, nanoseconds) :=
    if 1_000_000_000 ≤ t.nanoseconds then (ofDay % 60 + 1, t.nanoseconds - 1_000_000_000)
    else (ofDay % 60, t.nanoseconds)
  yearText year ++ '-' :: padded 2 month ++ '-' :: padded 2 day
    ++ 'T' :: padded 2 (ofDay / 3600) ++ ':' :: padded 2 (ofDay / 60 % 60)
    ++ ':' :: padded 2 second ++ decimals nanoseconds ++ ['Z']

@[inherit_doc chars]
def text (t : Instant) : String := .ofList t.chars

/-! ### Reading -/

/-- A number of at most `width` digits, and what follows it. -/
def number? (width : Nat) (text : List Char) : Option (Nat × List Char) :=
  let digits := (text.take width).takeWhile Char.isDigit
  if digits.isEmpty then none else some (Text.digitsValue digits, text.drop digits.length)

/-- A number behind optional blanks. -/
def part? (width : Nat) (text : List Char) : Option (Nat × List Char) :=
  number? width (Text.trimStart text)

/-- A mark behind optional blanks, and then a number. -/
def partAfter? (mark : Char) (width : Nat) (text : List Char) : Option (Nat × List Char) :=
  match Text.trimStart text with
  | c :: rest => if c = mark then part? width rest else none
  | [] => none

/-- The year: up to four digits, or a sign and any number of digits. -/
def year? (text : List Char) : Option (Int × List Char) :=
  match Text.trimStart text with
  | '-' :: rest => (number? rest.length rest).map fun (n, rest) => (-(n : Int), rest)
  | '+' :: rest => (number? rest.length rest).map fun (n, rest) => ((n : Int), rest)
  | rest => (number? 4 rest).map fun (n, rest) => ((n : Int), rest)

/-- Decimals of a second, read as nanoseconds; digits beyond the ninth are dropped. -/
def decimals? : List Char → Option (Nat × List Char)
  | '.' :: rest =>
    let digits := rest.takeWhile Char.isDigit
    if digits.isEmpty then none
    else
      let kept := digits.take 9
      some (Text.digitsValue kept * Nat.pow 10 (9 - kept.length), rest.dropWhile Char.isDigit)
  | rest => some (0, rest)

/-- The sign of an offset. -/
def offsetSign? : List Char → Option (Int × List Char)
  | '+' :: rest => some (1, rest)
  | '-' :: rest => some (-1, rest)
  | '−' :: rest => some (-1, rest)
  | _ => none

/-- Exactly two digits. -/
def twoDigits? : List Char → Option (Nat × List Char)
  | a :: b :: rest =>
    if a.isDigit && b.isDigit then some (Text.digitsValue [a, b], rest) else none
  | _ => none

/-- The offset from UTC in seconds: `Z`, `UTC`, or a sign with hours and minutes. -/
def offset? (text : List Char) : Option (Int × List Char) :=
  if (text.take 3).map Char.toUpper = ['U', 'T', 'C'] then some (0, text.drop 3)
  else match text with
    | 'Z' :: rest | 'z' :: rest => some (0, rest)
    | _ => do
      let (sign, rest) ← offsetSign? text
      let (hours, rest) ← twoDigits? rest
      let (minutes, rest) ← twoDigits? (rest.dropWhile fun c => c = ':' || Text.isBlank c)
      if minutes < 60 then some (sign * (hours * 3600 + minutes * 60), rest) else none

/-- The years that an instant may lie in. -/
def isYear (year : Int) : Bool := -262143 ≤ year && year ≤ 262142

/-- Reads RFC 3339 text, leniently. -/
def parse? (text : String) : Option Instant := do
  let (year, rest) ← year? text.toList
  let (month, rest) ← partAfter? '-' 2 rest
  let (day, rest) ← partAfter? '-' 2 rest
  let rest ← match rest with
    | 'T' :: rest | 't' :: rest | ' ' :: rest => some rest
    | _ => none
  let (hour, rest) ← part? 2 rest
  let (minute, rest) ← partAfter? ':' 2 rest
  let (second, rest) ← partAfter? ':' 2 rest
  let (nanoseconds, rest) ← decimals? rest
  let (offset, rest) ← offset? (Text.trimStart rest)
  guard (Text.trimStart rest).isEmpty
  guard (isYear year && Calendar.isDate year month day)
  guard (hour < 24 && minute < 60 && second ≤ 60 && offset.natAbs < 86400)
  let (second, nanoseconds) := if second = 60 then (59, nanoseconds + 1_000_000_000)
    else (second, nanoseconds)
  let seconds :=
    Calendar.daysOf year month day * 86400 + hour * 3600 + minute * 60 + second - offset
  guard (isYear (Calendar.dateOf (seconds / 86400)).1)
  return ⟨seconds, nanoseconds⟩

instance : JsonCodec Instant where
  encode t := .string t.text
  decode
    | .string s => Json.expect (parse? s)
    | _ => .error .mismatch

end Instant

end ServerMigration
