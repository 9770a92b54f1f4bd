import Mathlib
import ServerMigration.Time.Instant
import ServerMigration.Proofs.Text.Blanks
import ServerMigration.Proofs.Time.Calendar

/-!
# Reading instants back

An instant is read back from its text, whatever its year, its decimals of a second, and whether it
lies in a leap second.

## Main definitions

* `Instant.Proper` : instants within the calendar, whose leap seconds end a minute.

## Main results

* `Instant.parse?_text` : the text of an instant is read as that instant.
-/

namespace ServerMigration

namespace Instant

/-! ### Numbers -/

theorem padded_eq (width n : Nat) : padded width n
    = List.replicate (width - (Nat.toDigits 10 n).length) '0' ++ Nat.toDigits 10 n := by
  rw [padded, Nat.toString_eq_ofList_toDigits, String.toList_ofList]

theorem all_isDigit_padded (width n : Nat) : (padded width n).all Char.isDigit := by
  rw [padded_eq, List.all_append, Text.all_isDigit_toDigits, Bool.and_true]
  simp

theorem padded_ne_nil (width n : Nat) : padded width n ≠ [] := by
  rw [padded_eq]
  exact List.append_ne_nil_of_right_ne_nil _ Nat.toDigits_ne_nil

theorem digitsValue_padded (width n : Nat) : Text.digitsValue (padded width n) = n := by
  have hzeros : ∀ count, Text.digitsValue (List.replicate count '0') = 0 := by
    intro count
    rw [Text.digitsValue]
    induction count with
    | zero => rfl
    | succ count ih => exact ih
  rw [padded_eq, Text.digitsValue, List.foldl_append]
  show List.foldl _ (Text.digitsValue _) _ = n
  rw [hzeros]
  exact Text.digitsValue_toDigits n

theorem length_padded {width n : Nat} (h : n < 10 ^ width) (hwidth : 0 < width) :
    (padded width n).length = width := by
  have hlength := (Nat.length_toDigits_le_iff (by decide) hwidth).mpr h
  rw [padded_eq, List.length_append, List.length_replicate]
  omega

section

variable {width : Nat} {digits : List Char} (hdigits : digits.all Char.isDigit)
  (hne : digits ≠ [])

include hdigits hne

/-- A number is read up to its width. -/
theorem number?_of_length_eq (rest : List Char) (hlength : digits.length = width) :
    number? width (digits ++ rest) = some (Text.digitsValue digits, rest) := by
  have htake : ((digits ++ rest).take width).takeWhile Char.isDigit = digits := by
    rw [← hlength, List.take_left]
    have hend : ([] : List Char).head?.all (!Char.isDigit ·) := rfl
    simpa using (Text.takeWhile_digits hdigits hend).1
  rw [number?, htake, if_neg (by simpa using hne), List.drop_left]

/-- A number is read up to the first character that is no digit. -/
theorem number?_of_end {rest : List Char} (hlength : digits.length ≤ width)
    (hend : rest.head?.all (!Char.isDigit ·)) :
    number? width (digits ++ rest) = some (Text.digitsValue digits, rest) := by
  have hend : (rest.take (width - digits.length)).head?.all (!Char.isDigit ·) := by
    cases rest with
    | nil => simp
    | cons c rest =>
      cases width - digits.length with
      | zero => rfl
      | succ more => exact hend
  have htake : ((digits ++ rest).take width).takeWhile Char.isDigit = digits := by
    rw [List.take_append, List.take_of_length_le hlength]
    exact (Text.takeWhile_digits hdigits hend).1
  rw [number?, htake, if_neg (by simpa using hne), List.drop_left]

/-- No blank and no sign stands in front of a number. -/
theorem trimStart_digits (rest : List Char) :
    Text.trimStart (digits ++ rest) = digits ++ rest := by
  cases digits with
  | nil => exact absurd rfl hne
  | cons d digits =>
    have hd : d.isDigit := List.all_eq_true.mp hdigits d List.mem_cons_self
    exact Text.trimStart_cons (Text.not_isBlank_of_isDigit hd) _

end

theorem part?_padded {width n : Nat} (h : n < 10 ^ width) (hwidth : 0 < width)
    (rest : List Char) : part? width (padded width n ++ rest) = some (n, rest) := by
  have hdigits := all_isDigit_padded width n
  have hne := padded_ne_nil width n
  rw [part?, trimStart_digits hdigits hne,
    number?_of_length_eq hdigits hne rest (length_padded h hwidth), digitsValue_padded]

theorem partAfter?_padded {width n : Nat} (h : n < 10 ^ width) (hwidth : 0 < width) (mark : Char)
    (hmark : Text.isBlank mark = false) (rest : List Char) :
    partAfter? mark width (mark :: (padded width n ++ rest)) = some (n, rest) := by
  rw [partAfter?, Text.trimStart_cons hmark]
  dsimp only
  rw [if_pos rfl, part?_padded h hwidth]

/-! ### Parts of the text -/

/-- A year is read back with its sign, if it has one. -/
theorem year?_yearText (year : Int) {rest : List Char} (hrest : rest.head?.all (!Char.isDigit ·)) :
    year? (yearText year ++ rest) = some (year, rest) := by
  have hdigits := all_isDigit_padded 4
  have hne := padded_ne_nil 4
  unfold yearText
  split
  · next hyear =>
    have hlength : (padded 4 year.toNat).length = 4 := length_padded (by omega) (by decide)
    have hnumber := number?_of_length_eq (hdigits year.toNat) (hne _) rest hlength
    have hfirst : ∀ c text, padded 4 year.toNat ++ rest = c :: text → c.isDigit := by
      intro c text heq
      cases hpadded : padded 4 year.toNat with
      | nil => exact absurd hpadded (hne _)
      | cons d digits =>
        have hd : d ∈ padded 4 year.toNat := hpadded ▸ List.mem_cons_self
        rw [hpadded] at heq
        cases heq
        exact List.all_eq_true.mp (hdigits year.toNat) _ hd
    rw [year?, trimStart_digits (hdigits _) (hne _)]
    split
    · next heq => exact absurd (hfirst _ _ heq) (by decide)
    · next heq => exact absurd (hfirst _ _ heq) (by decide)
    · rw [hnumber, digitsValue_padded]
      show some ((year.toNat : Int), rest) = _
      rw [Int.toNat_of_nonneg hyear.1]
  · have hnumber : number? (padded 4 year.natAbs ++ rest).length (padded 4 year.natAbs ++ rest)
        = some (Text.digitsValue (padded 4 year.natAbs), rest) :=
      number?_of_end (hdigits year.natAbs) (hne _) (by simp) hrest
    rw [digitsValue_padded] at hnumber
    split
    · next hneg =>
      rw [List.cons_append, year?, Text.trimStart_cons (by decide)]
      show (number? _ (padded 4 year.natAbs ++ rest)).map _ = _
      rw [hnumber]
      show some (-(year.natAbs : Int), rest) = _
      rw [Int.ofNat_natAbs_of_nonpos (Int.le_of_lt hneg), Int.neg_neg]
    · next hpos =>
      rw [List.cons_append, year?, Text.trimStart_cons (by decide)]
      show (number? _ (padded 4 year.natAbs ++ rest)).map _ = _
      rw [hnumber]
      show some ((year.natAbs : Int), rest) = _
      rw [Int.natAbs_of_nonneg (Int.not_lt.mp hpos)]

theorem decimals?_padded {width n : Nat} (h : n < 10 ^ width) (hwidth : 0 < width ∧ width ≤ 9)
    {rest : List Char} (hrest : rest.head?.all (!Char.isDigit ·)) :
    decimals? ('.' :: (padded width n ++ rest)) = some (n * 10 ^ (9 - width), rest) := by
  have hlength := length_padded h hwidth.1
  have hparts := Text.takeWhile_digits (all_isDigit_padded width n) hrest
  have htake : (padded width n).take 9 = padded width n :=
    List.take_of_length_le (by omega)
  rw [decimals?, hparts.1, hparts.2, if_neg (by simpa using padded_ne_nil width n), htake]
  dsimp only
  rw [digitsValue_padded, hlength]
  rfl

/-- Decimals of a second are read back. -/
theorem decimals?_decimals {n : Nat} (h : n < 1_000_000_000) {rest : List Char}
    (hrest : rest.head?.all fun c => !c.isDigit && c ≠ '.') :
    decimals? (decimals n ++ rest) = some (n, rest) := by
  have hend : rest.head?.all (!Char.isDigit ·) := by
    cases rest with
    | nil => rfl
    | cons c rest => exact (Bool.and_eq_true_iff.mp hrest).1
  unfold decimals
  split
  · next hzero =>
    rw [hzero, List.nil_append]
    cases rest with
    | nil => rfl
    | cons c rest =>
      have hc : c ≠ '.' := by simpa using (Bool.and_eq_true_iff.mp hrest).2
      rw [decimals?]
      simp [hc]
  · split
    · next hmilli =>
      rw [List.cons_append, decimals?_padded (by omega) (by decide) hend]
      simp only [Option.some.injEq, Prod.mk.injEq, and_true]
      omega
    · split
      · next hmicro =>
        rw [List.cons_append, decimals?_padded (by omega) (by decide) hend]
        simp only [Option.some.injEq, Prod.mk.injEq, and_true]
        omega
      · rw [List.cons_append, decimals?_padded (by omega) (by decide) hend]
        simp

/-! ### Whole instants -/

/-- Instants within the calendar.  Only the last second of a minute may be a leap second. -/
structure Proper (t : Instant) : Prop where
  /-- The year is one of the calendar. -/
  year : isYear (Calendar.dateOf (t.seconds / 86400)).1
  /-- A second and perhaps a leap second. -/
  nanoseconds : t.nanoseconds < 2_000_000_000
  /-- A leap second ends a minute. -/
  leap : 1_000_000_000 ≤ t.nanoseconds → t.seconds % 60 = 59

/-- The text of a point in time by its parts is read part by part. -/
theorem parse?_parts {year : Int} {month day second nanoseconds : Nat} (hour minute : Nat)
    (hyear : isYear year) (hdate : Calendar.isDate year month day) (hhour : hour < 24)
    (hminute : minute < 60) (hsecond : second ≤ 60) (hnanoseconds : nanoseconds < 1_000_000_000)
    (seconds : Int) (hseconds : seconds = Calendar.daysOf year month day * 86400 + hour * 3600
      + minute * 60 + (if second = 60 then 59 else second : Nat))
    (hresult : isYear (Calendar.dateOf (seconds / 86400)).1) :
    parse? (String.ofList (yearText year ++ '-' :: (padded 2 month ++ '-' :: (padded 2 day
      ++ 'T' :: (padded 2 hour ++ ':' :: (padded 2 minute ++ ':' :: (padded 2 second
      ++ (decimals nanoseconds ++ ['Z'])))))))) = some ⟨seconds,
        if second = 60 then nanoseconds + 1_000_000_000 else nanoseconds⟩ := by
  have hmonth : month < 10 ^ 2 ∧ day < 10 ^ 2 := by
    simp only [Calendar.isDate, Bool.and_eq_true, decide_eq_true_eq] at hdate
    obtain ⟨⟨⟨-, hmonth⟩, -⟩, hday⟩ := hdate
    have hdays := Calendar.daysInMonth_le year month
    omega
  have hparts : (if second = 60 then (59, nanoseconds + 1_000_000_000) else (second, nanoseconds))
      = (if second = 60 then 59 else second,
        if second = 60 then nanoseconds + 1_000_000_000 else nanoseconds) := by
    split
    all_goals rfl
  have hhour : hour < 24 ∧ hour < 10 ^ 2 := by omega
  have hminute : minute < 60 ∧ minute < 10 ^ 2 := by omega
  have hsecond : second ≤ 60 ∧ second < 10 ^ 2 := by omega
  have hdecimals : decimals? (decimals nanoseconds ++ ['Z']) = some (nanoseconds, ['Z']) :=
    decimals?_decimals hnanoseconds rfl
  have hzone : Text.trimStart ['Z'] = ['Z'] ∧ offset? ['Z'] = some (0, []) := by decide
  have hguard : ∀ {p : Prop} [Decidable p], p → (guard p : Option Unit) = some () :=
    fun h => if_pos h
  rw [parse?, String.toList_ofList, year?_yearText year rfl]
  simp only [Option.bind_eq_bind, Option.bind_some,
    partAfter?_padded hmonth.1 (by decide) '-' (by decide),
    partAfter?_padded hmonth.2 (by decide) '-' (by decide), part?_padded hhour.2 (by decide),
    partAfter?_padded hminute.2 (by decide) ':' (by decide),
    partAfter?_padded hsecond.2 (by decide) ':' (by decide),
    hdecimals, hzone.1, hzone.2, hparts]
  have hend : (Text.trimStart []).isEmpty := rfl
  have hday : (isYear year && Calendar.isDate year month day) = true := by rw [hyear, hdate]; rfl
  have htime : (decide (hour < 24) && decide (minute < 60) && decide (second ≤ 60)
      && decide (Int.natAbs 0 < 86400)) = true := by
    simp [hhour, hminute, hsecond]
  rw [← hseconds, Int.sub_zero, hguard hend, hguard hday, hguard htime, hguard hresult]
  rfl

/-- The second of the minute and the nanoseconds, as they are written. -/
theorem exists_second {t : Instant} (proper : t.Proper) : ∃ second nanoseconds : Nat,
    (if 1_000_000_000 ≤ t.nanoseconds
      then ((t.seconds % 86400).toNat % 60 + 1, t.nanoseconds - 1_000_000_000)
      else ((t.seconds % 86400).toNat % 60, t.nanoseconds)) = (second, nanoseconds)
    ∧ second ≤ 60 ∧ nanoseconds < 1_000_000_000
    ∧ (if second = 60 then 59 else second) = (t.seconds % 86400).toNat % 60
    ∧ (if second = 60 then nanoseconds + 1_000_000_000 else nanoseconds) = t.nanoseconds := by
  have hbound := proper.nanoseconds
  by_cases hlong : 1_000_000_000 ≤ t.nanoseconds
  · have hend := proper.leap hlong
    have hsecond : (t.seconds % 86400).toNat % 60 = 59 := by omega
    rw [if_pos hlong, hsecond]
    exact ⟨_, _, rfl, by decide, by omega, rfl, by rw [if_pos rfl]; omega⟩
  · have hsecond : (t.seconds % 86400).toNat % 60 ≠ 60 := by omega
    rw [if_neg hlong]
    exact ⟨_, _, rfl, by omega, by omega, if_neg hsecond, if_neg hsecond⟩

/-- **An instant is read back from its text.** -/
theorem parse?_text {t : Instant} (proper : t.Proper) : parse? t.text = some t := by
  have hdate := Calendar.isDate_dateOf (t.seconds / 86400)
  have hdays := Calendar.daysOf_dateOf (t.seconds / 86400)
  obtain ⟨second, nanoseconds, hparts, hbound, hnanoseconds, hsecond, hsame⟩ := exists_second proper
  have hread := parse?_parts ((t.seconds % 86400).toNat / 3600)
    ((t.seconds % 86400).toNat / 60 % 60) proper.year hdate (by omega) (by omega) hbound
    hnanoseconds t.seconds (by omega) proper.year
  have hchars : t.chars = yearText (Calendar.dateOf (t.seconds / 86400)).1
      ++ '-' :: padded 2 (Calendar.dateOf (t.seconds / 86400)).2.1
      ++ '-' :: padded 2 (Calendar.dateOf (t.seconds / 86400)).2.2
      ++ 'T' :: padded 2 ((t.seconds % 86400).toNat / 3600)
      ++ ':' :: padded 2 ((t.seconds % 86400).toNat / 60 % 60)
      ++ ':' :: padded 2 second ++ decimals nanoseconds ++ ['Z'] := by
    unfold chars
    simp only [hparts]
  rw [hsame] at hread
  rw [← hread, text, hchars]
  simp

end Instant

end ServerMigration
