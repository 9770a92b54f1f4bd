import ServerMigration.Proofs.Text.NaturalOrder
import ServerMigration.Proofs.Text.Numerals

/-!
# Names with digits in natural order

Two names are compared run by run.  A numeral that fits into sixty-four bits counts as its number;
every other run, a longer numeral among them, counts as its characters.  As long as all numerals
fit, each run has a key by which it is compared with every other run, and the comparison of names
is the comparison of their keys.  With longer numerals it is none of the usual orders: such a
numeral stands behind a smaller one by its first characters, and in front of a larger one.

## Main definitions

* `Text.IsRun` : a text that is all digits or has none.
* `Text.FitsWord` : a name whose numerals fit into sixty-four bits.
* `Text.naturalKey` : what the name is compared by then.
* `Text.Numeral` : a numeral between two texts that do not go on with it.

## Main results

* `Text.naturalCompare_swap`, `Text.naturalCompare_eq_eq_iff` : all names are compared both ways
  alike, and only a name itself is equal to it.
* `Text.naturalCompare_eq_compare` : names whose numerals fit are compared by their keys.
* `Text.naturalSort_pairwise` : sorting puts such names in their order.
* `Text.naturalCompare_numerals` : names that differ in a numeral first.
* `Text.naturalCompare_laws` : where the natural order is a linear order.
* `Text.longNumeral_out_of_order` : where it is not.
-/

namespace ServerMigration.Text

variable {a b c run text : List Char}

theorem then_of_ne_eq {first second : Ordering} (h : first ≠ .eq) : first.then second = first := by
  cases first with
  | eq => exact absurd rfl h
  | lt => rfl
  | gt => rfl

/-! ### Characters -/

theorem compareChars_cons (c d : Char) (a b : List Char) :
    compareChars (c :: a) (d :: b) = (compare c.toNat d.toNat).then (compareChars a b) := by
  have hlt : (c :: a < d :: b) ↔ c.toNat < d.toNat ∨ c = d ∧ a < b := List.cons_lt_cons_iff
  have heq : (c :: a = d :: b) ↔ c = d ∧ a = b := by rw [List.cons.injEq]
  simp only [compareChars, compareOfLessAndEq, hlt, heq]
  rcases Nat.lt_trichotomy c.toNat d.toNat with h | h | h
  · rw [Nat.compare_eq_lt.mpr h, if_pos (.inl h)]
    rfl
  · obtain rfl := Char.toNat_inj.mp h
    simp
  · have hne : c ≠ d := by
      rintro rfl
      exact Nat.lt_irrefl _ h
    rw [Nat.compare_eq_gt.mpr h, if_neg (by simp [hne, Nat.le_of_lt h]), if_neg (by simp [hne])]
    rfl

/-- Texts are compared by the code points of their characters. -/
theorem compareChars_eq (a b : List Char) :
    compareChars a b = compare (a.map Char.toNat) (b.map Char.toNat) := by
  induction a generalizing b with
  | nil => cases b <;> rfl
  | cons c a ih =>
    cases b with
    | nil => rfl
    | cons d b => rw [compareChars_cons, ih, List.map_cons, List.map_cons, List.compare_cons_cons]

theorem compareChars_swap (a b : List Char) : compareChars b a = (compareChars a b).swap := by
  rw [compareChars_eq, compareChars_eq]
  exact Std.OrientedOrd.eq_swap

theorem compareChars_eq_eq_iff : compareChars a b = .eq ↔ a = b := by
  rw [compareChars_eq, Std.LawfulEqOrd.compare_eq_iff_eq]
  exact List.map_inj_right fun c d => Char.toNat_inj.mp

/-! ### Runs -/

/-- A text that is not empty, and all digits or without digits. -/
structure IsRun (run : List Char) : Prop where
  nonempty : run ≠ []
  alike : run.all Char.isDigit ∨ ∀ c ∈ run, c.isDigit = false

theorem flatten_runsOf (text : List Char) : (runsOf text).flatten = text := by
  induction text with
  | nil => rfl
  | cons c text ih =>
    rw [runsOf]
    split
    · next d run runs hruns =>
      rw [hruns] at ih
      split
      · simpa using ih
      · simpa using ih
    · simpa using ih

/-- The first run of a text begins with its first character. -/
theorem exists_runsOf_cons (c : Char) (text : List Char) :
    ∃ run runs, runsOf (c :: text) = (c :: run) :: runs := by
  rw [runsOf]
  split
  · split
    · exact ⟨_, _, rfl⟩
    · exact ⟨_, _, rfl⟩
  · exact ⟨_, _, rfl⟩

/-- A character goes on with the first run, or is one of its own. -/
theorem runsOf_cons_eq {d : Char} {runs : List (List Char)} (h : runsOf text = (d :: run) :: runs)
    (c : Char) : runsOf (c :: text)
      = if c.isDigit = d.isDigit then (c :: d :: run) :: runs else [c] :: (d :: run) :: runs := by
  rw [runsOf, h]

theorem isRun_of_mem_runsOf (h : run ∈ runsOf text) : IsRun run := by
  induction text generalizing run with
  | nil => simp [runsOf] at h
  | cons c text ih =>
    have hsingle : IsRun [c] := by
      refine ⟨List.cons_ne_nil _ _, ?_⟩
      cases hc : c.isDigit <;> simp [hc]
    rw [runsOf] at h
    split at h
    · next d first runs hruns =>
      rw [hruns] at ih
      split at h
      · next hsame =>
        rcases List.mem_cons.mp h with rfl | h
        · have halike := (ih List.mem_cons_self).alike
          refine ⟨List.cons_ne_nil _ _, ?_⟩
          simpa [hsame] using halike
        · exact ih (List.mem_cons_of_mem _ h)
      · rcases List.mem_cons.mp h with rfl | h
        · exact hsingle
        · exact ih h
    · rcases List.mem_cons.mp h with rfl | h
      · exact hsingle
      · exact ih h

/-- A text is cut where a digit and another character stand side by side. -/
theorem runsOf_append (h : ∀ c d, a.getLast? = some c → b.head? = some d → c.isDigit ≠ d.isDigit) :
    runsOf (a ++ b) = runsOf a ++ runsOf b := by
  induction a with
  | nil => rfl
  | cons c a ih =>
    -- Only the last character of the first text stands beside the second one.
    cases a with
    | nil =>
      cases b with
      | nil => simp [runsOf]
      | cons d b =>
        have hcut : c.isDigit ≠ d.isDigit := h c d rfl rfl
        obtain ⟨run, runs, hruns⟩ := exists_runsOf_cons d b
        rw [List.singleton_append, runsOf_cons_eq hruns, if_neg hcut, hruns]
        rfl
    | cons next a =>
      have hrest := ih fun c d hc hd => h c d (by simpa using hc) hd
      obtain ⟨run, runs, hruns⟩ := exists_runsOf_cons next a
      rw [hruns, List.cons_append, List.cons_append] at hrest
      rw [List.cons_append, List.cons_append, runsOf_cons_eq hrest, runsOf_cons_eq hruns]
      split
      · rfl
      · rfl

/-! ### Comparing all names -/

theorem compareChunk_swap (a b : List Char) : compareChunk b a = (compareChunk a b).swap := by
  rw [compareChunk, compareChunk]
  cases readNat UInt64.size a with
  | none =>
    cases readNat UInt64.size b with
    | none => exact compareChars_swap a b
    | some n => exact compareChars_swap a b
  | some m =>
    cases readNat UInt64.size b with
    | none => exact compareChars_swap a b
    | some n =>
      have hvalue : compare n m = (compare m n).swap := Std.OrientedOrd.eq_swap
      have hlength : compare b.length a.length = (compare a.length b.length).swap :=
        Std.OrientedOrd.eq_swap
      simp only [hvalue, hlength, Ordering.swap_then]

instance : Std.OrientedCmp compareChunk where
  eq_swap := compareChunk_swap _ _

theorem compareChunks_swap (xs ys : List (List Char)) :
    compareChunks ys xs = (compareChunks xs ys).swap := by
  induction xs generalizing ys with
  | nil => cases ys <;> rfl
  | cons x xs ih =>
    cases ys with
    | nil => rfl
    | cons y ys =>
      rw [compareChunks, compareChunks, compareChunk_swap, ih, Ordering.swap_then]

/-- **Which of two names is put first does not hang on which is named first.** -/
theorem naturalCompare_swap (a b : String) : naturalCompare b a = (naturalCompare a b).swap :=
  compareChunks_swap _ _

/-- A run that is read as a number is a numeral. -/
theorem IsRun.digits_of_readNat {n : Nat} (isRun : IsRun run)
    (h : readNat UInt64.size run = some n) : run.all Char.isDigit ∧ digitsValue run = n := by
  rcases isRun.alike with hdigits | hplain
  · rw [readNat_of_digits isRun.nonempty hdigits] at h
    exact ⟨hdigits, (Option.some.inj (Option.filter_eq_some_iff.mp h).1)⟩
  · rw [readNat_of_plain hplain] at h
    cases h

theorem compareChunk_eq_eq_iff (ha : IsRun a) (hb : IsRun b) :
    compareChunk a b = .eq ↔ a = b := by
  constructor
  · intro h
    rw [compareChunk] at h
    split at h
    · next m n hm hn =>
      obtain ⟨hvalue, hlength⟩ := Ordering.then_eq_eq.mp h
      obtain ⟨hdigits, rfl⟩ := ha.digits_of_readNat hm
      obtain ⟨hothers, rfl⟩ := hb.digits_of_readNat hn
      exact eq_of_digitsValue_eq hdigits hothers (Nat.compare_eq_eq.mp hlength)
        (Nat.compare_eq_eq.mp hvalue)
    · exact compareChars_eq_eq_iff.mp h
  · rintro rfl
    exact Std.ReflCmp.compare_self

/-- Only lists of the same runs are equal. -/
theorem compareChunks_eq_eq_iff {xs ys : List (List Char)} (hxs : ∀ x ∈ xs, IsRun x)
    (hys : ∀ y ∈ ys, IsRun y) : compareChunks xs ys = .eq ↔ xs = ys := by
  induction xs generalizing ys with
  | nil => cases ys <;> simp [compareChunks]
  | cons x xs ih =>
    cases ys with
    | nil => simp [compareChunks]
    | cons y ys =>
      obtain ⟨hx, hxs⟩ := List.forall_mem_cons.mp hxs
      obtain ⟨hy, hys⟩ := List.forall_mem_cons.mp hys
      rw [compareChunks, Ordering.then_eq_eq, compareChunk_eq_eq_iff hx hy, ih hxs hys,
        List.cons.injEq]

/-- **Only a name itself is equal to it.** -/
theorem naturalCompare_eq_eq_iff {a b : String} : naturalCompare a b = .eq ↔ a = b := by
  rw [naturalCompare, compareChunks_eq_eq_iff (fun _ => isRun_of_mem_runsOf)
    (fun _ => isRun_of_mem_runsOf)]
  constructor
  · intro h
    have hflat := congrArg List.flatten h
    rwa [flatten_runsOf, flatten_runsOf, String.toList_inj] at hflat
  · rintro rfl
    rfl

/-! ### Names whose numerals fit -/

/-- Every numeral of the name fits into sixty-four bits. -/
def FitsWord (name : String) : Prop :=
  ∀ run ∈ runsOf name.toList, run.all Char.isDigit → digitsValue run < UInt64.size

instance (name : String) : Decidable (FitsWord name) :=
  inferInstanceAs (Decidable (∀ run ∈ runsOf name.toList, _))

/-- What a run is compared by: a numeral by its number and its length, behind a mark that tells
it from other runs, and every other run by its characters. -/
def runKey (run : List Char) : List Nat :=
  match readNat UInt64.size run with
  | some n => ['0'.toNat, n, run.length]
  | none => run.map Char.toNat

/-- What a name is compared by. -/
def naturalKey (name : String) : List (List Nat) :=
  (runsOf name.toList).map runKey

/-- A run that fits is a numeral that is read, or has no digits. -/
theorem IsRun.key_cases (isRun : IsRun run)
    (fits : run.all Char.isDigit → digitsValue run < UInt64.size) :
    (run.all Char.isDigit ∧ readNat UInt64.size run = some (digitsValue run))
      ∨ (∀ c ∈ run, c.isDigit = false) ∧ readNat UInt64.size run = none := by
  refine isRun.alike.imp (fun hdigits => ⟨hdigits, ?_⟩) fun hplain =>
    ⟨hplain, readNat_of_plain hplain _⟩
  rw [readNat_of_digits isRun.nonempty hdigits, Option.filter_some,
    if_pos (by simpa using fits hdigits)]

/-- Where a digit is compared with another character, any digit will do. -/
theorem compare_digit {d c : Char} (hd : d.isDigit) (hc : c.isDigit = false) :
    compare d.toNat c.toNat = compare '0'.toNat c.toNat ∧ compare d.toNat c.toNat ≠ .eq := by
  have hd := isDigit_iff.mp hd
  have hc := isDigit_iff.not.mp (Bool.eq_false_iff.mp hc)
  have hzero : '0'.toNat ≤ '9'.toNat := by decide
  rcases Nat.lt_or_ge c.toNat '0'.toNat with hlow | hhigh
  · have hfirst : compare d.toNat c.toNat = .gt := Nat.compare_eq_gt.mpr (by omega)
    rw [hfirst, Nat.compare_eq_gt.mpr hlow]
    decide
  · have hfirst : compare d.toNat c.toNat = .lt := Nat.compare_eq_lt.mpr (by omega)
    rw [hfirst, Nat.compare_eq_lt.mpr (by omega)]
    decide

/-- A numeral and a run without digits differ in their first characters. -/
theorem compareChars_numeral (ha : a ≠ []) (hb : b ≠ []) (hdigits : a.all Char.isDigit)
    (hplain : ∀ c ∈ b, c.isDigit = false) (key : List Nat) :
    compareChars a b = compare ('0'.toNat :: key) (b.map Char.toNat) := by
  obtain ⟨d, a, rfl⟩ := List.exists_cons_of_ne_nil ha
  obtain ⟨c, b, rfl⟩ := List.exists_cons_of_ne_nil hb
  obtain ⟨hsame, hne⟩ := compare_digit (List.all_eq_true.mp hdigits d List.mem_cons_self)
    (hplain c List.mem_cons_self)
  rw [compareChars_cons, List.map_cons, List.compare_cons_cons, ← hsame, then_of_ne_eq hne,
    then_of_ne_eq hne]

/-- **Runs that fit are compared by their keys.** -/
theorem compareChunk_eq_compare (ha : IsRun a) (hb : IsRun b)
    (hafits : a.all Char.isDigit → digitsValue a < UInt64.size)
    (hbfits : b.all Char.isDigit → digitsValue b < UInt64.size) :
    compareChunk a b = compare (runKey a) (runKey b) := by
  rcases ha.key_cases hafits with ⟨hadigits, haread⟩ | ⟨haplain, haread⟩
  · rcases hb.key_cases hbfits with ⟨hbdigits, hbread⟩ | ⟨hbplain, hbread⟩
    · simp only [compareChunk, runKey, haread, hbread, List.compare_cons_cons,
        Nat.compare_eq_eq.mpr, Ordering.eq_then, List.compare_nil_nil, Ordering.then_eq]
    · simp only [compareChunk, runKey, haread, hbread]
      exact compareChars_numeral ha.nonempty hb.nonempty hadigits hbplain _
  · rcases hb.key_cases hbfits with ⟨hbdigits, hbread⟩ | ⟨hbplain, hbread⟩
    · simp only [compareChunk, runKey, haread, hbread]
      rw [compareChars_swap, compareChars_numeral hb.nonempty ha.nonempty hbdigits haplain
        [digitsValue b, b.length]]
      exact Std.OrientedOrd.eq_swap.symm
    · simp only [compareChunk, runKey, haread, hbread]
      exact compareChars_eq a b

/-- **Names whose numerals fit are compared by their keys.** -/
theorem naturalCompare_eq_compare {a b : String} (ha : FitsWord a) (hb : FitsWord b) :
    naturalCompare a b = compare (naturalKey a) (naturalKey b) := by
  have hruns : ∀ xs ys : List (List Char),
      (∀ x ∈ xs, IsRun x ∧ (x.all Char.isDigit → digitsValue x < UInt64.size)) →
      (∀ y ∈ ys, IsRun y ∧ (y.all Char.isDigit → digitsValue y < UInt64.size)) →
      compareChunks xs ys = compare (xs.map runKey) (ys.map runKey) := by
    -- The induction is on lists of runs that fit, whatever name they are cut from.
    intro xs
    induction xs with
    | nil => rintro (_ | ⟨y, ys⟩) - - <;> rfl
    | cons x xs ih =>
      rintro (_ | ⟨y, ys⟩) hxs hys
      · rfl
      · obtain ⟨hx, hxs⟩ := List.forall_mem_cons.mp hxs
        obtain ⟨hy, hys⟩ := List.forall_mem_cons.mp hys
        rw [compareChunks, compareChunk_eq_compare hx.1 hy.1 hx.2 hy.2, ih ys hxs hys,
          List.map_cons, List.map_cons, List.compare_cons_cons]
  exact hruns _ _ (fun run h => ⟨isRun_of_mem_runsOf h, ha run h⟩) fun run h =>
    ⟨isRun_of_mem_runsOf h, hb run h⟩

/-- Sorting names whose numerals fit puts them in natural order. -/
theorem naturalSort_pairwise {names : List String} (fits : ∀ name ∈ names, FitsWord name) :
    (naturalSort names).Pairwise fun a b => (naturalCompare a b).isLE := by
  have hperm : (naturalSort names).Perm names := stableSort_perm naturalCompare names
  have hkeys : naturalSort names = stableSort (compareOn naturalKey) names :=
    stableSort_congr fun a ha b hb => naturalCompare_eq_compare (fits a ha) (fits b hb)
  have hsorted : (naturalSort names).Pairwise fun a b => (compareOn naturalKey a b).isLE := by
    rw [hkeys]
    exact stableSort_pairwise names
  refine hsorted.imp_of_mem fun {a b} ha hb h => ?_
  rwa [naturalCompare_eq_compare (fits a (hperm.mem_iff.mp ha)) (fits b (hperm.mem_iff.mp hb))]

/-! ### Numerals in the same place -/

/-- A numeral between two texts neither of which goes on with it. -/
structure Numeral (start digits rest : List Char) : Prop where
  begins : start.getLast?.all (!Char.isDigit ·)
  nonempty : digits ≠ []
  all_isDigit : digits.all Char.isDigit
  ends : rest.head?.all (!Char.isDigit ·)

/-- The numeral is a run of the text. -/
theorem Numeral.runsOf_eq {start digits rest : List Char} (numeral : Numeral start digits rest) :
    runsOf (start ++ (digits ++ rest)) = runsOf start ++ digits :: runsOf rest := by
  have hdigits : ∀ c ∈ digits, c.isDigit = true := List.all_eq_true.mp numeral.all_isDigit
  have hfirst : ∀ c d, start.getLast? = some c → (digits ++ rest).head? = some d →
      c.isDigit ≠ d.isDigit := by
    intro c d hc hd
    have hbegins : c.isDigit = false := by simpa [hc] using numeral.begins
    obtain ⟨digit, more, rfl⟩ := List.exists_cons_of_ne_nil numeral.nonempty
    obtain rfl : digit = d := Option.some.inj hd
    rw [hbegins, hdigits digit List.mem_cons_self]
    decide
  have hlast : ∀ c d, digits.getLast? = some c → rest.head? = some d →
      c.isDigit ≠ d.isDigit := by
    intro c d hc hd
    have hends : d.isDigit = false := by simpa [hd] using numeral.ends
    rw [hends, hdigits c (List.mem_of_getLast? hc)]
    decide
  rw [runsOf_append hfirst, runsOf_append hlast, runsOf_of_alike hdigits numeral.nonempty,
    List.singleton_append]

theorem compareChunks_append (common xs ys : List (List Char)) :
    compareChunks (common ++ xs) (common ++ ys) = compareChunks xs ys := by
  induction common with
  | nil => rfl
  | cons run common ih =>
    have hsame : compareChunk run run = .eq := Std.ReflCmp.compare_self
    rw [List.cons_append, List.cons_append, compareChunks, hsame, ih]
    rfl

/-- **Of two names that first differ in a numeral, the one with the smaller number comes first if
the larger number fits, and else the numerals are compared by their characters.** -/
theorem naturalCompare_numerals {start digits rest others behind : List Char}
    (numeral : Numeral start digits rest) (other : Numeral start others behind)
    (h : digitsValue digits < digitsValue others) :
    naturalCompare (.ofList (start ++ (digits ++ rest))) (.ofList (start ++ (others ++ behind)))
      = if digitsValue others < UInt64.size then .lt else compareChars digits others := by
  have hne : digits ≠ others := by
    rintro rfl
    exact Nat.lt_irrefl _ h
  have hchunk : compareChunk digits others
      = if digitsValue others < UInt64.size then .lt else compareChars digits others := by
    by_cases hfits : digitsValue others < UInt64.size
    · have hread : readNat UInt64.size digits = some (digitsValue digits) := by
        rw [readNat_of_digits numeral.nonempty numeral.all_isDigit, Option.filter_some,
          if_pos (by simpa using Nat.lt_trans h hfits)]
      have hother : readNat UInt64.size others = some (digitsValue others) := by
        rw [readNat_of_digits other.nonempty other.all_isDigit, Option.filter_some,
          if_pos (by simpa using hfits)]
      rw [compareChunk, hread, hother, if_pos hfits]
      dsimp only
      rw [Nat.compare_eq_lt.mpr h, Ordering.lt_then]
    · have hother : readNat UInt64.size others = none := by
        rw [readNat_of_digits other.nonempty other.all_isDigit, Option.filter_some,
          if_neg (by simpa using hfits)]
      rw [compareChunk, hother, if_neg hfits]
      cases readNat UInt64.size digits with
      | none => rfl
      | some m => rfl
  have hdecided : compareChunk digits others ≠ .eq := by
    rw [hchunk]
    split
    · decide
    · exact compareChars_eq_eq_iff.not.mpr hne
  rw [naturalCompare, String.toList_ofList, String.toList_ofList, numeral.runsOf_eq,
    other.runsOf_eq, compareChunks_append, compareChunks, then_of_ne_eq hdecided, hchunk]

/-! ### The natural order -/

/-- **Where the natural order is a linear order.**  All names are compared both ways alike, and
only a name itself is equal to it.  Among names whose numerals fit into sixty-four bits the order is
transitive.  Of two names that first differ in a numeral, the one with the smaller number comes
first if the larger number fits; if it does not, the characters of the two numerals decide. -/
theorem naturalCompare_laws (a b c : String) :
    naturalCompare b a = (naturalCompare a b).swap
      ∧ (naturalCompare a b = .eq ↔ a = b)
      ∧ (FitsWord a → FitsWord b → FitsWord c → (naturalCompare a b).isLE →
        (naturalCompare b c).isLE → (naturalCompare a c).isLE)
      ∧ ∀ start digits rest others behind, a.toList = start ++ (digits ++ rest) →
        b.toList = start ++ (others ++ behind) → Numeral start digits rest →
        Numeral start others behind → digitsValue digits < digitsValue others →
        naturalCompare a b
          = if digitsValue others < UInt64.size then .lt else compareChars digits others := by
  refine ⟨naturalCompare_swap a b, naturalCompare_eq_eq_iff, fun ha hb hc hab hbc => ?_,
    fun start digits rest others behind ha hb numeral other hlt => ?_⟩
  · rw [naturalCompare_eq_compare ha hb] at hab
    rw [naturalCompare_eq_compare hb hc] at hbc
    rw [naturalCompare_eq_compare ha hc]
    exact Std.TransOrd.isLE_trans hab hbc
  · have hnumerals := naturalCompare_numerals numeral other hlt
    rwa [← ha, ← hb, String.ofList_toList, String.ofList_toList] at hnumerals

/-- Names of disks, one of them with a numeral of the greatest number that fits, are in order. -/
theorem diskNames_in_order :
    FitsWord "sd2" ∧ FitsWord "sd18446744073709551615" ∧ FitsWord "sda"
      ∧ (naturalCompare "sd2" "sda").isLE
      ∧ naturalCompare "sd2" "sd18446744073709551615" = .lt := by
  obtain ⟨-, -, trans, numerals⟩ := naturalCompare_laws "sd2" "sd18446744073709551615" "sda"
  have fits : FitsWord "sd2" ∧ FitsWord "sd18446744073709551615" ∧ FitsWord "sda" := by decide
  have smaller : naturalCompare "sd2" "sd18446744073709551615" = .lt :=
    numerals "sd".toList "2".toList [] "18446744073709551615".toList [] (by decide) (by decide)
      ⟨by decide, by decide, by decide, by decide⟩ ⟨by decide, by decide, by decide, by decide⟩
      (by decide)
  have behind : (naturalCompare "sd2" "sda").isLE :=
    trans fits.1 fits.2.1 fits.2.2 (by rw [smaller]; rfl) (by decide)
  exact ⟨fits.1, fits.2.1, fits.2.2, behind, smaller⟩

/-- A numeral of twenty-one digits. -/
def longNumeral : String := "100000000000000000000"

/-- **A long numeral stands behind `10`, which stands behind `9`, and in front of `9`.** -/
theorem longNumeral_out_of_order :
    ¬ (∀ a b c, (naturalCompare a b).isLE → (naturalCompare b c).isLE → (naturalCompare a c).isLE)
      ∧ ¬ ∀ start digits rest others behind, Numeral start digits rest →
        Numeral start others behind → digitsValue digits < digitsValue others →
        naturalCompare (.ofList (start ++ (digits ++ rest)))
          (.ofList (start ++ (others ++ behind))) = .lt := by
  constructor
  · intro h
    exact absurd (h "9" "10" longNumeral (by decide) (by decide)) (by decide)
  · intro h
    have hbefore := h [] ['9'] [] longNumeral.toList []
      ⟨by decide, by decide, by decide, by decide⟩ ⟨by decide, by decide, by decide, by decide⟩
      (by decide)
    exact absurd hbefore (by decide)

end ServerMigration.Text
