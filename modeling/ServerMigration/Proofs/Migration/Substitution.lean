import Mathlib
import ServerMigration.Migration.Replacement
import ServerMigration.Proofs.Text.Runs

/-!
# What replacements do to a text

A replacement puts its new value in the place of its old one wherever that stands as a whole word,
whatever the case of its letters.  Replacements are made one after another, each in the text that
the one before it has left.  Here this is compared with making all of them at once.

A text is cut into runs of the characters that may stand in a value; no value reaches beyond its
run, and so every way of replacing goes from run to run.

## Main definitions

* `standsAt` : whether a value stands at a place of a text as a whole word.
* `replaceAtOnce`, `replaceInTurn` : the replacements made together, and one after another.
* `Replacement.isPart` : characters that may stand in a value.
* `newValue`, `finalValue` : what becomes of one value, at once and in turn.
* `Solitary`, `StandsApart` : a run that holds an old value is that value.

## Main results

* `replaceAtOnce_eq_mapRuns`, `replaceInTurn_eq_mapRuns` : replacements go from run to run.
* `replaceAtOnce_of_standsApart`, `replaceInTurn_of_standsApart` : what they make of every run.
* `replaceInTurn_eq_replaceAtOnce_iff` : when both make the same of all texts.
* `forall_finalValue_eq_iff` : that is so if no new value is the old one of a later replacement.
-/

namespace ServerMigration

/-! ### Values in a text -/

/-- Characters of words: letters, digits and the underscore. -/
def isWordChar (c : Char) : Bool := c.isAlphanum || c = '_'

/-- Whether one of two neighbouring characters belongs to a word and the other does not; there may
be none at the ends of a text. -/
def atBoundary (before after : Option Char) : Bool :=
  before.any isWordChar != after.any isWordChar

/-- The same value, whatever the case of its letters. -/
abbrev SameValue (a b : List Char) : Prop := a.map Char.toLower = b.map Char.toLower

/-- Whether a text begins with a value, as a whole word; `before` is the character in front of the
text.  An empty value stands nowhere. -/
def standsAt (value : List Char) (before : Option Char) (text : List Char) : Bool :=
  let found := text.take value.length
  !value.isEmpty && SameValue found value && atBoundary before text.head?
    && atBoundary found.getLast? (text.drop value.length).head?

/-- `replaceAtOnce` behind the character `before`; the next `skip` characters belong to a value
that has been replaced. -/
def replaceFrom (rs : List Replacement) :
    (before : Option Char) → (skip : Nat) → (text : List Char) → List Char
  | _, _, [] => []
  | _, skip + 1, c :: text => replaceFrom rs (some c) skip text
  | before, 0, c :: text =>
    match rs.find? fun r => standsAt r.old.toList before (c :: text) with
    | some r => r.new.toList ++ replaceFrom rs (some c) (r.old.toList.length - 1) text
    | none => c :: replaceFrom rs (some c) 0 text

/-- All replacements made together: from left to right, at every place the first one whose old
value stands there. -/
def replaceAtOnce (rs : List Replacement) (text : List Char) : List Char :=
  replaceFrom rs none 0 text

/-- The replacements made one after another. -/
def replaceInTurn (rs : List Replacement) (text : List Char) : List Char :=
  rs.foldl (fun text r => replaceAtOnce [r] text) text

/-- A character that may stand in one of the values: one of a word, or one of a value. -/
def Replacement.isPart (rs : List Replacement) (c : Char) : Bool :=
  isWordChar c || rs.any fun r => r.old.toList.contains c || r.new.toList.contains c

/-! ### Letters -/

theorem isLower_toLower {c : Char} (h : c.isUpper) : c.toLower.isLower := by
  unfold Char.toLower
  simp only [Char.isUpper, decide_eq_true_eq] at h
  rw [dif_pos h]
  have hA : 'A'.val.toNat = 65 := rfl
  have hZ : 'Z'.val.toNat = 90 := rfl
  have ha : 'a'.val.toNat = 97 := rfl
  have hz : 'z'.val.toNat = 122 := rfl
  have hshift : ('a'.val - 'A'.val).toNat = 32 := rfl
  simp only [Char.isLower, Bool.and_eq_true, decide_eq_true_eq, ge_iff_le, UInt32.le_iff_toNat_le,
    UInt32.toNat_add] at h ⊢
  omega

theorem toLower_of_not_isUpper {c : Char} (h : ¬ c.isUpper) : c.toLower = c := by
  unfold Char.toLower
  simp only [Char.isUpper, decide_eq_true_eq] at h
  rw [dif_neg h]

theorem isWordChar_toLower (c : Char) : isWordChar c.toLower = isWordChar c := by
  by_cases h : c.isUpper
  · have hlower := isLower_toLower h
    simp [isWordChar, Char.isAlphanum, Char.isAlpha, h, hlower]
  · rw [toLower_of_not_isUpper h]

theorem toLower_of_not_isWordChar {c : Char} (h : ¬ isWordChar c) : c.toLower = c := by
  refine toLower_of_not_isUpper fun hupper => h ?_
  simp [isWordChar, Char.isAlphanum, Char.isAlpha, hupper]

section

variable {a b : List Char}

theorem SameValue.length_eq (h : SameValue a b) : a.length = b.length := by
  simpa using congrArg List.length h

/-- Every character of a value is one of the same value in other letters, or one of a word. -/
theorem SameValue.mem_or_isWordChar (h : SameValue a b) {c : Char} (hc : c ∈ a) :
    c ∈ b ∨ isWordChar c := by
  by_cases hword : isWordChar c
  · exact .inr hword
  · have hlower : c.toLower ∈ b.map Char.toLower := h ▸ List.mem_map_of_mem hc
    obtain ⟨d, hd, hsame⟩ := List.mem_map.mp hlower
    have hother : ¬ isWordChar d := by
      rw [← isWordChar_toLower, hsame, isWordChar_toLower]
      exact hword
    rw [toLower_of_not_isWordChar hword, toLower_of_not_isWordChar hother] at hsame
    exact .inl (hsame ▸ hd)

end

/-! ### Places in a text -/

section

variable {value text : List Char} {before : Option Char}

theorem standsAt_iff : standsAt value before text ↔ value ≠ [] ∧ atBoundary before text.head?
    ∧ ∃ found rest, text = found ++ rest ∧ SameValue found value
      ∧ atBoundary found.getLast? rest.head? := by
  unfold standsAt
  simp only [Bool.and_eq_true, Bool.not_eq_true', List.isEmpty_eq_false_iff, decide_eq_true_eq]
  constructor
  · rintro ⟨⟨⟨hne, hsame⟩, hbefore⟩, hafter⟩
    exact ⟨hne, hbefore, _, _, (List.take_append_drop _ _).symm, hsame, hafter⟩
  · rintro ⟨hne, hbefore, found, rest, rfl, hsame, hafter⟩
    rw [← hsame.length_eq, List.take_left, List.drop_left]
    exact ⟨⟨⟨hne, hsame⟩, hbefore⟩, hafter⟩

theorem atBoundary_congr {a b c d : Option Char} (hac : a.any isWordChar = c.any isWordChar)
    (hbd : b.any isWordChar = d.any isWordChar) : atBoundary a b = atBoundary c d := by
  rw [atBoundary, atBoundary, hac, hbd]

/-- Only whether it belongs to a word counts of the character in front. -/
theorem standsAt_congr {other : Option Char}
    (h : before.any isWordChar = other.any isWordChar) :
    standsAt value before text = standsAt value other text := by
  unfold standsAt
  rw [atBoundary_congr h rfl]

variable {p : Char → Bool}

/-- **Whether a value stands at the beginning of a run does not hang on what follows the run.** -/
theorem standsAt_append (hword : ∀ c, isWordChar c → p c) (hvalue : value.all p) (hne : value ≠ [])
    {rest : List Char}
    (hrest : rest.head?.all (!p ·)) :
    standsAt value before (text ++ rest) = standsAt value before text := by
  have hbehind : ∀ last (tail : List Char),
      atBoundary last (tail ++ rest).head? = atBoundary last tail.head? := by
    rintro last (_ | ⟨c, tail⟩)
    · refine atBoundary_congr rfl ?_
      cases rest with
      | nil => rfl
      | cons c rest =>
        have hc : p c = false := by simpa using hrest
        exact Bool.eq_false_iff.mpr fun h => by simp [hword c h] at hc
    · rfl
  have hfront : ∀ found more : List Char, SameValue found value →
      (found ++ more).head? = found.head? := by
    rintro (_ | ⟨c, found⟩) more hsame
    · exact absurd (List.eq_nil_of_length_eq_zero hsame.length_eq.symm) hne
    · rfl
  have hparts : ∀ found, SameValue found value → ∀ c ∈ found, p c := fun found hsame c hc =>
    (hsame.mem_or_isWordChar hc).elim (List.all_eq_true.mp hvalue c) (hword c)
  rw [Bool.eq_iff_iff, standsAt_iff, standsAt_iff]
  refine and_congr_right fun _ => ?_
  constructor
  · rintro ⟨hbefore, found, tail, htext, hsame, hafter⟩
    have hinside : ∃ more, text = found ++ more ∧ tail = more ++ rest := by
      rcases List.append_eq_append_iff.mp htext with ⟨more, hfound, hmore⟩ | h
      · cases more with
        | nil => exact ⟨[], by simpa using hfound.symm, by simpa using hmore.symm⟩
        | cons c more =>
          -- The value would reach beyond the run.
          have hc := hparts found hsame c (by simp [hfound])
          rw [hmore] at hrest
          simp [hc] at hrest
      · exact h
    obtain ⟨more, rfl, rfl⟩ := hinside
    rw [List.append_assoc, hfront _ _ hsame] at hbefore
    rw [hbehind] at hafter
    exact ⟨by rwa [hfront _ _ hsame], found, more, rfl, hsame, hafter⟩
  · rintro ⟨hbefore, found, tail, rfl, hsame, hafter⟩
    rw [hfront _ _ hsame] at hbefore
    refine ⟨?_, found, tail ++ rest, List.append_assoc _ _ _, hsame, ?_⟩
    · rwa [List.append_assoc, hfront _ _ hsame]
    · rwa [hbehind]

/-! ### From run to run -/

private theorem find?_congr {α : Type} {p q : α → Bool} {xs : List α} (h : ∀ x ∈ xs, p x = q x) :
    xs.find? p = xs.find? q := by
  induction xs with
  | nil => rfl
  | cons x xs ih =>
    obtain ⟨hx, hxs⟩ := List.forall_mem_cons.mp h
    rw [List.find?_cons, List.find?_cons, hx, ih hxs]

variable {rs : List Replacement}

theorem find?_standsAt_congr {other : Option Char}
    (h : before.any isWordChar = other.any isWordChar) :
    (rs.find? fun r => standsAt r.old.toList before text)
      = rs.find? fun r => standsAt r.old.toList other text := by
  simp only [standsAt_congr h]

/-- Only whether it belongs to a word counts of the character in front. -/
theorem replaceFrom_congr {other : Option Char}
    (h : before.any isWordChar = other.any isWordChar) :
    replaceFrom rs before 0 text = replaceFrom rs other 0 text := by
  cases text with
  | nil => rfl
  | cons c text => rw [replaceFrom, replaceFrom, find?_standsAt_congr h]

theorem length_le_of_standsAt (h : standsAt value before text) : value.length ≤ text.length := by
  obtain ⟨-, -, found, rest, rfl, hsame, -⟩ := standsAt_iff.mp h
  rw [List.length_append, hsame.length_eq]
  exact Nat.le_add_right _ _

theorem standsAt_nil : standsAt value before [] = false := by
  refine Bool.eq_false_iff.mpr fun h => ?_
  obtain ⟨hne, -, found, rest, hnil, hsame, -⟩ := standsAt_iff.mp h
  obtain ⟨rfl, -⟩ := List.append_eq_nil_iff.mp hnil.symm
  exact hne (List.eq_nil_of_length_eq_zero hsame.length_eq.symm)

section

variable (hword : ∀ c, isWordChar c → p c) (hold : ∀ r ∈ rs, r.old.toList.all p)
  (hne : ∀ r ∈ rs, r.old.toList ≠ [])

include hword hold hne

theorem find?_standsAt_append (before : Option Char) (text : List Char) {rest : List Char}
    (hrest : rest.head?.all (!p ·)) :
    (rs.find? fun r => standsAt r.old.toList before (text ++ rest))
      = rs.find? fun r => standsAt r.old.toList before text :=
  find?_congr fun r hr => standsAt_append hword (hold r hr) (hne r hr) hrest

/-- No value stands at the end of a run. -/
theorem find?_standsAt_off_run (before : Option Char) {rest : List Char}
    (hrest : rest.head?.all (!p ·)) :
    (rs.find? fun r => standsAt r.old.toList before rest) = none := by
  rw [← List.nil_append rest, find?_standsAt_append hword hold hne before [] hrest]
  simp [standsAt_nil]

/-- Behind a run replacing begins anew. -/
theorem replaceFrom_off_run {rest : List Char} (hrest : rest.head?.all (!p ·)) :
    replaceFrom rs before 0 rest = replaceFrom rs none 0 rest := by
  cases rest with
  | nil => rfl
  | cons c rest =>
    rw [replaceFrom, replaceFrom, find?_standsAt_off_run hword hold hne _ hrest,
      find?_standsAt_off_run hword hold hne _ hrest]

/-- **What replacements make of a run does not hang on what follows it.** -/
theorem replaceFrom_append {run rest : List Char} (hrest : rest.head?.all (!p ·)) {skip : Nat}
    (hskip : skip ≤ run.length) : replaceFrom rs before skip (run ++ rest)
      = replaceFrom rs before skip run ++ replaceFrom rs none 0 rest := by
  induction run generalizing before skip with
  | nil =>
    have hskip : skip = 0 := Nat.le_zero.mp hskip
    rw [hskip, List.nil_append, replaceFrom_off_run hword hold hne hrest, replaceFrom,
      List.nil_append]
  | cons c run ih =>
    have hlength : (c :: run).length = run.length + 1 := rfl
    cases skip with
    | succ skip =>
      rw [List.cons_append, replaceFrom, replaceFrom]
      exact ih (by omega)
    | zero =>
      have hfind := find?_standsAt_append hword hold hne before (c :: run) hrest
      rw [List.cons_append] at hfind ⊢
      rw [replaceFrom, replaceFrom, hfind]
      split
      · next r hr =>
        -- The value that is replaced lies within the run.
        have hstands : standsAt r.old.toList before (c :: run) := by
          simpa using List.find?_some hr
        have hle := length_le_of_standsAt hstands
        rw [ih (by omega), List.append_assoc]
      · rw [ih (Nat.zero_le _), List.cons_append]

/-- **Replacements go from run to run.** -/
theorem replaceAtOnce_eq_mapRuns (text : List Char) :
    replaceAtOnce rs text = Text.mapRuns p (replaceAtOnce rs) text := by
  -- The run that the text begins with is generalised.
  have hfrom : ∀ run, replaceAtOnce rs (run.reverse ++ text)
      = Text.mapRunsFrom p (replaceAtOnce rs) run text := by
    induction text with
    | nil => simp [Text.mapRunsFrom]
    | cons c text ih =>
      intro run
      rw [Text.mapRunsFrom]
      split
      · rw [← ih]
        simp
      · next hc =>
        have hrest : (c :: text).head?.all (!p ·) := by simpa using hc
        have hoff : (some c).any isWordChar = (none : Option Char).any isWordChar :=
          Bool.eq_false_iff.mpr fun h => hc (hword c h)
        rw [← ih, replaceAtOnce, replaceFrom_append hword hold hne hrest (Nat.zero_le _)]
        rw [replaceFrom, find?_standsAt_off_run hword hold hne none hrest, replaceFrom_congr hoff]
        rfl
  exact hfrom []

end

/-! ### One value -/

/-- What becomes of a value when the replacements are made together: the first one of it counts. -/
def newValue (rs : List Replacement) (value : List Char) : List Char :=
  match rs.find? fun r => SameValue value r.old.toList with
  | some r => r.new.toList
  | none => value

/-- What becomes of a value when the replacements are made one after another. -/
def finalValue (rs : List Replacement) (value : List Char) : List Char :=
  rs.foldl (fun value r => newValue [r] value) value

/-- A run that holds one of the old values as a whole word is that value. -/
def Solitary (rs : List Replacement) (run : List Char) : Prop :=
  ∀ r ∈ rs, SameValue run r.old.toList
    ∨ ∀ before rest, run = before ++ rest → ¬ standsAt r.old.toList before.getLast? rest

/-- Every run of the text that holds one of the old values is that value. -/
def StandsApart (rs : List Replacement) (text : List Char) : Prop :=
  ∀ run ∈ Text.runs (Replacement.isPart rs) text, Solitary rs run

/-- The old values are words at their ends, and all values are solitary. -/
structure Replacement.Proper (rs : List Replacement) : Prop where
  /-- An old value begins and ends with a character of a word. -/
  ends : ∀ r ∈ rs, r.old.toList.head?.any isWordChar ∧ r.old.toList.getLast?.any isWordChar
  /-- The old values are solitary. -/
  old : ∀ r ∈ rs, Solitary rs r.old.toList
  /-- The new values are solitary. -/
  new : ∀ r ∈ rs, Solitary rs r.new.toList

theorem newValue_singleton (r : Replacement) (value : List Char) : newValue [r] value
    = if SameValue value r.old.toList then r.new.toList else value := by
  unfold newValue
  by_cases h : SameValue value r.old.toList
  · rw [List.find?_cons, decide_eq_true h, if_pos h]
  · rw [List.find?_cons, decide_eq_false h, if_neg h]
    rfl

theorem SameValue.any_head? {a b : List Char} (h : SameValue a b) (p : Char → Bool)
    (hp : ∀ c, p c.toLower = p c) : a.head?.any p = b.head?.any p := by
  have hheads := congrArg List.head? h
  rw [List.head?_map, List.head?_map] at hheads
  have hany := congrArg (Option.any p) hheads
  simpa [Option.any_map, Function.comp_def, hp] using hany

theorem SameValue.any_getLast? {a b : List Char} (h : SameValue a b) (p : Char → Bool)
    (hp : ∀ c, p c.toLower = p c) : a.getLast?.any p = b.getLast?.any p := by
  have hlasts := congrArg List.getLast? h
  rw [List.getLast?_map, List.getLast?_map] at hlasts
  have hany := congrArg (Option.any p) hlasts
  simpa [Option.any_map, Function.comp_def, hp] using hany

/-- A run that is a value holds it as a whole word. -/
theorem standsAt_of_sameValue {run : List Char} (h : SameValue run value)
    (hends : value.head?.any isWordChar ∧ value.getLast?.any isWordChar) :
    standsAt value none run := by
  rw [standsAt_iff]
  refine ⟨?_, ?_, run, [], (List.append_nil _).symm, h, ?_⟩
  · rintro rfl
    exact absurd hends.1 (by decide)
  · rw [atBoundary, h.any_head? _ isWordChar_toLower, hends.1]
    rfl
  · rw [atBoundary, h.any_getLast? _ isWordChar_toLower, hends.2]
    rfl

/-- The characters of a value that has been replaced are passed over. -/
theorem replaceFrom_skip (text : List Char) : replaceFrom rs before text.length text = [] := by
  induction text generalizing before with
  | nil => rfl
  | cons c text ih => exact ih

/-- A text in which no value stands is kept. -/
theorem replaceFrom_of_none (start : List Char) {text : List Char} (h : ∀ before rest,
      start ++ text = before ++ rest → ∀ r ∈ rs, ¬ standsAt r.old.toList before.getLast? rest) :
    replaceFrom rs start.getLast? 0 text = text := by
  induction text generalizing start with
  | nil => rfl
  | cons c text ih =>
    have hfind : (rs.find? fun r => standsAt r.old.toList start.getLast? (c :: text)) = none :=
      List.find?_eq_none.mpr (h start (c :: text) rfl)
    have hrest := ih (start ++ [c]) (by simpa using h)
    rw [List.getLast?_concat] at hrest
    rw [replaceFrom, hfind, hrest]

/-- **Replacements made together turn a solitary run into its new value.** -/
theorem replaceAtOnce_of_solitary {run : List Char}
    (hends : ∀ r ∈ rs, r.old.toList.head?.any isWordChar ∧ r.old.toList.getLast?.any isWordChar)
    (solitary : Solitary rs run) : replaceAtOnce rs run = newValue rs run := by
  have hfind : (rs.find? fun r => standsAt r.old.toList none run)
      = rs.find? fun r => SameValue run r.old.toList := by
    refine find?_congr fun r hr => ?_
    rw [Bool.eq_iff_iff, decide_eq_true_eq]
    refine ⟨fun hstands => ?_, fun hsame => standsAt_of_sameValue hsame (hends r hr)⟩
    exact (solitary r hr).resolve_right fun hnone => hnone [] run rfl hstands
  unfold newValue
  split
  · next r hr =>
    have hsame : SameValue run r.old.toList := by simpa using List.find?_some hr
    cases run with
    | nil =>
      have hstands := List.find?_some (hfind.trans hr)
      exact absurd hstands (by simp [standsAt_nil])
    | cons c run =>
      rw [replaceAtOnce, replaceFrom, hfind, hr]
      have hlength : r.old.toList.length - 1 = run.length := by
        rw [← hsame.length_eq]
        rfl
      dsimp only
      rw [hlength, replaceFrom_skip, List.append_nil]
  · next hnone =>
    refine replaceFrom_of_none [] fun before rest hcut r hr => ?_
    have hother : ¬ SameValue run r.old.toList := by
      simpa using List.find?_eq_none.mp hnone r hr
    exact (solitary r hr).resolve_left hother before rest hcut

/-! ### One replacement after another -/

theorem replaceFrom_all (hnew : ∀ r ∈ rs, r.new.toList.all p) {skip : Nat}
    (htext : text.all p) : (replaceFrom rs before skip text).all p := by
  induction text generalizing before skip with
  | nil => rfl
  | cons c text ih =>
    obtain ⟨hc, htext⟩ := by simpa only [List.all_cons, Bool.and_eq_true] using htext
    cases skip with
    | succ skip => exact ih htext
    | zero =>
      rw [replaceFrom]
      split
      · next r hr =>
        rw [List.all_append, hnew r (List.mem_of_find?_eq_some hr), ih htext]
        rfl
      · rw [List.all_cons, hc, ih htext]
        rfl

theorem Replacement.isPart_of_isWordChar {c : Char} (h : isWordChar c) : isPart rs c := by
  rw [isPart, h, Bool.true_or]

theorem Replacement.all_isPart {r : Replacement} (h : r ∈ rs) :
    r.old.toList.all (isPart rs) ∧ r.new.toList.all (isPart rs) := by
  simp only [List.all_eq_true, isPart, Bool.or_eq_true, List.any_eq_true, List.contains_eq_mem,
    decide_eq_true_eq]
  exact ⟨fun c hc => .inr ⟨r, h, .inl hc⟩, fun c hc => .inr ⟨r, h, .inr hc⟩⟩

theorem Replacement.Proper.ne_nil (proper : Replacement.Proper rs) {r : Replacement}
    (hr : r ∈ rs) : r.old.toList ≠ [] := by
  intro hnil
  have hends := (proper.ends r hr).1
  rw [hnil] at hends
  exact absurd hends (by decide)

section

variable {made : List Replacement} (proper : Replacement.Proper rs) (hmade : made ⊆ rs)

include proper hmade

/-- **Replacements that are made one after another go from run to run.** -/
theorem replaceInTurn_eq_mapRuns (text : List Char) :
    replaceInTurn made text = Text.mapRuns (Replacement.isPart rs) (replaceInTurn made) text := by
  induction made generalizing text with
  | nil => exact (Text.mapRuns_id text).symm
  | cons r made ih =>
    obtain ⟨hr, hmade⟩ := List.cons_subset.mp hmade
    have hfirst : replaceAtOnce [r] text
        = Text.mapRuns (Replacement.isPart rs) (replaceAtOnce [r]) text :=
      replaceAtOnce_eq_mapRuns (fun _ => Replacement.isPart_of_isWordChar)
        (by simpa using (Replacement.all_isPart hr).1) (by simpa using proper.ne_nil hr) text
    -- A run is still one after the first replacement.
    have hstays : ∀ run, run.all (Replacement.isPart rs) →
        (replaceAtOnce [r] run).all (Replacement.isPart rs) := fun run hrun =>
      replaceFrom_all (by simpa using (Replacement.all_isPart hr).2) hrun
    calc replaceInTurn (r :: made) text
        = replaceInTurn made (replaceAtOnce [r] text) := rfl
      _ = Text.mapRuns (Replacement.isPart rs) (replaceInTurn made)
            (Text.mapRuns (Replacement.isPart rs) (replaceAtOnce [r]) text) := by
          rw [ih hmade, ← hfirst]
      _ = Text.mapRuns (Replacement.isPart rs) (replaceInTurn (r :: made)) text :=
          Text.mapRuns_mapRuns hstays

theorem replaceInTurn_of_solitary {run : List Char} (solitary : Solitary rs run) :
    replaceInTurn made run = finalValue made run := by
  induction made generalizing run with
  | nil => rfl
  | cons r made ih =>
    obtain ⟨hr, hmade⟩ := List.cons_subset.mp hmade
    have honly : Solitary [r] run := by
      intro r' hr'
      rw [List.mem_singleton.mp hr']
      exact solitary r hr
    have hfirst : replaceAtOnce [r] run = newValue [r] run :=
      replaceAtOnce_of_solitary (by simpa using proper.ends r hr) honly
    have hnext : Solitary rs (newValue [r] run) := by
      rw [newValue_singleton]
      split
      · exact proper.new r hr
      · exact solitary
    calc replaceInTurn (r :: made) run
        = replaceInTurn made (newValue [r] run) := by rw [← hfirst]; rfl
      _ = finalValue made (newValue [r] run) := ih hmade hnext

end

section

variable (proper : Replacement.Proper rs) {text : List Char} (apart : StandsApart rs text)

include proper apart

/-- **What replacements that are made together make of a text whose values stand apart.** -/
theorem replaceAtOnce_of_standsApart :
    replaceAtOnce rs text = Text.mapRuns (Replacement.isPart rs) (newValue rs) text := by
  rw [replaceAtOnce_eq_mapRuns (fun _ => Replacement.isPart_of_isWordChar)
    (fun r hr => (Replacement.all_isPart hr).1) fun r hr => proper.ne_nil hr]
  exact Text.mapRuns_congr fun run hrun => replaceAtOnce_of_solitary proper.ends (apart run hrun)

/-- **What replacements that are made one after another make of a text whose values stand
apart.** -/
theorem replaceInTurn_of_standsApart :
    replaceInTurn rs text = Text.mapRuns (Replacement.isPart rs) (finalValue rs) text := by
  rw [replaceInTurn_eq_mapRuns proper (List.Subset.refl rs)]
  exact Text.mapRuns_congr fun run hrun =>
    replaceInTurn_of_solitary proper (List.Subset.refl rs) (apart run hrun)

end

end

/-! ### Chains -/

section

variable {rs : List Replacement} {value other : List Char}

theorem newValue_cons_of_not {r : Replacement} (h : ¬ SameValue value r.old.toList) :
    newValue (r :: rs) value = newValue rs value := by
  rw [newValue, newValue, List.find?_cons, decide_eq_false h]

theorem newValue_cons_of_sameValue {r : Replacement} (h : SameValue value r.old.toList) :
    newValue (r :: rs) value = r.new.toList := by
  rw [newValue, List.find?_cons, decide_eq_true h]

theorem finalValue_cons (r : Replacement) (value : List Char) : finalValue (r :: rs) value
    = finalValue rs (if SameValue value r.old.toList then r.new.toList else value) := by
  rw [← newValue_singleton]
  rfl

theorem newValue_congr (h : SameValue value other)
    (hsome : ∃ r ∈ rs, SameValue value r.old.toList) : newValue rs value = newValue rs other := by
  obtain ⟨r, hr, hsame⟩ := hsome
  unfold newValue
  have hfind : (rs.find? fun r => SameValue value r.old.toList)
      = rs.find? fun r => SameValue other r.old.toList := by
    simp only [SameValue, h]
  rw [← hfind]
  split
  · rfl
  · next hnone => exact absurd hsame (by simpa using List.find?_eq_none.mp hnone r hr)

theorem newValue_of_none (h : ∀ r ∈ rs, ¬ SameValue value r.old.toList) :
    newValue rs value = value := by
  unfold newValue
  rw [List.find?_eq_none.mpr (by simpa using h)]

theorem finalValue_of_none (h : ∀ r ∈ rs, ¬ SameValue value r.old.toList) :
    finalValue rs value = value := by
  induction rs with
  | nil => rfl
  | cons r rs ih =>
    obtain ⟨hr, hrs⟩ := List.forall_mem_cons.mp h
    rw [finalValue_cons, if_neg hr, ih hrs]

theorem finalValue_congr (h : SameValue value other)
    (hsome : ∃ r ∈ rs, SameValue value r.old.toList) :
    finalValue rs value = finalValue rs other := by
  induction rs with
  | nil => simp at hsome
  | cons r rs ih =>
    rw [finalValue_cons, finalValue_cons]
    by_cases hr : SameValue value r.old.toList
    · rw [if_pos hr, if_pos (h.symm.trans hr)]
    · have hrest : ∃ r ∈ rs, SameValue value r.old.toList := by simpa [hr] using hsome
      rw [if_neg hr, if_neg fun hother => hr (h.trans hother), ih hrest]

/-- **Making the replacements one after another is making them together, on every text whose values
stand apart, exactly if that is so for each of the old values.** -/
theorem replaceInTurn_eq_replaceAtOnce_iff (proper : Replacement.Proper rs) :
    (∀ text, StandsApart rs text → replaceInTurn rs text = replaceAtOnce rs text) ↔
      ∀ r ∈ rs, finalValue rs r.old.toList = newValue rs r.old.toList := by
  constructor
  · intro h r hr
    have hrun := (Replacement.all_isPart hr).1
    have apart : StandsApart rs r.old.toList := by
      rw [StandsApart, Text.runs_of_all hrun]
      simpa using proper.old r hr
    have heq := h _ apart
    rwa [replaceInTurn_of_standsApart proper apart, replaceAtOnce_of_standsApart proper apart,
      Text.mapRuns_of_all hrun, Text.mapRuns_of_all hrun] at heq
  · intro h text apart
    rw [replaceInTurn_of_standsApart proper apart, replaceAtOnce_of_standsApart proper apart]
    refine Text.mapRuns_congr fun run _ => ?_
    by_cases hsome : ∃ r ∈ rs, SameValue run r.old.toList
    · obtain ⟨r, hr, hsame⟩ := hsome
      rw [finalValue_congr hsame ⟨r, hr, hsame⟩, newValue_congr hsame ⟨r, hr, hsame⟩, h r hr]
    · have hnone : ∀ r ∈ rs, ¬ SameValue run r.old.toList := by simpa using hsome
      rw [finalValue_of_none hnone, newValue_of_none hnone]

section

variable (distinct : rs.Pairwise fun r later => ¬ SameValue r.old.toList later.old.toList)

include distinct

/-- Where every value is replaced at most once in the list, it is replaced as the list says. -/
theorem newValue_of_mem {r : Replacement} (h : r ∈ rs) :
    newValue rs r.old.toList = r.new.toList := by
  induction rs with
  | nil => simp at h
  | cons first rs ih =>
    obtain ⟨hfirst, distinct⟩ := List.pairwise_cons.mp distinct
    rcases List.mem_cons.mp h with rfl | hr
    · exact newValue_cons_of_sameValue rfl
    · rw [newValue_cons_of_not fun hsame => hfirst r hr hsame.symm, ih distinct hr]

/-- **Values end as if all replacements were made together exactly if no replacement puts in a value
that a later one replaces.** -/
theorem forall_finalValue_eq_iff (changes : ∀ r ∈ rs, ¬ SameValue r.old.toList r.new.toList) :
    (∀ r ∈ rs, finalValue rs r.old.toList = newValue rs r.old.toList) ↔
      rs.Pairwise fun r later => ¬ SameValue r.new.toList later.old.toList := by
  induction rs with
  | nil => simp
  | cons r rs ih =>
    obtain ⟨hr, distinct⟩ := List.pairwise_cons.mp distinct
    obtain ⟨hchange, changes⟩ := List.forall_mem_cons.mp changes
    have hlater : ∀ later ∈ rs, ¬ SameValue later.old.toList r.old.toList :=
      fun later hmem hsame => hr later hmem hsame.symm
    have htail : (∀ later ∈ rs, finalValue (r :: rs) later.old.toList
          = newValue (r :: rs) later.old.toList) ↔
        ∀ later ∈ rs, finalValue rs later.old.toList = newValue rs later.old.toList := by
      refine forall₂_congr fun later hmem => ?_
      rw [finalValue_cons, if_neg (hlater later hmem), newValue_cons_of_not (hlater later hmem)]
    have hhead : finalValue (r :: rs) r.old.toList = finalValue rs r.new.toList := by
      rw [finalValue_cons, if_pos rfl]
    rw [List.forall_mem_cons, htail, ih distinct changes, List.pairwise_cons, hhead,
      newValue_cons_of_sameValue rfl]
    refine and_congr_left fun hrs => ⟨fun heq later hmem hsame => ?_, finalValue_of_none⟩
    -- The value that is put in would have to be what the later replacement puts in.
    have hnew : r.new.toList = later.new.toList := by
      rw [← heq, finalValue_congr hsame ⟨later, hmem, hsame⟩,
        (ih distinct changes).mpr hrs later hmem, newValue_of_mem distinct hmem]
    exact changes later hmem (hnew ▸ hsame.symm)

end

end

end ServerMigration
