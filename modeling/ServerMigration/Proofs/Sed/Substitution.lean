import Mathlib.Data.List.Basic
import ServerMigration.Text.Search

/-!
# How sed reads and makes a substitution

The program `s/pattern/replacement/gI` replaces what a basic regular expression matches, at every
place of a line and whatever the case of letters.  A slash ends a part of the program unless a
backslash stands in front of it.  In the pattern some characters are operators, and a backslash
makes them literal; in the replacement it is the ampersand that has a meaning, that of the matched
text, and the backslash.  A backslash also gives a meaning to letters and digits, of which only
`\b` in a pattern and `\0` in a replacement are followed here.

## Main definitions

* `Sed.read?` : a program as a substitution.
* `Sed.matchAtoms` : what a pattern matches at a place of a line.
* `Sed.expand` : what is put in the place of a matched text.
* `Sed.Substitution.apply` : the line after a substitution.

## Main results

* `Sed.matchAtoms_wholeWord_iff` : what the pattern of a literal word matches.
* `Sed.forall_expand_eq_iff` : the replacements that always put in the same text.
-/

namespace ServerMigration.Sed

/-! ### Programs -/

/-- What a pattern asks for at a place of a line. -/
inductive Atom
  /-- The beginning or the end of a word. -/
  | boundary
  /-- A character. -/
  | char (c : Char)
  deriving DecidableEq, Repr

/-- What a replacement puts in. -/
inductive Part
  /-- A character. -/
  | char (c : Char)
  /-- The matched text. -/
  | matched
  deriving DecidableEq, Repr

/-- A program that replaces every match of a pattern. -/
structure Substitution where
  /-- The pattern. -/
  pattern : List Atom
  /-- The replacement. -/
  parts : List Part
  deriving DecidableEq, Repr

/-- The part of a program in front of the next slash, and the text behind that.  A slash behind a
backslash does not count, and the backslash is dropped. -/
def cutAtSlash : (escaped : Bool) → List Char → Option (List Char × List Char)
  | _, [] => none
  | true, c :: text =>
    (cutAtSlash false text).map fun (field, rest) =>
      ((if c = '/' then [c] else ['\\', c]) ++ field, rest)
  | false, c :: text =>
    if c = '/' then some ([], text)
    else if c = '\\' then cutAtSlash true text
    else if c = '\n' then none
    else (cutAtSlash false text).map fun (field, rest) => (c :: field, rest)

variable {α : Type}

/-- Reads a part of a program character by character, by what a character stands for by itself and
behind a backslash. -/
def readField (plain escaped : Char → Option α) : (escaped : Bool) → List Char → Option (List α)
  | false, [] => some []
  | true, [] => none
  | true, c :: text =>
    (escaped c).bind fun x => (readField plain escaped false text).map (x :: ·)
  | false, c :: text =>
    if c = '\\' then readField plain escaped true text
    else (plain c).bind fun x => (readField plain escaped false text).map (x :: ·)

/-- Characters that are operators of a pattern, at least at some places. -/
def operators : List Char := ['.', '[', '*', '^', '$']

/-- What a character of a pattern stands for. -/
def plainAtom? (c : Char) : Option Atom :=
  if c ∈ operators then none else some (.char c)

/-- What a character of a pattern stands for behind a backslash. -/
def escapedAtom? (c : Char) : Option Atom :=
  if c = 'b' then some .boundary
  else if c ∈ '\\' :: ']' :: operators then some (.char c)
  else none

/-- What a character of a replacement stands for. -/
def plainPart (c : Char) : Part :=
  if c = '&' then .matched else .char c

/-- What a character of a replacement stands for behind a backslash. -/
def escapedPart? (c : Char) : Option Part :=
  if c = '0' then some .matched
  else if c.isAlphanum then none
  else some (.char c)

/-- Reads a pattern. -/
def readPattern : List Char → Option (List Atom) :=
  readField plainAtom? escapedAtom? false

/-- Reads a replacement. -/
def readReplacement : List Char → Option (List Part) :=
  readField (some ∘ plainPart) escapedPart? false

/-- The pattern of a substitution. -/
def pattern? (program : List Char) : Option (List Atom) := do
  let (pattern, _) ← cutAtSlash false (← Text.afterPrefix "s/".toList program)
  readPattern pattern

/-- A program as a substitution at every place of a line, whatever the case of letters. -/
def read? (program : List Char) : Option Substitution := do
  let (pattern, rest) ← cutAtSlash false (← Text.afterPrefix "s/".toList program)
  let (replacement, flags) ← cutAtSlash false rest
  if flags = "gI".toList then
    return ⟨← readPattern pattern, ← readReplacement replacement⟩
  else none

/-! ### Substitutions -/

/-- What letters and words are. -/
structure Locale where
  /-- A representative of the characters that differ in case only. -/
  fold : Char → Char
  /-- Whether a character belongs to a word. -/
  isWord : Char → Bool

/-- Whether one of two neighbouring characters belongs to a word and the other does not. -/
def Locale.atBoundary (locale : Locale) (before after : Option Char) : Bool :=
  before.any locale.isWord != after.any locale.isWord

/-- What a pattern matches at the beginning of a text behind the character `before`, and the text
behind the match. -/
def matchAtoms (locale : Locale) :
    List Atom → (before : Option Char) → List Char → Option (List Char × List Char)
  | [], _, text => some ([], text)
  | .boundary :: atoms, before, text =>
    if locale.atBoundary before text.head? then matchAtoms locale atoms before text else none
  | .char _ :: _, _, [] => none
  | .char a :: atoms, _, c :: text =>
    if locale.fold c = locale.fold a then
      (matchAtoms locale atoms (some c) text).map fun (found, rest) => (c :: found, rest)
    else none

/-- What a replacement puts in the place of a match. -/
def expand (parts : List Part) (found : List Char) : List Char :=
  parts.flatMap fun
    | .char c => [c]
    | .matched => found

/-- A substitution behind the character `before`; the next `skip` characters belong to a match that
has been replaced. -/
def Substitution.applyFrom (s : Substitution) (locale : Locale) :
    (before : Option Char) → (skip : Nat) → List Char → List Char
  | _, _, [] => []
  | _, skip + 1, c :: text => s.applyFrom locale (some c) skip text
  | before, 0, c :: text =>
    match matchAtoms locale s.pattern before (c :: text) with
    | some (found, _) =>
      expand s.parts found ++ s.applyFrom locale (some c) (found.length - 1) text
    | none => c :: s.applyFrom locale (some c) 0 text

/-- What a substitution makes of a line, if its pattern does not match the empty text. -/
def Substitution.apply (s : Substitution) (locale : Locale) (line : List Char) : List Char :=
  s.applyFrom locale none 0 line

/-- The pattern of a literal text that stands as a whole word. -/
def wholeWord (text : List Char) : List Atom :=
  .boundary :: (text.map Atom.char ++ [.boundary])

/-! ### Reading -/

/-- In front of more of a part, some text of a program is this text of the part. -/
def Spells (text field : List Char) : Prop :=
  ∀ rest, cutAtSlash false (text ++ rest)
    = (cutAtSlash false rest).map fun (more, behind) => (field ++ more, behind)

/-- In front of more of a part, some text of the part is read like this. -/
def Reads (plain escaped : Char → Option α) (field : List Char) (xs : List α) : Prop :=
  ∀ rest, readField plain escaped false (field ++ rest)
    = (readField plain escaped false rest).map (xs ++ ·)

section

variable {c : Char} {text field : List Char}

theorem spells_nil : Spells [] [] := fun rest => by
  cases h : cutAtSlash false rest <;> simp [h]

theorem spells_plain (hslash : c ≠ '/') (hbackslash : c ≠ '\\') (hnewline : c ≠ '\n') :
    Spells [c] [c] := fun rest => by
  rw [List.singleton_append, cutAtSlash, if_neg hslash, if_neg hbackslash, if_neg hnewline]
  rfl

/-- A slash behind a backslash belongs to the part. -/
theorem spells_slash : Spells ['\\', '/'] ['/'] := fun _ => rfl

/-- A backslash in front of another character is kept. -/
theorem spells_escaped (hslash : c ≠ '/') : Spells ['\\', c] ['\\', c] := fun rest => by
  have hpending : cutAtSlash false (['\\', c] ++ rest) = cutAtSlash true (c :: rest) := rfl
  rw [hpending, cutAtSlash, if_neg hslash]

theorem Spells.append {more behind : List Char} (first : Spells text field)
    (second : Spells more behind) : Spells (text ++ more) (field ++ behind) := fun rest => by
  rw [List.append_assoc, first, second, Option.map_map]
  simp only [Function.comp_def, List.append_assoc]

/-- A part ends at a slash. -/
theorem Spells.cutAtSlash_eq (spells : Spells text field) (rest : List Char) :
    cutAtSlash false (text ++ '/' :: rest) = some (field, rest) := by
  have hend : cutAtSlash false ('/' :: rest) = some ([], rest) := rfl
  rw [spells, hend, Option.map_some]
  dsimp only
  rw [List.append_nil]

theorem Spells.exists_more {behind rest whole : List Char} (spells : Spells text field)
    (h : cutAtSlash false (text ++ rest) = some (whole, behind)) :
    ∃ more, cutAtSlash false rest = some (more, behind) ∧ whole = field ++ more := by
  rw [spells] at h
  obtain ⟨⟨more, behind⟩, hmore, hsame⟩ := Option.map_eq_some_iff.mp h
  cases hsame
  exact ⟨more, hmore, rfl⟩

theorem spells_flatMap {f g : Char → List Char} (h : ∀ c ∈ text, Spells (f c) (g c)) :
    Spells (text.flatMap f) (text.flatMap g) := by
  induction text with
  | nil => exact spells_nil
  | cons c text ih =>
    obtain ⟨hc, htext⟩ := List.forall_mem_cons.mp h
    exact hc.append (ih htext)

variable {plain escaped : Char → Option α} {xs ys : List α} {x : α}

theorem reads_nil : Reads plain escaped [] [] := fun rest => by
  cases h : readField plain escaped false rest <;> simp [h]

theorem reads_plain (hbackslash : c ≠ '\\') (h : plain c = some x) :
    Reads plain escaped [c] [x] := fun rest => by
  rw [List.singleton_append, readField, if_neg hbackslash, h]
  rfl

theorem reads_escaped (h : escaped c = some x) : Reads plain escaped ['\\', c] [x] := fun rest => by
  have hpending : readField plain escaped false (['\\', c] ++ rest)
      = readField plain escaped true (c :: rest) := rfl
  rw [hpending, readField, h]
  rfl

theorem Reads.append {more : List Char} (first : Reads plain escaped field xs)
    (second : Reads plain escaped more ys) : Reads plain escaped (field ++ more) (xs ++ ys) :=
  fun rest => by
    rw [List.append_assoc, first, second, Option.map_map]
    simp only [Function.comp_def, List.append_assoc]

theorem reads_flatMap {f : Char → List Char} {g : Char → α}
    (h : ∀ c ∈ text, Reads plain escaped (f c) [g c]) :
    Reads plain escaped (text.flatMap f) (text.map g) := by
  induction text with
  | nil => exact reads_nil
  | cons c text ih =>
    obtain ⟨hc, htext⟩ := List.forall_mem_cons.mp h
    exact hc.append (ih htext)

/-- A part that ends is read. -/
theorem Reads.readField_eq (h : Reads plain escaped field xs) :
    readField plain escaped false field = some xs := by
  have hend := h []
  rw [List.append_nil] at hend
  rw [hend, readField, Option.map_some, List.append_nil]

end

/-! ### Matching -/

section

variable {locale : Locale} {before : Option Char} {text found rest : List Char}

/-- A literal text in front of a boundary. -/
theorem matchAtoms_chars_iff {word : List Char} :
    matchAtoms locale (word.map .char ++ [.boundary]) before text = some (found, rest) ↔
      text = found ++ rest ∧ found.map locale.fold = word.map locale.fold
        ∧ locale.atBoundary (found.getLast?.or before) rest.head? := by
  -- The character in front of the last boundary is that of the step before.
  induction word generalizing before text found with
  | nil =>
    have hboundary : matchAtoms locale [.boundary] before text
        = if locale.atBoundary before text.head? then some ([], text) else none := rfl
    rw [List.map_nil, List.nil_append, hboundary, List.map_nil, List.map_eq_nil_iff]
    constructor
    · intro h
      split at h
      · next hat =>
        cases h
        exact ⟨rfl, rfl, hat⟩
      · cases h
    · rintro ⟨rfl, rfl, hat⟩
      exact if_pos hat
  | cons a word ih =>
    have hlast : ∀ c (found : List Char),
        (c :: found).getLast?.or before = found.getLast?.or (some c) := fun c found => by
      rw [List.getLast?_cons]
      cases found.getLast? <;> rfl
    cases text with
    | nil =>
      refine iff_of_false (fun h => by cases h) fun ⟨hnil, hsame, _⟩ => ?_
      rw [(List.append_eq_nil_iff.mp hnil.symm).1] at hsame
      cases hsame
    | cons c text =>
      rw [List.map_cons, List.cons_append, matchAtoms]
      constructor
      · intro h
        split at h
        · next hc =>
          obtain ⟨⟨found, rest⟩, hmatch, hsame⟩ := Option.map_eq_some_iff.mp h
          cases hsame
          obtain ⟨rfl, hfound, hat⟩ := ih.mp hmatch
          exact ⟨rfl, by rw [List.map_cons, List.map_cons, hc, hfound], by rwa [hlast]⟩
        · cases h
      · rintro ⟨htext, hsame, hat⟩
        cases found with
        | nil => cases hsame
        | cons d found =>
          obtain ⟨rfl, hrest⟩ := List.cons.inj htext
          obtain ⟨hc, hfound⟩ := List.cons.inj hsame
          rw [hlast] at hat
          have htail : matchAtoms locale (word.map .char ++ [.boundary]) (some c) text
              = some (found, rest) := ih.mpr ⟨hrest, hfound, hat⟩
          rw [if_pos hc, htail]
          rfl

/-- **The pattern of a literal word matches that word**, whatever the case of its letters, where it
stands between two boundaries. -/
theorem matchAtoms_wholeWord_iff {word : List Char} :
    matchAtoms locale (wholeWord word) before text = some (found, rest) ↔
      text = found ++ rest ∧ found.map locale.fold = word.map locale.fold
        ∧ locale.atBoundary before text.head?
        ∧ locale.atBoundary (found.getLast?.or before) rest.head? := by
  rw [wholeWord, matchAtoms]
  split
  · next h => rw [matchAtoms_chars_iff, eq_true h, true_and]
  · next h => simp [h]

end

/-! ### Replacing -/

/-- A replacement always puts in the same text if it is that text, character by character. -/
theorem forall_expand_eq_iff {parts : List Part} {text : List Char} :
    (∀ found, expand parts found = text) ↔ parts = text.map .char := by
  constructor
  · intro h
    induction parts generalizing text with
    | nil => rw [← h []]; rfl
    | cons part parts ih =>
      cases part with
      | char c =>
        have htext : text = c :: expand parts [] := (h []).symm
        rw [htext, List.map_cons, ← ih fun found => ?_]
        have hfound : c :: expand parts found = text := h found
        exact (List.cons.inj (hfound.trans htext)).2
      | matched =>
        -- A match that is longer than the text does not fit in.
        have hlong : List.replicate (text.length + 1) ' '
            ++ expand parts (List.replicate (text.length + 1) ' ') = text := h _
        have hlength := congrArg List.length hlong
        rw [List.length_append, List.length_replicate] at hlength
        omega
  · rintro rfl found
    rw [expand, List.flatMap_map]
    exact List.flatMap_singleton' text

end ServerMigration.Sed
