import ServerMigration.Proofs.Migration.Substitution
import ServerMigration.Proofs.Sed.Substitution
import ServerMigration.Proofs.Shell.Lists

/-!
# The program that replaces an address

The command that makes a replacement gives a path and the old value to `grep` and a program to
`sed`.  The shell reads each of them as one word.  In the pattern of the program every character
with a meaning is made literal, and so it matches the old value and nothing else.  In the
replacement only slashes are: the new value is put in as it is exactly if it has neither an
ampersand nor a backslash.

## Main definitions

* `Sed.Locale.posix` : letters and words of ASCII.

## Main results

* `list?_replacementCommand` : the words of the command.
* `pattern?_substitution` : the pattern of the program.
* `read?_substitution_iff` : when the replacement is the new value.
* `replacementCommand_literal_iff` : all of it.
-/

namespace ServerMigration

open Sed Shell
open Text (joinWith shellWord)

variable {old new rest : List Char}

/-! ### The pattern -/

/-- The pattern of a literal text, between slashes. -/
def patternField (old : List Char) : List Char :=
  old.flatMap fun c => if c ∈ '\\' :: ']' :: Sed.operators then ['\\', c] else [c]

/-- Slashes are escaped for the program, and all else for the pattern. -/
theorem spells_escapePattern (h : '\n' ∉ old) : Spells (escapePattern old) (patternField old) := by
  refine spells_flatMap fun c hc => ?_
  by_cases hslash : c = '/'
  · subst hslash
    exact spells_slash
  · have hescaped : c ∈ ['.', '[', ']', '*', '^', '$', '\\', '/']
        ↔ c ∈ '\\' :: ']' :: Sed.operators := by
      simp only [Sed.operators, List.mem_cons, List.not_mem_nil, or_false, hslash]
      tauto
    simp only [hescaped]
    split
    · exact spells_escaped hslash
    · next hspecial =>
      refine spells_plain hslash (fun hsame => hspecial (hsame ▸ List.mem_cons_self)) ?_
      rintro rfl
      exact h hc

/-- **In the pattern of a literal text every character stands for itself.** -/
theorem reads_patternField (old : List Char) :
    Reads plainAtom? escapedAtom? (patternField old) (old.map Atom.char) := by
  refine reads_flatMap fun c _ => ?_
  split
  · next hspecial =>
    have hb : c ≠ 'b' := by
      rintro rfl
      exact absurd hspecial (by decide)
    refine reads_escaped ?_
    rw [escapedAtom?, if_neg hb, if_pos hspecial]
  · next hspecial =>
    refine reads_plain (fun hsame => hspecial (hsame ▸ List.mem_cons_self)) (if_neg fun hmem => ?_)
    exact hspecial (List.mem_cons_of_mem _ (List.mem_cons_of_mem _ hmem))

/-- The pattern of the program, between boundaries of words. -/
def wordField (old : List Char) : List Char :=
  "\\b".toList ++ (patternField old ++ "\\b".toList)

theorem spells_wordField (h : '\n' ∉ old) :
    Spells ("\\b".toList ++ (escapePattern old ++ "\\b".toList)) (wordField old) :=
  (spells_escaped (by decide)).append ((spells_escapePattern h).append (spells_escaped (by decide)))

theorem readPattern_wordField (old : List Char) :
    readPattern (wordField old) = some (wholeWord old) := by
  have hboundary : Reads plainAtom? escapedAtom? "\\b".toList [.boundary] := reads_escaped rfl
  exact (hboundary.append ((reads_patternField old).append hboundary)).readField_eq

/-! ### The replacement -/

/-- What replaces slashes. -/
def slashed (new : List Char) : List Char :=
  new.flatMap fun c => if c = '/' then ['\\', '/'] else [c]

theorem replaceAll_slash (new : List Char) :
    Text.replaceAll ['/'] ['\\', '/'] new = slashed new := by
  have hfrom : Text.replaceFrom ['/'] ['\\', '/'] 0 new = slashed new := by
    induction new with
    | nil => rfl
    | cons c new ih =>
      rw [Text.replaceFrom, slashed, List.flatMap_cons, ← slashed, ← ih]
      by_cases hslash : c = '/'
      · subst hslash
        rfl
      · have hprefix : ¬ (['/'].isPrefixOf (c :: new) = true) := by
          simp [List.isPrefixOf, Ne.symm hslash]
        rw [if_neg hprefix, if_neg hslash]
        rfl
  exact hfrom

/-- **A replacement without backslashes is put in with its slashes.** -/
theorem spells_slashed (hline : '\n' ∉ new) (hbackslash : '\\' ∉ new) :
    Spells (slashed new) new := by
  have hpieces : Spells (slashed new) (new.flatMap fun c => [c]) := by
    refine spells_flatMap fun c hc => ?_
    split
    · next hslash =>
      subst hslash
      exact spells_slash
    · next hslash =>
      exact spells_plain hslash (fun hsame => hbackslash (hsame ▸ hc)) fun hsame =>
        hline (hsame ▸ hc)
  rwa [List.flatMap_singleton'] at hpieces

theorem readReplacement_of_notMem (h : '\\' ∉ new) :
    readReplacement new = some (new.map plainPart) := by
  have hpieces : Reads (some ∘ plainPart) escapedPart? (new.flatMap fun c => [c])
      (new.map plainPart) :=
    reads_flatMap fun c hc => reads_plain (fun hsame => h (hsame ▸ hc)) rfl
  rw [List.flatMap_singleton'] at hpieces
  exact hpieces.readField_eq

theorem exists_parts_plain {c : Char} {field : List Char} {parts : List Part} (h : c ≠ '\\')
    (hread : readReplacement ([c] ++ field) = some parts) :
    ∃ more, readReplacement field = some more ∧ parts = plainPart c :: more := by
  have reads : Reads (some ∘ plainPart) escapedPart? [c] [plainPart c] := reads_plain h rfl
  rw [readReplacement, reads] at hread
  obtain ⟨more, hmore, hparts⟩ := Option.map_eq_some_iff.mp hread
  exact ⟨more, hmore, hparts.symm⟩

theorem exists_parts_escaped {c : Char} {field : List Char} {parts : List Part}
    (hread : readReplacement (['\\', c] ++ field) = some parts) :
    ∃ part more, readReplacement field = some more ∧ parts = part :: more := by
  have hescaped : readReplacement (['\\', c] ++ field)
      = (escapedPart? c).bind fun part => (readReplacement field).map (part :: ·) := rfl
  rw [hescaped] at hread
  obtain ⟨part, -, hread⟩ := Option.bind_eq_some_iff.mp hread
  obtain ⟨more, hmore, hparts⟩ := Option.map_eq_some_iff.mp hread
  exact ⟨part, more, hmore, hparts.symm⟩

/-- A backslash makes a part shorter than the text in which it stands, and so does one in front of
the text. -/
theorem length_le_of_slashed {parts : List Part} {field : List Char} {pending : Bool}
    (hcut : cutAtSlash pending (slashed new ++ "/gI".toList) = some (field, "gI".toList))
    (hread : readReplacement field = some parts) :
    parts.length ≤ new.length ∧ (pending = false → '\\' ∈ new → parts.length < new.length) := by
  induction new generalizing pending field parts with
  | nil =>
    cases pending with
    | true => cases hcut
    | false =>
      cases hcut
      cases hread
      exact ⟨Nat.le_refl _, fun _ hmem => absurd hmem List.not_mem_nil⟩
  | cons c new ih =>
    have hcons : slashed (c :: new) ++ "/gI".toList
        = (if c = '/' then ['\\', '/'] else [c]) ++ (slashed new ++ "/gI".toList) := by
      rw [slashed, List.flatMap_cons, ← slashed, List.append_assoc]
    rw [hcons] at hcut
    cases pending with
    | true =>
      by_cases hslash : c = '/'
      · -- The slash would end the part before its time.
        rw [if_pos hslash] at hcut
        have hend : some (['\\', '\\'], slashed new ++ "/gI".toList) = some (field, "gI".toList) :=
          hcut
        have hflags := congrArg List.length (Prod.mk.inj (Option.some.inj hend)).2
        rw [List.length_append] at hflags
        simp at hflags
      · rw [if_neg hslash] at hcut
        obtain ⟨more, hmore, rfl⟩ := (spells_escaped hslash).exists_more hcut
        obtain ⟨part, parts, hparts, rfl⟩ := exists_parts_escaped hread
        exact ⟨Nat.succ_le_succ (ih hmore hparts).1, fun h => by cases h⟩
    | false =>
      by_cases hslash : c = '/'
      · subst hslash
        rw [if_pos rfl] at hcut
        obtain ⟨more, hmore, rfl⟩ := spells_slash.exists_more hcut
        obtain ⟨parts, hparts, rfl⟩ := exists_parts_plain (by decide) hread
        obtain ⟨hle, hlt⟩ := ih hmore hparts
        refine ⟨Nat.succ_le_succ hle, fun _ hmem => Nat.succ_lt_succ (hlt rfl ?_)⟩
        exact (List.mem_cons.mp hmem).resolve_left (by decide)
      rw [if_neg hslash] at hcut
      by_cases hbackslash : c = '\\'
      · -- The backslash is the one in front of the rest.
        subst hbackslash
        have hpending : cutAtSlash true (slashed new ++ "/gI".toList) = some (field, "gI".toList) :=
          hcut
        obtain ⟨hle, -⟩ := ih hpending hread
        exact ⟨Nat.le_succ_of_le hle, fun _ _ => Nat.lt_succ_of_le hle⟩
      · by_cases hnewline : c = '\n'
        · subst hnewline
          cases hcut
        · obtain ⟨more, hmore, rfl⟩ := (spells_plain hslash hbackslash hnewline).exists_more hcut
          obtain ⟨parts, hparts, rfl⟩ := exists_parts_plain hbackslash hread
          obtain ⟨hle, hlt⟩ := ih hmore hparts
          refine ⟨Nat.succ_le_succ hle, fun _ hmem => Nat.succ_lt_succ (hlt rfl ?_)⟩
          exact (List.mem_cons.mp hmem).resolve_left (Ne.symm hbackslash)

/-! ### The program -/

section

variable {r : Replacement}

theorem toList_substitution (r : Replacement) : (substitution r).toList
    = "s/".toList ++ (("\\b".toList ++ (escapePattern r.old.toList ++ "\\b".toList))
      ++ '/' :: (slashed r.new.toList ++ "/gI".toList)) := by
  have hprogram : (substitution r).toList = "s/\\b".toList ++ escapePattern r.old.toList
      ++ "\\b/".toList ++ slashed r.new.toList ++ "/gI".toList := by
    rw [← replaceAll_slash]
    exact String.toList_ofList
  exact hprogram.trans (by simp)

/-- The first part of the program is the pattern. -/
theorem cutAtSlash_program (h : '\n' ∉ old) (rest : List Char) :
    cutAtSlash false (("\\b".toList ++ (escapePattern old ++ "\\b".toList)) ++ '/' :: rest)
      = some (wordField old, rest) :=
  (spells_wordField h).cutAtSlash_eq rest

/-- **The pattern of the program is that of the old value as a whole word.** -/
theorem pattern?_substitution (h : '\n' ∉ r.old.toList) :
    pattern? (substitution r).toList = some (wholeWord r.old.toList) := by
  simp only [pattern?, toList_substitution, Text.afterPrefix_append, cutAtSlash_program h,
    Option.bind_eq_bind, Option.bind_some, readPattern_wordField]

theorem read?_substitution (h : '\n' ∉ r.old.toList) :
    read? (substitution r).toList
      = (cutAtSlash false (slashed r.new.toList ++ "/gI".toList)).bind fun (replacement, flags) =>
        if flags = "gI".toList then
          (readReplacement replacement).map (Substitution.mk (wholeWord r.old.toList) ·)
        else none := by
  simp only [read?, toList_substitution, Text.afterPrefix_append, cutAtSlash_program h,
    Option.bind_eq_bind, Option.bind_some, readPattern_wordField, Option.pure_def]
  simp only [Option.map_eq_bind, Function.comp_def]

/-- A new value without backslashes is put in as it is but for its ampersands. -/
theorem read?_substitution_of_notMem (hold : '\n' ∉ r.old.toList) (hnew : '\n' ∉ r.new.toList)
    (hbackslash : '\\' ∉ r.new.toList) :
    read? (substitution r).toList
      = some ⟨wholeWord r.old.toList, r.new.toList.map plainPart⟩ := by
  have hcut : cutAtSlash false (slashed r.new.toList ++ "/gI".toList)
      = some (r.new.toList, "gI".toList) :=
    (spells_slashed hnew hbackslash).cutAtSlash_eq "gI".toList
  rw [read?_substitution hold, hcut, Option.bind_some]
  dsimp only
  rw [if_pos rfl, readReplacement_of_notMem hbackslash, Option.map_some]

theorem map_plainPart_eq_iff : new.map plainPart = new.map .char ↔ '&' ∉ new := by
  rw [List.map_inj_left]
  constructor
  · intro h hmem
    cases h '&' hmem
  · intro h c hc
    have hne : c ≠ '&' := fun hsame => h (hsame ▸ hc)
    exact if_neg hne

/-- **The program puts in exactly the new value, whatever it has found, if and only if that has no
ampersand and no backslash.** -/
theorem read?_substitution_iff (hold : '\n' ∉ r.old.toList) (hnew : '\n' ∉ r.new.toList) :
    (∃ s, read? (substitution r).toList = some s
      ∧ ∀ found, expand s.parts found = r.new.toList) ↔
      '&' ∉ r.new.toList ∧ '\\' ∉ r.new.toList := by
  constructor
  · rintro ⟨s, hread, hexpand⟩
    have hparts : s.parts = r.new.toList.map .char := forall_expand_eq_iff.mp hexpand
    have hbackslash : '\\' ∉ r.new.toList := by
      intro hmem
      rw [read?_substitution hold] at hread
      obtain ⟨⟨field, flags⟩, hcut, hread⟩ := Option.bind_eq_some_iff.mp hread
      dsimp only at hread
      split at hread
      · next hflags =>
        obtain ⟨parts, hparts', rfl⟩ := Option.map_eq_some_iff.mp hread
        have hlt := (length_le_of_slashed (hflags ▸ hcut) hparts').2 rfl hmem
        rw [show parts = _ from hparts, List.length_map] at hlt
        exact Nat.lt_irrefl _ hlt
      · cases hread
    rw [read?_substitution_of_notMem hold hnew hbackslash] at hread
    cases hread
    exact ⟨map_plainPart_eq_iff.mp hparts, hbackslash⟩
  · rintro ⟨hampersand, hbackslash⟩
    refine ⟨_, read?_substitution_of_notMem hold hnew hbackslash, ?_⟩
    exact forall_expand_eq_iff.mpr (map_plainPart_eq_iff.mpr hampersand)

/-! ### What the program makes of a line -/

/-- Letters, digits and words of ASCII. -/
def Sed.Locale.posix : Sed.Locale where
  fold := Char.toLower
  isWord := isWordChar

/-- The program finds the old value where it stands. -/
theorem standsAt_iff_matchAtoms (nonempty : old ≠ []) {before : Option Char} {text : List Char} :
    standsAt old before text ↔
      ∃ found rest, matchAtoms Locale.posix (wholeWord old) before text = some (found, rest) := by
  have hlast : ∀ found, SameValue found old → found.getLast?.or before = found.getLast? := by
    rintro (_ | ⟨c, found⟩) hsame
    · exact absurd (List.eq_nil_of_length_eq_zero hsame.length_eq.symm) nonempty
    · rw [List.getLast?_cons]
      rfl
  simp only [matchAtoms_wholeWord_iff, standsAt_iff]
  constructor
  · rintro ⟨-, hbefore, found, rest, htext, hsame, hbehind⟩
    rw [← hlast found hsame] at hbehind
    exact ⟨found, rest, htext, hsame, hbefore, hbehind⟩
  · rintro ⟨found, rest, htext, hsame, hbefore, hbehind⟩
    rw [hlast found hsame] at hbehind
    exact ⟨nonempty, hbefore, found, rest, htext, hsame, hbehind⟩

/-- **The program of a new value without ampersands and backslashes replaces the old value wherever
it stands.** -/
theorem apply_eq_replaceAtOnce (nonempty : r.old.toList ≠ []) (line : List Char) :
    Substitution.apply ⟨wholeWord r.old.toList, r.new.toList.map .char⟩ Locale.posix line
      = replaceAtOnce [r] line := by
  have hfrom : ∀ before skip,
      Substitution.applyFrom ⟨wholeWord r.old.toList, r.new.toList.map .char⟩ Locale.posix before
        skip line = replaceFrom [r] before skip line := by
    -- Both have as much of the last match behind them, so they find the next one at the same place.
    induction line with
    | nil =>
      intro before skip
      rw [Substitution.applyFrom, replaceFrom]
    | cons c line ih =>
      intro before skip
      cases skip with
      | succ skip => exact ih (some c) skip
      | zero =>
        have hstands : standsAt r.old.toList before (c :: line) ↔ _ :=
          standsAt_iff_matchAtoms nonempty
        rw [Substitution.applyFrom, replaceFrom, List.find?_singleton]
        cases hmatch : matchAtoms Locale.posix (wholeWord r.old.toList) before (c :: line) with
        | none =>
          rw [hmatch] at hstands
          rw [if_neg (by simp [hstands]), ih]
        | some pair =>
          obtain ⟨found, rest⟩ := pair
          have hsame : SameValue found r.old.toList := (matchAtoms_wholeWord_iff.mp hmatch).2.1
          have hexpand := forall_expand_eq_iff.mpr (rfl : r.new.toList.map Part.char = _)
          rw [if_pos (hstands.mpr ⟨found, rest, hmatch⟩)]
          dsimp only
          rw [hexpand, ih, hsame.length_eq]
  exact hfrom none 0

end

/-! ### The command -/

/-- **The words of the command.**  The path, the old value and the program are words. -/
theorem list?_replacementCommand (path : String) (r : Replacement) :
    Shell.list? (replacementCommand path r)
      = some ([(["if", "[", "-e", path, "]"], ';'),
          (["then", "grep", "-rliF", "--", r.old, path], '|'),
          (["xargs", "-r", "sed", "-i", substitution r], ';')], ["fi"]) := by
  have htext : (replacementCommand path r).toList
      = joinWith [' '] (["if", "[", "-e", shellWord path].map String.toList) ++ ' ' ::
        ([']'] ++ ';' :: ' ' :: (joinWith [' '] (["then", "grep", "-rliF", "--", shellWord r.old,
            shellWord path].map String.toList) ++ ' ' :: ('|' :: ' ' ::
          (joinWith [' '] (["xargs", "-r", "sed", "-i"].map String.toList) ++ ' ' ::
            ((shellWord (substitution r)).toList ++ ';' :: ' ' :: "fi".toList))))) := by
    change ("if [ -e " ++ shellWord path ++ " ]; then grep -rliF -- " ++ shellWord r.old ++ " "
      ++ shellWord path ++ " | xargs -r sed -i " ++ shellWord (substitution r) ++ "; fi").toList = _
    simp [joinWith]
  have hbare : ∀ text : String, text.toList ≠ [] ∧ text.toList.all Text.isPlain →
      ListDenotes text.toList (bareLetters text) := fun _ plain =>
    (denotes_bareLetters plain).listDenotes
  have hquoted : ∀ value, ListDenotes (shellWord value).toList (lettersOf value) := fun value =>
    (denotes_shellWord value).listDenotes
  have htest : List.Forall₂ ListDenotes (["if", "[", "-e", shellWord path].map String.toList)
      [bareLetters "if", [⟨'[', false⟩], bareLetters "-e", lettersOf path] :=
    .cons (hbare _ (by decide)) (.cons (listDenotes_bracket (by decide))
      (.cons (hbare _ (by decide)) (.cons (hquoted _) .nil)))
  have hsearch : List.Forall₂ ListDenotes
      (["then", "grep", "-rliF", "--", shellWord r.old, shellWord path].map String.toList)
      [bareLetters "then", bareLetters "grep", bareLetters "-rliF", bareLetters "--",
        lettersOf r.old, lettersOf path] :=
    .cons (hbare _ (by decide)) (.cons (hbare _ (by decide)) (.cons (hbare _ (by decide))
      (.cons (hbare _ (by decide)) (.cons (hquoted _) (.cons (hquoted _) .nil)))))
  have hreplace : List.Forall₂ ListDenotes (["xargs", "-r", "sed", "-i"].map String.toList)
      [bareLetters "xargs", bareLetters "-r", bareLetters "sed", bareLetters "-i"] :=
    .cons (hbare _ (by decide)) (.cons (hbare _ (by decide)) (.cons (hbare _ (by decide))
      (.cons (hbare _ (by decide)) .nil)))
  have hclose : ListDenotes [']'] [⟨']', false⟩] := listDenotes_bracket (by decide)
  rw [list?, htext, listFrom_joinWith_append htest (by simp),
    hclose.listFrom_operator (by decide), listFrom_joinWith_append hsearch (by simp),
    listFrom_operator (by decide) (by simp), listFrom_joinWith_append hreplace (by simp),
    (hquoted _).listFrom_operator (by decide), (hbare "fi" (by decide)).listFrom_eq]
  · have hopen : Word.text [⟨'[', false⟩] = "[" := rfl
    have hshut : Word.text [⟨']', false⟩] = "]" := rfl
    simp [hopen, hshut]
  · have hbrackets : Word.isLiteral [⟨'[', false⟩] ∧ Word.isLiteral [⟨']', false⟩] := by decide
    have hfixed : ∀ text ∈ ["if", "-e", "then", "grep", "-rliF", "--", "xargs", "-r", "sed", "-i",
        "fi"], (bareLetters text).isLiteral := by decide
    simp only [List.forall_mem_cons] at hfixed
    simp [isLiteral_lettersOf, hbrackets, hfixed]

/-- **What the command that makes a replacement does.**  The shell reads the path, the old value and
the program for `sed` as one word each.  The pattern of the program matches exactly the old value,
whatever the case of its letters, where it stands between two boundaries of words.  The replacement
is the new value, whatever has been found, if and only if that has no ampersand and no backslash,
and then the program makes the replacement on every line.  An ampersand puts in what has been
found. -/
theorem replacementCommand_literal_iff (path : String) {r : Replacement} (nonempty : r.old ≠ "")
    (oldLine : '\n' ∉ r.old.toList) (newLine : '\n' ∉ r.new.toList) :
    Shell.list? (replacementCommand path r)
        = some ([(["if", "[", "-e", path, "]"], ';'),
          (["then", "grep", "-rliF", "--", r.old, path], '|'),
          (["xargs", "-r", "sed", "-i", substitution r], ';')], ["fi"])
      ∧ Sed.pattern? (substitution r).toList = some (wholeWord r.old.toList)
      ∧ (∀ (locale : Sed.Locale) before text found rest,
        matchAtoms locale (wholeWord r.old.toList) before text = some (found, rest) ↔
          text = found ++ rest ∧ found.map locale.fold = r.old.toList.map locale.fold
            ∧ locale.atBoundary before text.head?
            ∧ locale.atBoundary (found.getLast?.or before) rest.head?)
      ∧ ((∃ s, Sed.read? (substitution r).toList = some s
          ∧ ∀ found, expand s.parts found = r.new.toList) ↔
        '&' ∉ r.new.toList ∧ '\\' ∉ r.new.toList)
      ∧ ('\\' ∉ r.new.toList → Sed.read? (substitution r).toList
        = some ⟨wholeWord r.old.toList, r.new.toList.map plainPart⟩)
      ∧ ('&' ∉ r.new.toList → '\\' ∉ r.new.toList →
        ∃ s, Sed.read? (substitution r).toList = some s
          ∧ ∀ line, s.apply Sed.Locale.posix line = replaceAtOnce [r] line) := by
  have hne : r.old.toList ≠ [] := fun hnil => nonempty (String.toList_eq_nil_iff.mp hnil)
  refine ⟨list?_replacementCommand path r, pattern?_substitution oldLine,
    fun _ _ _ _ _ => matchAtoms_wholeWord_iff, read?_substitution_iff oldLine newLine,
    read?_substitution_of_notMem oldLine newLine, fun hampersand hbackslash => ?_⟩
  refine ⟨_, read?_substitution_of_notMem oldLine newLine hbackslash, fun line => ?_⟩
  rw [map_plainPart_eq_iff.mpr hampersand]
  exact apply_eq_replaceAtOnce hne line

/-- An address that moves. -/
def movedAddress : Replacement := ⟨"10.0.0.1", "10.9.0.1"⟩

/-- The program for an address puts in the other one. -/
theorem movedAddress_replaced :
    movedAddress.old ≠ "" ∧ '\n' ∉ movedAddress.old.toList ∧ '\n' ∉ movedAddress.new.toList
      ∧ substitution movedAddress = "s/\\b10\\.0\\.0\\.1\\b/10.9.0.1/gI"
      ∧ Shell.list? (replacementCommand "/mnt/it's [new]/etc" movedAddress)
        = some ([(["if", "[", "-e", "/mnt/it's [new]/etc", "]"], ';'),
          (["then", "grep", "-rliF", "--", "10.0.0.1", "/mnt/it's [new]/etc"], '|'),
          (["xargs", "-r", "sed", "-i", substitution movedAddress], ';')], ["fi"])
      ∧ ∃ s, Sed.read? (substitution movedAddress).toList = some s
        ∧ ∀ line, s.apply Sed.Locale.posix line = replaceAtOnce [movedAddress] line := by
  have nonempty : movedAddress.old ≠ "" := by decide
  have oldLine : '\n' ∉ movedAddress.old.toList := by decide
  have newLine : '\n' ∉ movedAddress.new.toList := by decide
  obtain ⟨hwords, -, -, -, -, happly⟩ :=
    replacementCommand_literal_iff "/mnt/it's [new]/etc" nonempty oldLine newLine
  exact ⟨nonempty, oldLine, newLine, by decide +kernel, hwords, happly (by decide) (by decide)⟩

/-- An ampersand in the new value puts in the old one. -/
theorem ampersand_not_literal :
    ¬ ∀ r : Replacement, r.old ≠ "" → '\n' ∉ r.old.toList → '\n' ∉ r.new.toList →
      ∃ s, Sed.read? (substitution r).toList = some s
        ∧ expand s.parts r.old.toList = r.new.toList := by
  intro h
  obtain ⟨s, hread, hexpand⟩ := h ⟨"a", "b&c"⟩ (by decide) (by decide) (by decide)
  have hampersand : Sed.read? (substitution ⟨"a", "b&c"⟩).toList
      = some ⟨[.boundary, .char 'a', .boundary], [.char 'b', .matched, .char 'c']⟩ := by
    decide +kernel
  rw [hampersand] at hread
  cases hread
  exact absurd hexpand (by decide +kernel)

end ServerMigration
