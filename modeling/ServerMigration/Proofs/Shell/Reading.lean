import Mathlib.Data.List.Forall2
import ServerMigration.Proofs.Text.Lines
import ServerMigration.Text.Quoted

/-!
# How a shell reads words

A POSIX shell goes through a command character by character.  Outside quotes a blank ends a word
and many characters have a meaning of their own; a backslash and both kinds of quotes take that
meaning away, between double quotes only in part.  Here a shell is followed until it meets a
character whose meaning is active, at which a command stops being a mere list of words.

Whatever stands between the quotes of `Text.shellWord`, the shell is in its unquoted state again
behind them, and has not met such a character.

## Main definitions

* `Shell.Reader` : a shell that is reading a command; `Shell.Reader.step` reads a character.
* `Shell.words?` : the words of a command.
* `Shell.command?` : the same, with the assignments in front of them told apart.
* `Shell.Denotes` : a text that adds some letters to a word.

## Main results

* `Shell.denotes_quoteWord` : a quoted value denotes its own characters.
* `Shell.wordsFrom_joinWith` : texts that denote words, joined by blanks, are read as these words.
* `Shell.reads_shellWord` : quoted values are read back.
-/

namespace ServerMigration.Shell

open Text

/-! ### The shell -/

/-- What quotes the next character. -/
inductive Quoting
  /-- Nothing. -/
  | unquoted
  /-- A backslash. -/
  | escaped
  /-- Single quotes. -/
  | single
  /-- Double quotes. -/
  | double
  /-- A backslash between double quotes. -/
  | doubleEscaped
  deriving DecidableEq, Repr

/-- A character of a word, and whether it was quoted. -/
structure Letter where
  /-- The character. -/
  char : Char
  /-- Whether it was quoted. -/
  quoted : Bool
  deriving DecidableEq, Repr

/-- A word as it has been read. -/
abbrev Word : Type := List Letter

/-- The characters of a word. -/
def Word.text (word : Word) : String := .ofList (word.map (·.char))

/-- A shell that is reading a command. -/
structure Reader where
  /-- The words that have been read. -/
  words : List Word
  /-- The word that is under way, if one is. -/
  current : Option Word
  /-- What quotes the next character. -/
  quoting : Quoting
  deriving DecidableEq, Repr

/-- Blanks, which end a word. -/
def blanks : List Char := [' ', '\t']

/-- Characters that quote others. -/
def quotes : List Char := ['\\', '\'', '"']

/-- Characters outside quotes that make more of a command than a list of words: operators,
expansions and patterns, also those that count only at some places, such as the start of a word. -/
def metacharacters : List Char :=
  ['|', '&', ';', '<', '>', '(', ')', '\n', '$', '`', '*', '?', '[', ']', '\x7b', '\x7d', '~', '#',
    '!', '^']

/-- Characters that a backslash between double quotes takes the meaning from. -/
def escapable : List Char := ['$', '`', '"', '\\']

namespace Reader

/-- Adds letters to the word under way, which thereby begins if none is. -/
def add (reader : Reader) (letters : Word) (quoting : Quoting) : Reader :=
  { reader with current := some (reader.current.getD [] ++ letters), quoting }

/-- Ends the word under way, if one is. -/
def endWord (reader : Reader) : Reader :=
  { reader with words := reader.words ++ reader.current.toList, current := none }

/-- Reads a character, unless it is one whose meaning is active. -/
def step (reader : Reader) (c : Char) : Option Reader :=
  match reader.quoting with
  | .unquoted =>
    if c ∈ blanks then some reader.endWord
    else if c = '\\' then some { reader with quoting := .escaped }
    else if c = '\'' then some (reader.add [] .single)
    else if c = '"' then some (reader.add [] .double)
    else if c ∈ metacharacters then none
    else some (reader.add [⟨c, false⟩] .unquoted)
  | .escaped =>
    -- A line that ends in a backslash goes on with the next line.
    if c = '\n' then some { reader with quoting := .unquoted }
    else some (reader.add [⟨c, true⟩] .unquoted)
  | .single =>
    if c = '\'' then some (reader.add [] .unquoted)
    else some (reader.add [⟨c, true⟩] .single)
  | .double =>
    if c = '"' then some (reader.add [] .unquoted)
    else if c = '\\' then some (reader.add [] .doubleEscaped)
    else if c ∈ ['$', '`'] then none
    else some (reader.add [⟨c, true⟩] .double)
  | .doubleEscaped =>
    if c = '\n' then some (reader.add [] .double)
    else if c ∈ escapable then some (reader.add [⟨c, true⟩] .double)
    else some (reader.add [⟨'\\', true⟩, ⟨c, true⟩] .double)

/-- Reads a text. -/
def read (reader : Reader) (text : List Char) : Option Reader :=
  text.foldlM step reader

/-- The words at the end of a command, unless it ends in the middle of something quoted. -/
def finish (reader : Reader) : Option (List Word) :=
  if reader.quoting = .unquoted then some reader.endWord.words else none

end Reader

/-- The words of a command whose beginning is `words`, at the end of a word. -/
def wordsFrom (words : List Word) (text : List Char) : Option (List Word) :=
  (Reader.read ⟨words, none, .unquoted⟩ text).bind Reader.finish

/-- The words of a command, unless it is more than a list of words. -/
def words? (text : String) : Option (List String) :=
  (wordsFrom [] text.toList).map (·.map Word.text)

/-- Characters of the name of a variable. -/
def isNameChar (c : Char) : Bool := c.isAlphanum || c = '_'

/-- A letter that may stand in the name of a variable. -/
def Letter.isName (letter : Letter) : Bool := !letter.quoted && isNameChar letter.char

/-- The name and the value of a word that assigns a value to a variable.  Neither the name nor the
equals sign is quoted. -/
def Word.assignment? (word : Word) : Option (String × String) :=
  match word.takeWhile Letter.isName, word.dropWhile Letter.isName with
  | first :: name, ⟨'=', false⟩ :: value =>
    if first.char.isDigit then none else some (Word.text (first :: name), Word.text value)
  | _, _ => none

/-- A command of assignments, which go into its environment, and words. -/
structure SimpleCommand where
  /-- The names and values of its assignments. -/
  assignments : List (String × String)
  /-- Its words. -/
  words : List String
  deriving DecidableEq, Repr

/-- Words are assignments up to the first one that is none. -/
def SimpleCommand.ofWords : List Word → SimpleCommand
  | [] => ⟨[], []⟩
  | word :: words =>
    match word.assignment? with
    | some assignment =>
      { ofWords words with assignments := assignment :: (ofWords words).assignments }
    | none => ⟨[], (word :: words).map Word.text⟩

/-- What a command reads as, unless it is more than a list of words. -/
def command? (text : String) : Option SimpleCommand :=
  (wordsFrom [] text.toList).map SimpleCommand.ofWords

/-- A shell that reads the text outside quotes adds these letters to the word under way, which
thereby begins if none is, and is outside quotes again. -/
def Denotes (text : List Char) (word : Word) : Prop :=
  ∀ words current, Reader.read ⟨words, current, .unquoted⟩ text
    = some ⟨words, some (current.getD [] ++ word), .unquoted⟩

/-! ### Reading in parts -/

@[simp] theorem read_nil (reader : Reader) : reader.read [] = some reader := rfl

theorem read_cons (reader : Reader) (c : Char) (text : List Char) :
    reader.read (c :: text) = (reader.step c).bind (·.read text) := rfl

theorem read_append (reader : Reader) (first second : List Char) :
    reader.read (first ++ second) = (reader.read first).bind (·.read second) :=
  List.foldlM_append

theorem Denotes.append {first second : List Char} {word more : Word} (hfirst : Denotes first word)
    (hsecond : Denotes second more) : Denotes (first ++ second) (word ++ more) := by
  intro words current
  rw [read_append, hfirst, Option.bind_some, hsecond, Option.getD_some, List.append_assoc]

/-! ### Plain text -/

theorem ne_of_isPlain {c : Char} (plain : isPlain c) :
    c ∉ blanks ∧ c ∉ quotes ∧ c ∉ metacharacters := by
  have hspecial : (blanks ++ quotes ++ metacharacters).all (!isPlain ·) := by decide
  have hnot : c ∉ blanks ++ quotes ++ metacharacters := by
    intro hmem
    have hc : (!isPlain c) = true := List.all_eq_true.mp hspecial c hmem
    rw [plain] at hc
    cases hc
  simpa [not_or, and_assoc] using hnot

/-- A character that needs no quoting stands for itself. -/
theorem step_plain {c : Char} (plain : isPlain c) (words : List Word) (current : Option Word) :
    Reader.step ⟨words, current, .unquoted⟩ c
      = some ⟨words, some (current.getD [] ++ [⟨c, false⟩]), .unquoted⟩ := by
  obtain ⟨hblank, hquote, hmeta⟩ := ne_of_isPlain plain
  obtain ⟨hbackslash, hsingle, hdouble⟩ : c ≠ '\\' ∧ c ≠ '\'' ∧ c ≠ '"' := by
    simpa [quotes] using hquote
  rw [Reader.step]
  dsimp only
  rw [if_neg hblank, if_neg hbackslash, if_neg hsingle, if_neg hdouble, if_neg hmeta]
  rfl

/-- Text that needs no quoting stands for itself. -/
theorem denotes_plain {text : List Char} (nonempty : text ≠ []) (plain : text.all isPlain) :
    Denotes text (text.map (Letter.mk · false)) := by
  intro words current
  induction text generalizing current with
  | nil => exact absurd rfl nonempty
  | cons c text ih =>
    obtain ⟨hc, htext⟩ : isPlain c ∧ text.all isPlain := by simpa using plain
    rw [read_cons, step_plain hc, Option.bind_some]
    cases text with
    | nil => rfl
    | cons next text =>
      rw [ih (List.cons_ne_nil _ _) htext, Option.getD_some, List.append_assoc]
      rfl

/-! ### Quoted text -/

/-- A shell that reads the inside of a quoted word adds exactly its characters.  A quote in the
text leads it out of its single quotes, through a backslash, and into single quotes again. -/
theorem read_escapeQuotes (text : List Char) (words : List Word) (word : Word) :
    Reader.read ⟨words, some word, .single⟩ (escapeQuotes text)
      = some ⟨words, some (word ++ text.map (Letter.mk · true)), .single⟩ := by
  induction text generalizing word with
  | nil => simp [escapeQuotes]
  | cons c text ih =>
    by_cases hquote : c = '\''
    · subst hquote
      have hthrough : Reader.read ⟨words, some word, .single⟩ ['\'', '\\', '\'', '\'']
          = some ⟨words, some (word ++ [⟨'\'', true⟩]), .single⟩ := by
        simp [Reader.read, Reader.step, Reader.add, blanks]
      have hcut : escapeQuotes ('\'' :: text) = ['\'', '\\', '\'', '\''] ++ escapeQuotes text := by
        rw [escapeQuotes]
        rfl
      rw [hcut, read_append, hthrough, Option.bind_some, ih]
      simp
    · have hkept : escapeQuotes (c :: text) = c :: escapeQuotes text :=
        escapeQuotes.eq_3 c text fun h => absurd h hquote
      have hstep : Reader.step ⟨words, some word, .single⟩ c
          = some ⟨words, some (word ++ [⟨c, true⟩]), .single⟩ := by
        rw [Reader.step]
        exact if_neg hquote
      rw [hkept, read_cons, hstep, Option.bind_some, ih]
      simp

/-- **A quoted value denotes its own characters**, all of them quoted unless none needs it. -/
theorem denotes_quoteWord (text : List Char) :
    Denotes (quoteWord text) (text.map (Letter.mk · (!text.all isPlain))) := by
  rw [quoteWord]
  split
  · next h =>
    obtain ⟨nonempty, plain⟩ : text ≠ [] ∧ text.all isPlain := by simpa using h
    rw [plain]
    exact denotes_plain nonempty plain
  · next h =>
    intro words current
    have hopen : Reader.step ⟨words, current, .unquoted⟩ '\''
        = some ⟨words, some (current.getD []), .single⟩ := by
      simp [Reader.step, Reader.add, blanks]
    have hclose (word : Word) : Reader.read ⟨words, some word, .single⟩ ['\'']
        = some ⟨words, some word, .unquoted⟩ := by
      simp [Reader.read, Reader.step, Reader.add]
    rw [List.cons_append, read_cons, hopen, Option.bind_some, read_append, read_escapeQuotes,
      Option.bind_some, hclose]
    -- The empty value has no letters, quoted or not.
    cases text with
    | nil => rfl
    | cons c text =>
      have hsome : (c :: text).all isPlain = false := by simpa using h
      rw [hsome]
      rfl

/-! ### Words one after the other -/

theorem wordsFrom_nil (words : List Word) : wordsFrom words [] = some words := by
  simp [wordsFrom, Reader.finish, Reader.endWord]

/-- A blank between words does nothing. -/
theorem wordsFrom_blank (words : List Word) (text : List Char) :
    wordsFrom words (' ' :: text) = wordsFrom words text := by
  have hstep : Reader.step ⟨words, none, .unquoted⟩ ' ' = some ⟨words, none, .unquoted⟩ := by
    simp [Reader.step, Reader.endWord, blanks]
  rw [wordsFrom, read_cons, hstep, Option.bind_some, wordsFrom]

variable {text : List Char} {texts : List (List Char)} {word : Word} {more : List Word}

/-- A blank ends a word. -/
theorem Denotes.wordsFrom_append (denotes : Denotes text word) (words : List Word)
    (rest : List Char) :
    wordsFrom words (text ++ ' ' :: rest) = wordsFrom (words ++ [word]) rest := by
  have hstep : Reader.step ⟨words, some word, .unquoted⟩ ' '
      = some ⟨words ++ [word], none, .unquoted⟩ := by
    simp [Reader.step, Reader.endWord, blanks]
  rw [wordsFrom, read_append, denotes, Option.bind_some, read_cons, Option.getD_none,
    List.nil_append, hstep, Option.bind_some, wordsFrom]

/-- The end of the command ends a word. -/
theorem Denotes.wordsFrom_eq (denotes : Denotes text word) (words : List Word) :
    wordsFrom words text = some (words ++ [word]) := by
  rw [wordsFrom, denotes]
  simp [Reader.finish, Reader.endWord]

/-- **Texts that denote words, joined by blanks, are read as these words.** -/
theorem wordsFrom_joinWith (denote : List.Forall₂ Denotes texts more) (words : List Word) :
    wordsFrom words (joinWith [' '] texts) = some (words ++ more) := by
  induction denote generalizing words with
  | nil => simpa [joinWith] using wordsFrom_nil words
  | cons head tail ih =>
    cases tail with
    | nil => rw [joinWith_singleton, head.wordsFrom_eq]
    | cons _ _ =>
      rw [joinWith_cons _ (List.cons_ne_nil _ _), head.wordsFrom_append, ih, List.append_assoc]
      rfl

/-- The same in front of more text; if there are no such words, two blanks follow one another. -/
theorem wordsFrom_joinWith_append (denote : List.Forall₂ Denotes texts more) (words : List Word)
    (rest : List Char) :
    wordsFrom words (joinWith [' '] texts ++ ' ' :: rest) = wordsFrom (words ++ more) rest := by
  induction denote generalizing words with
  | nil => simpa [joinWith] using wordsFrom_blank words rest
  | cons head tail ih =>
    cases tail with
    | nil => rw [joinWith_singleton, head.wordsFrom_append]
    | cons _ _ =>
      rw [joinWith_cons _ (List.cons_ne_nil _ _), List.append_assoc, List.cons_append,
        head.wordsFrom_append, ih, List.append_assoc]
      rfl

/-! ### Assignments -/

theorem text_map_mk (quoted : Bool) (text : List Char) :
    Word.text (text.map (Letter.mk · quoted)) = .ofList text := by
  simp [Word.text, Function.comp_def]

/-- A name, an equals sign and a value assign the value to the name. -/
theorem assignment?_append {first : Char} {name : List Char} (start : first.isDigit = false)
    (chars : (first :: name).all isNameChar) (value : Word) :
    Word.assignment? ((first :: name).map (Letter.mk · false) ++ ⟨'=', false⟩ :: value)
      = some (.ofList (first :: name), Word.text value) := by
  have hname : ∀ letter ∈ (first :: name).map (Letter.mk · false), letter.isName := by
    intro letter hletter
    obtain ⟨c, hc, rfl⟩ := List.mem_map.mp hletter
    simpa [Letter.isName] using List.all_eq_true.mp chars c hc
  have hequals : ¬Letter.isName ⟨'=', false⟩ := by decide
  rw [Word.assignment?, List.takeWhile_append_of_pos hname, List.dropWhile_append_of_pos hname,
    List.takeWhile_cons_of_neg hequals, List.dropWhile_cons_of_neg hequals]
  simp [start, Word.text, Function.comp_def]

/-- A command that does not begin with an assignment has none. -/
theorem ofWords_cons_of_none (h : word.assignment? = none) (words : List Word) :
    SimpleCommand.ofWords (word :: words) = ⟨[], (word :: words).map Word.text⟩ := by
  rw [SimpleCommand.ofWords, h]

/-- An assignment goes into the environment of what follows. -/
theorem ofWords_cons_of_some {assignment : String × String}
    (h : word.assignment? = some assignment) (words : List Word) :
    SimpleCommand.ofWords (word :: words) = { SimpleCommand.ofWords words with
      assignments := assignment :: (SimpleCommand.ofWords words).assignments } := by
  rw [SimpleCommand.ofWords, h]

/-! ### Quoted values -/

/-- The letters of a text that is not quoted. -/
def bareLetters (text : String) : Word := text.toList.map (Letter.mk · false)

/-- The letters of the quoted form of a value. -/
def lettersOf (value : String) : Word :=
  value.toList.map (Letter.mk · (!value.toList.all isPlain))

@[simp] theorem text_bareLetters (text : String) : (bareLetters text).text = text := by
  rw [bareLetters, text_map_mk, String.ofList_toList]

@[simp] theorem text_lettersOf (value : String) : (lettersOf value).text = value := by
  rw [lettersOf, text_map_mk, String.ofList_toList]

@[simp] theorem text_append (word more : Word) :
    Word.text (word ++ more) = word.text ++ more.text := by
  simp [Word.text, String.ofList_append]

theorem denotes_bareLetters {text : String} (plain : text.toList ≠ [] ∧ text.toList.all isPlain) :
    Denotes text.toList (bareLetters text) :=
  denotes_plain plain.1 plain.2

theorem denotes_shellWord (value : String) :
    Denotes (shellWord value).toList (lettersOf value) := by
  rw [shellWord, String.toList_ofList]
  exact denotes_quoteWord value.toList

/-- **A value is read back from its quoted form.**  A shell outside quotes reads the form without
meeting a character whose meaning is active, adds exactly the characters of the value to the word
under way, which is there afterwards even if the value is empty, and is outside quotes again.  Hence
the words of quoted values that are joined by spaces are these values. -/
theorem reads_shellWord (words : List Word) (current : Option Word) (value : String)
    (values : List String) :
    (∃ letters, Word.text letters = value
        ∧ Reader.read ⟨words, current, .unquoted⟩ (shellWord value).toList
          = some ⟨words, some (current.getD [] ++ letters), .unquoted⟩)
      ∧ words? (" ".intercalate (values.map shellWord)) = some values := by
  constructor
  · exact ⟨lettersOf value, text_lettersOf value, denotes_shellWord value words current⟩
  · have hjoined : (" ".intercalate (values.map shellWord)).toList
        = joinWith [' '] (values.map fun value => (shellWord value).toList) := by
      simp [joinWith, List.intercalate, Function.comp_def]
    have denote : List.Forall₂ Denotes (values.map fun value => (shellWord value).toList)
        (values.map lettersOf) := by
      rw [List.forall₂_map_left_iff, List.forall₂_map_right_iff, List.forall₂_same]
      exact fun value _ => denotes_shellWord value
    rw [words?, hjoined, wordsFrom_joinWith denote]
    simp [Function.comp_def]

end ServerMigration.Shell
