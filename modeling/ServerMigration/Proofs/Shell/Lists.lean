import ServerMigration.Proofs.Shell.Reading

/-!
# How a shell reads lists of commands

Outside quotes a semicolon or a bar ends a command, and another command follows.  A square bracket
outside quotes belongs to a pattern, unless it is a word of its own: the opening one is the command
that tests a condition, and the closing one ends the condition.  All else is read as in a command
that stands alone.

## Main definitions

* `Shell.ListReader` : a shell that is reading a list; `Shell.ListReader.step` reads a character.
* `Shell.list?` : the words of the commands of a list.

## Main results

* `Shell.ListReader.read_of_read` : what is read in a command is read in a list.
* `Shell.listFrom_joinWith_append`, `Shell.ListDenotes.listFrom_operator` : words, and the end of a
  command.
-/

namespace ServerMigration.Shell

open Text

/-- Operators that end a command and are followed by another one. -/
def operators : List Char := [';', '|']

/-- Characters that belong to a pattern unless they are quoted or words of their own. -/
def brackets : List Char := ['[', ']']

/-- A shell that is reading a list of commands. -/
structure ListReader where
  /-- The words of the commands that have ended, and the operators that ended them. -/
  ended : List (List Word × Char)
  /-- The shell in the command that is under way. -/
  reader : Reader
  deriving DecidableEq, Repr

/-- Whether a word is no pattern. -/
def Word.isLiteral (word : Word) : Bool :=
  word.length = 1 || word.all fun letter => letter.quoted || letter.char ∉ brackets

namespace ListReader

/-- Ends the command under way.  There are no empty commands. -/
def endCommand (list : ListReader) (operator : Char) : Option ListReader :=
  match list.reader.endWord.words with
  | [] => none
  | words => some ⟨list.ended ++ [(words, operator)], ⟨[], none, .unquoted⟩⟩

/-- Reads a character, unless it is one whose meaning is active in another way. -/
def step (list : ListReader) (c : Char) : Option ListReader :=
  if list.reader.quoting = .unquoted ∧ c ∈ operators then list.endCommand c
  else if list.reader.quoting = .unquoted ∧ c ∈ brackets then
    some { list with reader := list.reader.add [⟨c, false⟩] .unquoted }
  else (list.reader.step c).map fun reader => { list with reader }

/-- Reads a text. -/
def read (list : ListReader) (text : List Char) : Option ListReader :=
  text.foldlM step list

/-- The words of the commands at the end of a list, unless one is a pattern or the list ends in the
middle of something quoted. -/
def finish (list : ListReader) : Option (List (List Word × Char) × List Word) :=
  list.reader.finish.bind fun last =>
    if (list.ended.flatMap (·.1) ++ last).all Word.isLiteral then some (list.ended, last) else none

end ListReader

/-- The commands of a list some of whose commands have ended, at the end of a word. -/
def listFrom (ended : List (List Word × Char)) (words : List Word) (text : List Char) :
    Option (List (List Word × Char) × List Word) :=
  (ListReader.read ⟨ended, ⟨words, none, .unquoted⟩⟩ text).bind ListReader.finish

/-- The words of the commands of a list with the operators that end them, and the words of the last
command, unless it is more than a list of words in that way. -/
def list? (text : String) : Option (List (List String × Char) × List String) :=
  (listFrom [] [] text.toList).map fun (ended, last) =>
    (ended.map fun (words, operator) => (words.map Word.text, operator), last.map Word.text)

/-- A shell that reads the text in a list outside quotes adds these letters to the word under way,
and is outside quotes again. -/
def ListDenotes (text : List Char) (word : Word) : Prop :=
  ∀ ended words current, ListReader.read ⟨ended, ⟨words, current, .unquoted⟩⟩ text
    = some ⟨ended, ⟨words, some (current.getD [] ++ word), .unquoted⟩⟩

variable {ended : List (List Word × Char)} {reader reader' : Reader} {c operator : Char}
  {text rest : List Char} {texts : List (List Char)} {word : Word} {words more : List Word}

/-! ### Reading in parts -/

namespace ListReader

@[simp] theorem read_nil (list : ListReader) : list.read [] = some list := rfl

theorem read_cons (list : ListReader) (c : Char) (text : List Char) :
    list.read (c :: text) = (list.step c).bind (·.read text) := rfl

theorem read_append (list : ListReader) (first second : List Char) :
    list.read (first ++ second) = (list.read first).bind (·.read second) :=
  List.foldlM_append

/-- Operators and brackets are active outside quotes. -/
theorem step_eq_none (h : reader.quoting = .unquoted) (hc : c ∈ operators ++ brackets) :
    reader.step c = none := by
  have hactive : (operators ++ brackets).all fun c =>
      decide (c ∉ blanks ∧ c ≠ '\\' ∧ c ≠ '\'' ∧ c ≠ '"' ∧ c ∈ metacharacters) := by decide
  obtain ⟨hblank, hbackslash, hsingle, hdouble, hmeta⟩ :=
    of_decide_eq_true (List.all_eq_true.mp hactive c hc)
  rw [Reader.step, h]
  dsimp only
  rw [if_neg hblank, if_neg hbackslash, if_neg hsingle, if_neg hdouble, if_pos hmeta]

theorem step_of_step (h : reader.step c = some reader') :
    step ⟨ended, reader⟩ c = some ⟨ended, reader'⟩ := by
  have hoff : ∀ group : List Char, group ⊆ operators ++ brackets →
      ¬(reader.quoting = .unquoted ∧ c ∈ group) := fun group hgroup hactive => by
    rw [step_eq_none hactive.1 (hgroup hactive.2)] at h
    cases h
  rw [step, if_neg (hoff _ (List.subset_append_left _ _)),
    if_neg (hoff _ (List.subset_append_right _ _)), h, Option.map_some]

/-- **What a shell reads in a command it reads in a list.** -/
theorem read_of_read (h : reader.read text = some reader') :
    read ⟨ended, reader⟩ text = some ⟨ended, reader'⟩ := by
  induction text generalizing reader with
  | nil =>
    cases h
    rfl
  | cons c text ih =>
    rw [Reader.read, List.foldlM_cons] at h
    obtain ⟨middle, hstep, hread⟩ := Option.bind_eq_some_iff.mp h
    rw [read_cons, step_of_step hstep, Option.bind_some]
    exact ih hread

end ListReader

theorem Denotes.listDenotes (denotes : Denotes text word) : ListDenotes text word :=
  fun _ words current => ListReader.read_of_read (denotes words current)

/-- A bracket stands for itself. -/
theorem listDenotes_bracket (h : c ∈ brackets) : ListDenotes [c] [⟨c, false⟩] := by
  intro ended words current
  have hbrackets : brackets.all fun c => decide (c ∉ operators) := by decide
  have hoperator : c ∉ operators := of_decide_eq_true (List.all_eq_true.mp hbrackets c h)
  rw [ListReader.read_cons, ListReader.step, if_neg fun hactive => hoperator hactive.2,
    if_pos ⟨rfl, h⟩]
  rfl

/-! ### Words and operators one after the other -/

/-- A blank ends a word. -/
theorem ListDenotes.listFrom_append (denotes : ListDenotes text word)
    (ended : List (List Word × Char)) (words : List Word) (rest : List Char) :
    listFrom ended words (text ++ ' ' :: rest) = listFrom ended (words ++ [word]) rest := by
  have hblank : Reader.step ⟨words, some word, .unquoted⟩ ' '
      = some ⟨words ++ [word], none, .unquoted⟩ := by
    simp [Reader.step, Reader.endWord, blanks]
  rw [listFrom, ListReader.read_append, denotes, Option.bind_some, ListReader.read_cons,
    Option.getD_none, List.nil_append, ListReader.step_of_step hblank, Option.bind_some, listFrom]

/-- **Words and blanks in front of more text.** -/
theorem listFrom_joinWith_append (denote : List.Forall₂ ListDenotes texts more)
    (nonempty : texts ≠ []) (ended : List (List Word × Char)) (words : List Word)
    (rest : List Char) :
    listFrom ended words (joinWith [' '] texts ++ ' ' :: rest)
      = listFrom ended (words ++ more) rest := by
  induction denote generalizing words with
  | nil => exact absurd rfl nonempty
  | cons head tail ih =>
    cases tail with
    | nil => rw [joinWith_singleton, head.listFrom_append]
    | cons _ _ =>
      rw [joinWith_cons _ (List.cons_ne_nil _ _), List.append_assoc, List.cons_append,
        head.listFrom_append, ih (List.cons_ne_nil _ _), List.append_assoc]
      rfl

/-- An operator ends a command.  A blank behind it does nothing. -/
theorem read_operator {current : Option Word} (h : operator ∈ operators)
    (nonempty : words ++ current.toList ≠ []) (ended : List (List Word × Char)) (rest : List Char) :
    ListReader.read ⟨ended, ⟨words, current, .unquoted⟩⟩ (operator :: ' ' :: rest)
      = ListReader.read ⟨ended ++ [(words ++ current.toList, operator)], ⟨[], none, .unquoted⟩⟩
        rest := by
  have hend : ListReader.step ⟨ended, ⟨words, current, .unquoted⟩⟩ operator
      = some ⟨ended ++ [(words ++ current.toList, operator)], ⟨[], none, .unquoted⟩⟩ := by
    rw [ListReader.step, if_pos ⟨rfl, h⟩, ListReader.endCommand]
    split
    · next hnone => exact absurd hnone nonempty
    · rfl
  have hblank : Reader.step ⟨[], none, .unquoted⟩ ' ' = some ⟨[], none, .unquoted⟩ := by
    simp [Reader.step, Reader.endWord, blanks]
  rw [ListReader.read_cons, hend, Option.bind_some, ListReader.read_cons,
    ListReader.step_of_step hblank, Option.bind_some]

theorem listFrom_operator (h : operator ∈ operators) (nonempty : words ≠ [])
    (ended : List (List Word × Char)) (rest : List Char) :
    listFrom ended words (operator :: ' ' :: rest)
      = listFrom (ended ++ [(words, operator)]) [] rest := by
  have hwords : words ++ (none : Option Word).toList = words := List.append_nil words
  rw [listFrom, read_operator h (by rwa [hwords]), hwords, listFrom]

/-- An operator that follows a word ends the word, too. -/
theorem ListDenotes.listFrom_operator (denotes : ListDenotes text word) (h : operator ∈ operators)
    (ended : List (List Word × Char)) (words : List Word) (rest : List Char) :
    listFrom ended words (text ++ operator :: ' ' :: rest)
      = listFrom (ended ++ [(words ++ [word], operator)]) [] rest := by
  rw [listFrom, ListReader.read_append, denotes, Option.bind_some, Option.getD_none,
    List.nil_append, read_operator h (by simp), Option.toList_some, listFrom]

/-- A word at the end of a list of commands. -/
theorem ListDenotes.listFrom_eq (denotes : ListDenotes text word)
    (literal : (ended.flatMap (·.1) ++ (words ++ [word])).all Word.isLiteral) :
    listFrom ended words text = some (ended, words ++ [word]) := by
  have hfinish : Reader.finish ⟨words, some word, .unquoted⟩ = some (words ++ [word]) := by
    simp [Reader.finish, Reader.endWord]
  rw [listFrom, denotes, Option.bind_some, Option.getD_none, List.nil_append, ListReader.finish,
    hfinish, Option.bind_some]
  exact if_pos literal

/-! ### Literal words -/

/-- A quoted value is no pattern. -/
theorem isLiteral_lettersOf (value : String) : (lettersOf value).isLiteral := by
  have hletters : (lettersOf value).all fun letter => letter.quoted || letter.char ∉ brackets := by
    refine List.all_eq_true.mpr fun letter hmem => ?_
    obtain ⟨c, hc, rfl⟩ := List.mem_map.mp hmem
    cases hplain : value.toList.all isPlain with
    | false => rfl
    | true =>
      have hbracket : c ∉ brackets := fun hbracket =>
        (ne_of_isPlain (List.all_eq_true.mp hplain c hc)).2.2
          ((by decide : brackets ⊆ metacharacters) hbracket)
      simpa using hbracket
  rw [Word.isLiteral, hletters, Bool.or_true]

end ServerMigration.Shell
