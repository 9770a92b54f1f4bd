/-!
# Searching and splitting text

## Main definitions

* `afterPrefix` : what follows a given beginning.
* `occursIn` : whether one text occurs in another.
* `replaceAll` : every occurrence of a pattern replaced, from left to right, without overlap.
* `splitOn` : the pieces between separators.
* `lines` : the lines of a text.
-/

namespace ServerMigration.Text

/-- What follows `start` in a text that begins with it. -/
def afterPrefix : (start text : List Char) → Option (List Char)
  | [], text => some text
  | _ :: _, [] => none
  | s :: start, c :: text => if s = c then afterPrefix start text else none

@[simp] theorem afterPrefix_append (start text : List Char) :
    afterPrefix start (start ++ text) = some text := by
  induction start with
  | nil => rfl
  | cons s start ih => simp [afterPrefix, ih]

theorem eq_append_of_afterPrefix {start text rest : List Char}
    (h : afterPrefix start text = some rest) : text = start ++ rest := by
  induction start generalizing text with
  | nil => simp_all [afterPrefix]
  | cons s start ih =>
    cases text with
    | nil => simp [afterPrefix] at h
    | cons c text =>
      by_cases hc : s = c
      · have ht : afterPrefix start text = some rest := by simpa [afterPrefix, hc] using h
        rw [hc, List.cons_append, ih ht]
      · simp [afterPrefix, hc] at h

/-- Whether `pattern` occurs in `text` as a contiguous run. -/
def occursIn (pattern : List Char) : (text : List Char) → Bool
  | [] => pattern.isEmpty
  | c :: text => pattern.isPrefixOf (c :: text) || occursIn pattern text

/-- `replaceFrom skip` drops the `skip` characters that an earlier match covers and then goes on
replacing. -/
def replaceFrom (pattern replacement : List Char) : (skip : Nat) → (text : List Char) → List Char
  | _, [] => []
  | skip + 1, _ :: text => replaceFrom pattern replacement skip text
  | 0, c :: text =>
    if pattern.isPrefixOf (c :: text) then
      replacement ++ replaceFrom pattern replacement (pattern.length - 1) text
    else c :: replaceFrom pattern replacement 0 text

/-- Every occurrence of `pattern` replaced, from left to right and without overlap.  The empty
pattern occurs before every character and at the end. -/
def replaceAll (pattern replacement text : List Char) : List Char :=
  if pattern.isEmpty then
    replacement ++ text.flatMap (fun c => c :: replacement)
  else replaceFrom pattern replacement 0 text

/-- The pieces of a text between the separators; there is always at least one piece. -/
def splitOn (separator : Char) : (text : List Char) → List (List Char)
  | [] => [[]]
  | c :: text =>
    if c = separator then [] :: splitOn separator text
    else match splitOn separator text with
      | [] => [[c]]
      | piece :: pieces => (c :: piece) :: pieces

/-- The text before the first separator, and the text after it if there is one. -/
def splitOnce (separator : Char) : (text : List Char) → List Char × Option (List Char)
  | [] => ([], none)
  | c :: text =>
    if c = separator then ([], some text)
    else
      let (before, after) := splitOnce separator text
      (c :: before, after)

/-- Pieces joined by a separator. -/
def joinWith (separator : List Char) (pieces : List (List Char)) : List Char :=
  (pieces.intersperse separator).flatten

/-- A line without the carriage return that ends it. -/
def withoutReturn (line : List Char) : List Char :=
  match line.reverse with
  | '\r' :: rest => rest.reverse
  | _ => line

/-- The lines of a text.  A newline ends a line, the last line may lack it, and a carriage return
before a newline belongs to the line's end. -/
def lines (text : List Char) : List (List Char) :=
  match (splitOn '\n' text).reverse with
  | [] => []
  | [] :: ended => ended.reverse.map withoutReturn
  | last :: ended => ended.reverse.map withoutReturn ++ [last]

/-- Whether `pattern` occurs in `text`. -/
def contains (text pattern : String) : Bool :=
  occursIn pattern.toList text.toList

/-- `text` with every occurrence of `pattern` replaced. -/
def replace (text pattern replacement : String) : String :=
  .ofList (replaceAll pattern.toList replacement.toList text.toList)

end ServerMigration.Text
