import Mathlib.Data.List.DropRight
import ServerMigration.Proofs.Text.Numerals
import ServerMigration.Text.Blank

/-!
# Words and the blanks around them

## Main results

* `Text.trimStart_cons`, `Text.trim_of_unbroken` : a word has no blanks to lose.
* `Text.takeWhile_append_rest` : a word ends at the first blank.
-/

namespace ServerMigration.Text

variable {word rest text : List Char}

theorem not_isBlank_of_isDigit {c : Char} (h : c.isDigit) : isBlank c = false := by
  have hdigit := isDigit_iff.mp h
  have h0 : '0'.toNat = 48 := rfl
  have h9 : '9'.toNat = 57 := rfl
  refine Bool.eq_false_iff.mpr fun hblank => ?_
  simp only [isBlank, Bool.or_eq_true, Bool.and_eq_true, decide_eq_true_eq, beq_iff_eq] at hblank
  omega

theorem trimStart_cons {c : Char} (h : isBlank c = false) (text : List Char) :
    trimStart (c :: text) = c :: text := by
  rw [trimStart, List.dropWhile_cons_of_neg (by simp [h])]

theorem trimStart_of_unbroken (unbroken : word.all (!isBlank ·)) : trimStart word = word := by
  cases word with
  | nil => rfl
  | cons c word => exact trimStart_cons (by simpa using List.all_eq_true.mp unbroken c (by simp)) _

/-- A beginning of a text without leading blanks has none either. -/
theorem trimStart_of_prefix (h : word <+: trimStart text) : trimStart word = word := by
  cases word with
  | nil => rfl
  | cons c word =>
    obtain ⟨rest, hrest⟩ := h
    have hfirst := List.head?_dropWhile_not isBlank text
    rw [← trimStart, ← hrest] at hfirst
    exact trimStart_cons (by simpa using hfirst) word

theorem trimEnd_prefix (text : List Char) : trimEnd text <+: text :=
  List.rdropWhile_prefix isBlank text

/-- A word has no blanks at its ends. -/
theorem trim_of_unbroken (unbroken : word.all (!isBlank ·)) : trim word = word := by
  have hreverse : word.reverse.all (!isBlank ·) := by rwa [List.all_reverse]
  rw [trim, trimStart_of_unbroken unbroken, trimEnd]
  have hkept : word.reverse.dropWhile isBlank = word.reverse := trimStart_of_unbroken hreverse
  rw [hkept, List.reverse_reverse]

/-- A word is cut off at the first blank. -/
theorem takeWhile_append_rest (unbroken : word.all (!isBlank ·)) (hrest : rest.head?.all isBlank) :
    (word ++ rest).takeWhile (!isBlank ·) = word := by
  rw [List.takeWhile_append_of_pos (List.all_eq_true.mp unbroken)]
  cases rest with
  | nil => exact List.append_nil word
  | cons c rest =>
    have hc : isBlank c = true := hrest
    rw [List.takeWhile_cons_of_neg (by simp [hc]), List.append_nil]

end ServerMigration.Text
