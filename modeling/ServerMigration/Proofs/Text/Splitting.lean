import ServerMigration.Text.Search

/-!
# The pieces of a text

## Main results

* `Text.splitOn_append_cons` : a text is cut at each of its separators.
* `Text.nil_mem_splitOn_concat` : behind a separator at the end stands an empty piece.
-/

namespace ServerMigration.Text

variable {separator : Char}

theorem splitOn_ne_nil (text : List Char) : splitOn separator text ≠ [] := by
  cases text with
  | nil => simp [splitOn]
  | cons c text =>
    rw [splitOn]
    split
    · simp
    · split <;> simp

/-- The pieces of a text in front of a separator, and then those of the text behind it. -/
theorem splitOn_append_cons (before after : List Char) :
    splitOn separator (before ++ separator :: after)
      = splitOn separator before ++ splitOn separator after := by
  induction before with
  | nil => simp [splitOn]
  | cons c before ih =>
    rw [List.cons_append, splitOn, splitOn, ih]
    by_cases hc : c = separator
    · rw [if_pos hc, if_pos hc, List.cons_append]
    · rw [if_neg hc, if_neg hc]
      cases hpieces : splitOn separator before with
      | nil => exact absurd hpieces (splitOn_ne_nil before)
      | cons piece pieces => rfl

theorem nil_mem_splitOn_concat (text : List Char) :
    [] ∈ splitOn separator (text ++ [separator]) := by
  rw [splitOn_append_cons]
  exact List.mem_append_right _ List.mem_cons_self

end ServerMigration.Text
