import ServerMigration.Proofs.StableSort
import ServerMigration.Text.NaturalOrder

/-!
# Names without digits in natural order

## Main results

* `Text.naturalCompare_eq_compareStrings` : names without digits are compared as texts.
-/

namespace ServerMigration.Text

variable {a b : String} {text : List Char}

/-- A text of digits alone, or without digits, is a single run. -/
theorem runsOf_of_alike {kind : Bool} (alike : ∀ c ∈ text, c.isDigit = kind) (h : text ≠ []) :
    runsOf text = [text] := by
  induction text with
  | nil => exact absurd rfl h
  | cons c rest ih =>
    obtain ⟨hc, hrest⟩ := List.forall_mem_cons.mp alike
    rw [runsOf]
    cases rest with
    | nil => rfl
    | cons d rest =>
      rw [ih hrest (List.cons_ne_nil _ _)]
      have hd : d.isDigit = kind := hrest d List.mem_cons_self
      simp [hc, hd]

theorem readDigits_of_plain (plain : ∀ c ∈ text, c.isDigit = false) : readDigits text = none := by
  cases text with
  | nil => rfl
  | cons c rest =>
    have hc : c.isDigit = false := plain c List.mem_cons_self
    simp [readDigits, hc]

/-- A text without digits is no numeral. -/
theorem readNat_of_plain (plain : ∀ c ∈ text, c.isDigit = false) (limit : Nat) :
    readNat limit text = none := by
  unfold readNat
  dsimp only
  split
  · next rest =>
    have hrest : ∀ c ∈ rest, c.isDigit = false := fun c hc => plain c (List.mem_cons_of_mem _ hc)
    rw [readDigits_of_plain hrest, Option.filter_none]
  · rw [readDigits_of_plain plain, Option.filter_none]

theorem compareChunk_of_plain {a b : List Char} (ha : ∀ c ∈ a, c.isDigit = false) :
    compareChunk a b = compareChars a b := by
  rw [compareChunk, readNat_of_plain ha]

theorem compareChunks_runsOf_of_plain {a b : List Char} (ha : ∀ c ∈ a, c.isDigit = false)
    (hb : ∀ c ∈ b, c.isDigit = false) :
    compareChunks (runsOf a) (runsOf b) = compareChars a b := by
  cases a with
  | nil =>
    cases b with
    | nil => rfl
    | cons d b =>
      rw [runsOf_of_alike hb (List.cons_ne_nil d b)]
      rfl
  | cons c a =>
    rw [runsOf_of_alike ha (List.cons_ne_nil c a)]
    cases b with
    | nil => rfl
    | cons d b =>
      rw [runsOf_of_alike hb (List.cons_ne_nil d b), compareChunks, compareChunk_of_plain ha]
      exact Ordering.then_eq

/-- **Names without digits are compared as texts.** -/
theorem naturalCompare_eq_compareStrings (ha : ∀ c ∈ a.toList, c.isDigit = false)
    (hb : ∀ c ∈ b.toList, c.isDigit = false) : naturalCompare a b = compareStrings a b := by
  rw [naturalCompare, compareChunks_runsOf_of_plain ha hb]
  simp only [compareStrings, compareChars, compareOfLessAndEq, String.lt_iff, String.toList_inj]

end ServerMigration.Text
