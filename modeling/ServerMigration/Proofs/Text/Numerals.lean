import Mathlib.Data.List.Induction
import ServerMigration.Text.Numeral

/-!
# Reading numerals back

A number is read back from its decimal digits, of which the first one is zero only for zero, and
from its hexadecimal ones.

## Main results

* `Text.readDigits_toDigits`, `Text.readNat_toDigits` : a number by its digits.
* `Text.eq_of_digitsValue_eq` : the digits by their number and their length.
* `Text.takeWhile_digits` : where digits end.
* `Text.eq_zero_of_head?_toDigits` : there is no superfluous zero.
* `Text.readHex_toDigits` : a number by its hexadecimal digits.
-/

namespace ServerMigration.Text

theorem digitsValue_toDigits (n : Nat) : digitsValue (Nat.toDigits 10 n) = n := by
  rw [digitsValue, ← Nat.ofDigitChars_eq_foldl]
  exact Nat.ofDigitChars_ten_toDigits

theorem all_isDigit_toDigits (n : Nat) : (Nat.toDigits 10 n).all Char.isDigit :=
  List.all_eq_true.mpr fun _ hc => Nat.isDigit_of_mem_toDigits (by decide) (by decide) hc

theorem readDigits_of_digits {digits : List Char} (hne : digits ≠ [])
    (hdigits : digits.all Char.isDigit) : readDigits digits = some (digitsValue digits) := by
  have hnonempty : digits.isEmpty = false := List.isEmpty_eq_false_iff.mpr hne
  rw [readDigits, hnonempty, hdigits]
  rfl

theorem readDigits_toDigits (n : Nat) : readDigits (Nat.toDigits 10 n) = some n := by
  rw [readDigits_of_digits Nat.toDigits_ne_nil (all_isDigit_toDigits n), digitsValue_toDigits]

/-- Digits end where a character stands that is none. -/
theorem takeWhile_digits {digits rest : List Char} (hdigits : digits.all Char.isDigit)
    (hend : rest.head?.all (!Char.isDigit ·)) :
    (digits ++ rest).takeWhile Char.isDigit = digits
      ∧ (digits ++ rest).dropWhile Char.isDigit = rest := by
  rw [List.takeWhile_append_of_pos (List.all_eq_true.mp hdigits),
    List.dropWhile_append_of_pos (List.all_eq_true.mp hdigits)]
  cases rest with
  | nil => exact ⟨List.append_nil _, rfl⟩
  | cons c rest =>
    have hc : ¬ c.isDigit := by simpa using hend
    rw [List.takeWhile_cons_of_neg hc, List.dropWhile_cons_of_neg hc]
    exact ⟨List.append_nil _, rfl⟩

theorem eq_of_toString_eq {m n : Nat} (h : toString m = toString n) : m = n := by
  rw [Nat.toString_eq_ofList_toDigits, Nat.toString_eq_ofList_toDigits, String.ofList_inj] at h
  have hread : some m = some n := by
    rw [← readDigits_toDigits m, ← readDigits_toDigits n, h]
  exact Option.some.inj hread

/-- A run of digits is read unless its number reaches the bound. -/
theorem readNat_of_digits {digits : List Char} (hne : digits ≠ [])
    (hdigits : digits.all Char.isDigit) (limit : Nat) :
    readNat limit digits = (some (digitsValue digits)).filter (· < limit) := by
  have hread := readDigits_of_digits hne hdigits
  cases digits with
  | nil => exact absurd rfl hne
  | cons c rest =>
    have hdigit : c.isDigit := List.all_eq_true.mp hdigits c List.mem_cons_self
    have hsign : c ≠ '+' := by
      rintro rfl
      exact absurd hdigit (by decide)
    rw [readNat]
    · rw [hread]
    · rintro rest' hplus
      exact hsign (List.cons.inj hplus).1

/-- A number below the bound is read back from its decimal digits. -/
theorem readNat_toDigits {limit n : Nat} (h : n < limit) :
    readNat limit (Nat.toDigits 10 n) = some n := by
  rw [readNat_of_digits Nat.toDigits_ne_nil (all_isDigit_toDigits n), digitsValue_toDigits,
    Option.filter_some, if_pos (by simpa using h)]

theorem digitsValue_concat (digits : List Char) (d : Char) :
    digitsValue (digits ++ [d]) = 10 * digitsValue digits + (d.toNat - '0'.toNat) := by
  simp [digitsValue]

theorem isDigit_iff {c : Char} : c.isDigit ↔ '0'.toNat ≤ c.toNat ∧ c.toNat ≤ '9'.toNat := by
  simp [Char.isDigit, UInt32.le_iff_toNat_le]

/-- **Numerals of the same length that denote the same number are the same.** -/
theorem eq_of_digitsValue_eq {digits others : List Char} (hdigits : digits.all Char.isDigit)
    (hothers : others.all Char.isDigit) (hlength : digits.length = others.length)
    (h : digitsValue digits = digitsValue others) : digits = others := by
  induction digits using List.reverseRecOn generalizing others with
  | nil => exact (List.eq_nil_of_length_eq_zero hlength.symm).symm
  | append_singleton digits d ih =>
    rcases List.eq_nil_or_concat others with rfl | ⟨others, e, rfl⟩
    · simp at hlength
    · rw [List.concat_eq_append] at *
      rw [digitsValue_concat, digitsValue_concat] at h
      simp only [List.all_append, List.all_cons, List.all_nil, Bool.and_true,
        Bool.and_eq_true] at hdigits hothers
      have hd := isDigit_iff.mp hdigits.2
      have he := isDigit_iff.mp hothers.2
      have hnine : '9'.toNat = '0'.toNat + 9 := rfl
      have hlast : d = e := Char.toNat_inj.mp (by omega)
      rw [ih hdigits.1 hothers.1 (by simpa using hlength) (by omega), hlast]

/-- Only zero is written with a zero in front. -/
theorem eq_zero_of_head?_toDigits {n : Nat} (h : (Nat.toDigits 10 n).head? = some '0') :
    n = 0 := by
  induction n using Nat.strongRecOn with
  | _ n ih =>
    by_cases hn : n < 10
    · rw [Nat.toDigits_of_lt_base hn] at h
      clear ih
      revert h
      revert n
      decide
    · have hhead : (Nat.toDigits 10 (n / 10)).head? = some '0' := by
        rw [Nat.toDigits_of_base_le (by decide) (by omega), List.head?_append] at h
        have hne : Nat.toDigits 10 (n / 10) ≠ [] := Nat.toDigits_ne_nil
        rwa [List.head?_eq_some_head hne] at h ⊢
      have hzero := ih (n / 10) (by omega) hhead
      omega

/-! ### Hexadecimal digits -/

theorem exists_eq_digitChar_of_mem_toDigits {n : Nat} {c : Char} (h : c ∈ Nat.toDigits 16 n) :
    ∃ d < 16, c = Nat.digitChar d := by
  induction n using Nat.strongRecOn with
  | _ n ih =>
    by_cases hn : n < 16
    · rw [Nat.toDigits_of_lt_base hn] at h
      exact ⟨n, hn, List.mem_singleton.mp h⟩
    · rw [Nat.toDigits_of_base_le (by decide) (by omega)] at h
      rcases List.mem_append.mp h with h | h
      · exact ih (n / 16) (by omega) h
      · exact ⟨n % 16, Nat.mod_lt n (by decide), List.mem_singleton.mp h⟩

theorem hexDigitsValue?_toDigits (n : Nat) : hexDigitsValue? (Nat.toDigits 16 n) = some n := by
  have hdigit : ∀ d < 16, hexValue? (Nat.digitChar d) = some d := by decide
  induction n using Nat.strongRecOn with
  | _ n ih =>
    by_cases hn : n < 16
    · rw [Nat.toDigits_of_lt_base hn]
      simp [hexDigitsValue?, hdigit n hn]
    · have hfirst : hexDigitsValue? (Nat.toDigits 16 (n / 16)) = some (n / 16) :=
        ih (n / 16) (by omega)
      have hlast := hdigit (n % 16) (Nat.mod_lt n (by decide))
      rw [hexDigitsValue?] at hfirst
      rw [Nat.toDigits_of_base_le (by decide) (by omega), hexDigitsValue?, List.foldlM_append,
        hfirst]
      simp [hlast, Nat.div_add_mod]

/-- A number below the bound is read back from its hexadecimal digits. -/
theorem readHex_toDigits {limit n : Nat} (h : n < limit) :
    readHex limit (Nat.toDigits 16 n) = some n := by
  have hsign : ∀ rest, Nat.toDigits 16 n ≠ '+' :: rest := by
    intro rest heq
    obtain ⟨d, hd, hplus⟩ := exists_eq_digitChar_of_mem_toDigits (heq ▸ List.mem_cons_self)
    revert hplus
    revert d
    decide
  have hnonempty : (Nat.toDigits 16 n).isEmpty = false :=
    List.isEmpty_eq_false_iff.mpr Nat.toDigits_ne_nil
  rw [readHex]
  · simp [hnonempty, hexDigitsValue?_toDigits, h]
  · exact hsign

end ServerMigration.Text
