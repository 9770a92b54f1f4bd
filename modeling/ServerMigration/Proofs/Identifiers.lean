import Mathlib
import ServerMigration.Uuid

/-!
# Reading identifiers back

An identifier is read back from the five groups of digits that it is written as, so different
identifiers have different texts.

## Main results

* `Uuid.parse?_text` : the text of an identifier is read as that identifier.
* `Uuid.text_injective` : different identifiers have different texts.
-/

namespace ServerMigration

namespace Text

theorem hexValue?_hexDigit {n : Nat} (h : n < 16) : hexValue? (hexDigit n) = some n := by
  revert n
  decide

theorem hexDigit_ne_hyphen {n : Nat} (h : n < 16) : hexDigit n ≠ '-' := by
  revert n
  decide

end Text

namespace Uuid

theorem length_hexDigits (count n : Nat) : (hexDigits count n).length = count := by
  induction count with
  | zero => rfl
  | succ count ih => rw [hexDigits, List.length_cons, ih]

theorem hyphen_notMem_hexDigits (count n : Nat) : '-' ∉ hexDigits count n := by
  induction count with
  | zero => exact List.not_mem_nil
  | succ count ih =>
    rw [hexDigits]
    refine List.not_mem_cons_of_ne_of_not_mem (Ne.symm ?_) ih
    exact Text.hexDigit_ne_hyphen (Nat.mod_lt _ (by decide))

/-- The digits of a number are read as its lowest half-bytes. -/
theorem hexDigitsValue?_hexDigits (count n : Nat) :
    Text.hexDigitsValue? (hexDigits count n) = some (n % 16 ^ count) := by
  -- The value that stands in front of the digits is generalised.
  have hfrom : ∀ start, (hexDigits count n).foldlM
      (fun value d => (Text.hexValue? d).map (16 * value + ·)) start
        = some (start * 16 ^ count + n % 16 ^ count) := by
    induction count with
    | zero =>
      intro start
      simp [hexDigits, Nat.mod_one]
    | succ count ih =>
      intro start
      have hdigit := Text.hexValue?_hexDigit (n := n / 16 ^ count % 16) (Nat.mod_lt _ (by decide))
      rw [hexDigits, List.foldlM_cons]
      show (do let value ← (Text.hexValue? (Text.hexDigit (n / 16 ^ count % 16))).map _; _) = _
      rw [hdigit, Option.map_some, Option.bind_eq_bind, Option.bind_some, ih, Nat.mod_pow_succ,
        Nat.pow_succ]
      congr 1
      rw [Nat.add_mul, Nat.mul_comm 16 start, Nat.mul_assoc, Nat.mul_comm 16 (16 ^ count),
        Nat.mul_comm (n / 16 ^ count % 16)]
      omega
  rw [Text.hexDigitsValue?, hfrom 0, Nat.zero_mul, Nat.zero_add]

/-- Five groups of digits with hyphens between them. -/
theorem ofGroups?_join {a b c d e : List Char} (ha : a.length = 8) (hb : b.length = 4)
    (hc : c.length = 4) (hd : d.length = 4) (he : e.length = 12)
    (hyphen : '-' ∉ a ++ b ++ c ++ d ++ e) :
    ofGroups? (a ++ '-' :: b ++ '-' :: c ++ '-' :: d ++ '-' :: e)
      = ofDigits? (a ++ b ++ c ++ d ++ e) := by
  have hplaces : ([8, 13, 18, 23] : List Nat).all fun i =>
      (a ++ '-' :: b ++ '-' :: c ++ '-' :: d ++ '-' :: e)[i]? = some '-' := by
    simp [List.getElem?_append, List.getElem?_cons, ha, hb, hc, hd]
  have hkept : ∀ part, part ∈ [a, b, c, d, e] → part.filter (· ≠ '-') = part := by
    refine fun part hpart => List.filter_eq_self.mpr fun x hx => ?_
    have hne : x ≠ '-' := by
      rintro rfl
      simp only [List.mem_cons, List.not_mem_nil, or_false] at hpart
      rcases hpart with rfl | rfl | rfl | rfl | rfl
      all_goals exact hyphen (by simp [hx])
    simpa using hne
  have hfilter : (a ++ '-' :: b ++ '-' :: c ++ '-' :: d ++ '-' :: e).filter (· ≠ '-')
      = a ++ b ++ c ++ d ++ e := by
    simp only [List.filter_append, List.filter_cons, hkept a (by simp), hkept b (by simp),
      hkept c (by simp), hkept d (by simp), hkept e (by simp)]
    simp
  rw [ofGroups?, if_pos ⟨by simp [ha, hb, hc, hd, he], hplaces⟩, hfilter]

/-- **An identifier is read back from its text.** -/
theorem parse?_text (id : Uuid) : parse? id.text = some id := by
  have hlength := length_hexDigits 32 id.bits.toNat
  have hyphen := hyphen_notMem_hexDigits 32 id.bits.toNat
  have hvalue := hexDigitsValue?_hexDigits 32 id.bits.toNat
  rw [Nat.mod_eq_of_lt (a := id.bits.toNat) (b := 16 ^ 32) id.bits.isLt] at hvalue
  rw [parse?, text, String.toList_ofList]
  generalize hexDigits 32 id.bits.toNat = digits at hlength hyphen hvalue
  have hfour : ∀ n, (digits.drop n).take 4 ++ digits.drop (n + 4) = digits.drop n := fun n => by
    rw [← List.drop_drop, List.take_append_drop]
  have hcut : digits.take 8 ++ (digits.drop 8).take 4 ++ (digits.drop 12).take 4
      ++ (digits.drop 16).take 4 ++ digits.drop 20 = digits := by
    rw [List.append_assoc, hfour 16, List.append_assoc, hfour 12, List.append_assoc, hfour 8,
      List.take_append_drop]
  have hgroups := ofGroups?_join (a := digits.take 8) (b := (digits.drop 8).take 4)
    (c := (digits.drop 12).take 4) (d := (digits.drop 16).take 4) (e := digits.drop 20)
    (by simp [hlength]) (by simp [hlength]) (by simp [hlength]) (by simp [hlength])
    (by simp [hlength]) (by rwa [hcut])
  have hchars : (digits.take 8 ++ '-' :: (digits.drop 8).take 4 ++ '-' :: (digits.drop 12).take 4
      ++ '-' :: (digits.drop 16).take 4 ++ '-' :: digits.drop 20).length = 36 := by
    simp [hlength]
  rw [hcut] at hgroups
  rw [hchars, if_neg (by decide), if_neg (by simp), if_neg (by simp), hgroups, ofDigits?,
    if_pos hlength, hvalue, Option.map_some, BitVec.ofNat_toNat, BitVec.setWidth_eq]

theorem text_injective {a b : Uuid} (h : a.text = b.text) : a = b := by
  have hread : some a = some b := by rw [← parse?_text a, ← parse?_text b, h]
  exact Option.some.inj hread

end Uuid

end ServerMigration
