import ServerMigration.StableSort

/-!
# What stable sorting does

A list that is sorted by a comparison has the elements of the list and ascends.

## Main results

* `stableSort_perm` : the elements stay.
* `stableSort_congr` : the comparison matters on these elements only.
* `stableSort_pairwise` : the result ascends.
* `stableSort_pairwise_lt` : if no two keys are the same it ascends strictly.
* `eq_of_perm_of_pairwise_lt` : a list that ascends strictly is determined by its elements.
-/

namespace ServerMigration

variable {α : Type}

theorem insertSorted_perm (order : α → α → Ordering) (x : α) (ys : List α) :
    (insertSorted order x ys).Perm (x :: ys) := by
  induction ys with
  | nil => exact .refl _
  | cons y ys ih =>
    rw [insertSorted]
    split
    · exact .refl _
    · exact (ih.cons y).trans (.swap x y ys)

theorem stableSort_perm (order : α → α → Ordering) (xs : List α) :
    (stableSort order xs).Perm xs := by
  -- The fold is generalised: what has been sorted so far stands beside what is left.
  have hfold : ∀ sorted : List α,
      (xs.foldl (fun sorted x => insertSorted order x sorted) sorted).Perm (sorted ++ xs) := by
    induction xs with
    | nil => exact fun sorted => by rw [List.foldl_nil, List.append_nil]
    | cons x xs ih =>
      intro sorted
      refine (ih _).trans (((insertSorted_perm order x sorted).append_right xs).trans ?_)
      exact List.perm_middle.symm
  exact hfold []

theorem insertSorted_congr {order order' : α → α → Ordering} {x : α} {ys : List α}
    (h : ∀ y ∈ ys, order x y = order' x y) :
    insertSorted order x ys = insertSorted order' x ys := by
  induction ys with
  | nil => rfl
  | cons y ys ih =>
    obtain ⟨hy, hys⟩ := List.forall_mem_cons.mp h
    rw [insertSorted, insertSorted, hy, ih hys]

/-- **Two comparisons that agree on the elements of a list sort it in the same way.** -/
theorem stableSort_congr {order order' : α → α → Ordering} {xs : List α}
    (h : ∀ x ∈ xs, ∀ y ∈ xs, order x y = order' x y) :
    stableSort order xs = stableSort order' xs := by
  have hfold : ∀ sorted : List α, (∀ x ∈ xs, ∀ y ∈ sorted ++ xs, order x y = order' x y) →
      xs.foldl (fun sorted x => insertSorted order x sorted) sorted
        = xs.foldl (fun sorted x => insertSorted order' x sorted) sorted := by
    clear h
    induction xs with
    | nil => exact fun _ _ => rfl
    | cons x xs ih =>
      intro sorted h
      have hinsert : insertSorted order x sorted = insertSorted order' x sorted :=
        insertSorted_congr fun y hy => h x List.mem_cons_self y (List.mem_append_left _ hy)
      rw [List.foldl_cons, List.foldl_cons, hinsert]
      refine ih _ fun y hy z hz => h y (List.mem_cons_of_mem _ hy) z ?_
      have hmoved : (insertSorted order' x sorted ++ xs).Perm (sorted ++ x :: xs) :=
        ((insertSorted_perm order' x sorted).append_right xs).trans List.perm_middle.symm
      exact hmoved.mem_iff.mp hz
  exact hfold [] h

section

variable {order : α → α → Ordering} [Std.TransCmp order]

theorem insertSorted_pairwise (x : α) {ys : List α}
    (h : ys.Pairwise fun a b => (order a b).isLE) :
    (insertSorted order x ys).Pairwise fun a b => (order a b).isLE := by
  induction ys with
  | nil => exact List.pairwise_singleton _ x
  | cons y ys ih =>
    obtain ⟨hy, hys⟩ := List.pairwise_cons.mp h
    rw [insertSorted]
    split
    · next hlt =>
      refine List.pairwise_cons.mpr ⟨fun z hz => ?_, h⟩
      have hxy : (order x y).isLE := by rw [hlt]; rfl
      rcases List.mem_cons.mp hz with rfl | hz
      · exact hxy
      · exact Std.TransCmp.isLE_trans hxy (hy z hz)
    · next hnot =>
      refine List.pairwise_cons.mpr ⟨fun z hz => ?_, ih hys⟩
      rcases List.mem_cons.mp ((insertSorted_perm order x ys).mem_iff.mp hz) with rfl | hz
      · exact Std.OrientedCmp.isLE_of_isGE (Ordering.isGE_iff_ne_lt.mpr hnot)
      · exact hy z hz

/-- **The result of sorting ascends.** -/
theorem stableSort_pairwise (xs : List α) :
    (stableSort order xs).Pairwise fun a b => (order a b).isLE := by
  have hfold : ∀ sorted : List α, (sorted.Pairwise fun a b => (order a b).isLE) →
      (xs.foldl (fun sorted x => insertSorted order x sorted) sorted).Pairwise
        fun a b => (order a b).isLE := by
    induction xs with
    | nil => exact fun sorted h => h
    | cons x xs ih => exact fun sorted h => ih _ (insertSorted_pairwise x h)
  exact hfold [] .nil

end

/-! ### Sorting by names -/

section

variable {key : α → String}

instance : Std.TransCmp fun a b => compareStrings (key a) (key b) :=
  inferInstanceAs (Std.TransCmp (compareOn key))

theorem compareStrings_isLE_iff {a b : String} :
    (compareStrings a b).isLE ↔ a < b ∨ a = b := by
  rw [Ordering.isLE_iff_eq_lt_or_eq_eq]
  have heq : compare a b = .eq ↔ a = b := Std.LawfulEqOrd.compare_eq_iff_eq
  exact or_congr compareOfLessAndEq_eq_lt heq

/-- **If no two elements have the same key, sorting by the key ascends strictly.** -/
theorem stableSort_pairwise_lt {xs : List α} (h : (xs.map key).Nodup) :
    (stableSort (fun a b => compareStrings (key a) (key b)) xs).Pairwise
      fun a b => key a < key b := by
  have hperm := stableSort_perm (fun a b => compareStrings (key a) (key b)) xs
  have hdistinct := List.pairwise_map.mp ((hperm.map key).nodup_iff.mpr h)
  have hsorted : (stableSort (fun a b => compareStrings (key a) (key b)) xs).Pairwise
      fun a b => (compareStrings (key a) (key b)).isLE := stableSort_pairwise xs
  refine (hsorted.and hdistinct).imp fun {a b} hab => ?_
  exact (compareStrings_isLE_iff.mp hab.1).resolve_right hab.2

/-- A list that ascends strictly is determined by its elements. -/
theorem eq_of_perm_of_pairwise_lt {xs ys : List α} (hxs : xs.Pairwise fun a b => key a < key b)
    (hys : ys.Pairwise fun a b => key a < key b) (hperm : xs.Perm ys) : xs = ys := by
  refine List.Perm.eq_of_pairwise (fun a b _ _ hab hba => ?_) hxs hys hperm
  exact absurd (String.lt_trans hab hba) (String.lt_irrefl _)

end

end ServerMigration
