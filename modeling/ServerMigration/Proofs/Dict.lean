import ServerMigration.Dict

/-!
# The entries of a dictionary

A dictionary that is built by insertions is in key order, and so every entry of it is the one that
is found under its key.

## Main results

* `Dict.sorted_ofList` : a dictionary of some pairs is in key order.
* `Dict.mem_ofList` : its entries are among these pairs.
* `Dict.ofList_perm` : they are all of these pairs if no two of these have the same key.
* `Dict.Sorted.ofList_eq_of_perm` : a dictionary is made of its own entries, in any order.
* `Dict.Sorted.get?_of_mem` : every entry is found under its key.
-/

namespace ServerMigration.Dict

variable {α : Type} {dict : Dict α} {key : String} {value : α} {entry : String × α}

theorem mem_insert (h : entry ∈ insert key value dict) : entry = (key, value) ∨ entry ∈ dict := by
  induction dict with
  | nil => exact .inl (List.mem_singleton.mp h)
  | cons first rest ih =>
    obtain ⟨k, v⟩ := first
    rw [insert] at h
    split at h
    · exact List.mem_cons.mp h
    · split at h
      · exact (List.mem_cons.mp h).imp_right (List.mem_cons_of_mem _)
      · rcases List.mem_cons.mp h with rfl | h
        · exact .inr List.mem_cons_self
        · exact (ih h).imp_right (List.mem_cons_of_mem _)

theorem Sorted.insert (sorted : Sorted dict) : Sorted (insert key value dict) := by
  induction dict with
  | nil => exact List.pairwise_singleton _ _
  | cons first rest ih =>
    obtain ⟨k, v⟩ := first
    obtain ⟨hfirst, hrest⟩ := List.pairwise_cons.mp sorted
    rw [Dict.insert]
    split
    · next hlt =>
      refine List.pairwise_cons.mpr ⟨fun entry hmem => ?_, sorted⟩
      rcases List.mem_cons.mp hmem with rfl | hmem
      · exact hlt
      · exact String.lt_trans hlt (hfirst entry hmem)
    · next hge =>
      split
      · next hsame =>
        subst hsame
        exact List.pairwise_cons.mpr ⟨hfirst, hrest⟩
      · next hne =>
        have hgt : k < key := Std.lt_of_le_of_ne (String.not_lt.mp hge) (Ne.symm hne)
        refine List.pairwise_cons.mpr ⟨fun entry hmem => ?_, ih hrest⟩
        rcases mem_insert hmem with rfl | hmem
        · exact hgt
        · exact hfirst entry hmem

private theorem foldl_insert {pairs : List (String × α)} (sorted : Sorted dict) :
    Sorted (pairs.foldl (fun dict (key, value) => insert key value dict) dict)
      ∧ ∀ entry ∈ pairs.foldl (fun dict (key, value) => insert key value dict) dict,
          entry ∈ dict ∨ entry ∈ pairs := by
  induction pairs generalizing dict with
  | nil => exact ⟨sorted, fun _ hmem => .inl hmem⟩
  | cons pair pairs ih =>
    have hfirst : Sorted (insert pair.1 pair.2 dict) := sorted.insert
    obtain ⟨hsorted, hmem⟩ := ih hfirst
    refine ⟨hsorted, fun entry h => ?_⟩
    rcases hmem entry h with h | h
    · rcases mem_insert h with rfl | h
      · exact .inr List.mem_cons_self
      · exact .inl h
    · exact .inr (List.mem_cons_of_mem _ h)

/-- **A dictionary of some pairs is in key order.** -/
theorem sorted_ofList (pairs : List (String × α)) : Sorted (ofList pairs) :=
  (foldl_insert List.Pairwise.nil).1

/-- The entries of a dictionary of some pairs are among these. -/
theorem mem_ofList {pairs : List (String × α)} (h : entry ∈ ofList pairs) : entry ∈ pairs := by
  rcases (foldl_insert List.Pairwise.nil).2 entry h with h | h
  · exact absurd h List.not_mem_nil
  · exact h

theorem insert_perm (h : key ∉ keys dict) :
    (insert key value dict).Perm ((key, value) :: dict) := by
  induction dict with
  | nil => exact .refl _
  | cons first rest ih =>
    obtain ⟨k, v⟩ := first
    rw [keys, List.map_cons, List.mem_cons, not_or] at h
    obtain ⟨hne, hrest⟩ := h
    have hne : key ≠ k := hne
    rw [insert, if_neg hne]
    split
    · exact .refl _
    · exact ((ih hrest).cons (k, v)).trans (.swap _ _ _)

/-- **If no two pairs have the same key, the entries of the dictionary are the pairs.** -/
theorem ofList_perm {pairs : List (String × α)} (distinct : (pairs.map (·.1)).Nodup) :
    (ofList pairs).Perm pairs := by
  -- The fold is generalised: the dictionary so far stands beside the pairs that are left.
  have hfold : ∀ dict : Dict α, (keys dict ++ pairs.map (·.1)).Nodup →
      (pairs.foldl (fun dict (key, value) => insert key value dict) dict).Perm (dict ++ pairs) := by
    clear distinct
    induction pairs with
    | nil => exact fun dict _ => by rw [List.foldl_nil, List.append_nil]
    | cons pair pairs ih =>
      intro dict distinct
      obtain ⟨key, value⟩ := pair
      rw [List.map_cons] at distinct
      have hfresh : key ∉ keys dict := fun hmem =>
        (List.nodup_append.mp distinct).2.2 key hmem key List.mem_cons_self rfl
      have hinsert : (insert key value dict).Perm ((key, value) :: dict) := insert_perm hfresh
      have hkeys : (keys (insert key value dict)).Perm (key :: keys dict) := hinsert.map Prod.fst
      have hmoved : (keys (insert key value dict) ++ pairs.map (·.1)).Perm
          (keys dict ++ key :: pairs.map (·.1)) :=
        (hkeys.append_right _).trans List.perm_middle.symm
      refine (ih _ (hmoved.nodup_iff.mpr distinct)).trans ?_
      exact (hinsert.append_right pairs).trans List.perm_middle.symm
  exact hfold [] distinct

theorem Sorted.nodup_keys (sorted : Sorted dict) : (keys dict).Nodup := by
  refine List.pairwise_map.mpr (List.Pairwise.imp (fun {a b} hlt heq => ?_) sorted)
  exact String.lt_irrefl _ (heq ▸ hlt)

/-- **A dictionary in key order is made of its own entries, whatever order these come in.** -/
theorem Sorted.ofList_eq_of_perm (sorted : Sorted dict) {pairs : List (String × α)}
    (h : pairs.Perm dict) : ofList pairs = dict := by
  have distinct : (pairs.map (·.1)).Nodup := (h.map Prod.fst).nodup_iff.mpr sorted.nodup_keys
  refine List.Perm.eq_of_pairwise (fun a b _ _ hab hba => ?_) (sorted_ofList pairs) sorted
    ((ofList_perm distinct).trans h)
  exact absurd (String.lt_trans hab hba) (String.lt_irrefl _)

theorem Sorted.ofList_eq (sorted : Sorted dict) : ofList dict = dict :=
  sorted.ofList_eq_of_perm (.refl dict)

/-- **Every entry of a dictionary in key order is found under its key.** -/
theorem Sorted.get?_of_mem (sorted : Sorted dict) (h : (key, value) ∈ dict) :
    dict.get? key = some value := by
  induction dict with
  | nil => exact absurd h List.not_mem_nil
  | cons first rest ih =>
    obtain ⟨k, v⟩ := first
    obtain ⟨hfirst, hrest⟩ := List.pairwise_cons.mp sorted
    rw [get?, List.lookup_cons]
    rcases List.mem_cons.mp h with hsame | h
    · cases hsame
      simp
    · have hlt : k < key := hfirst _ h
      have hne : (key == k) = false := by
        refine beq_false_of_ne ?_
        rintro rfl
        exact String.lt_irrefl _ hlt
      rw [hne]
      exact ih hrest h

/-- What is found under a key is an entry. -/
theorem mem_of_get? (h : dict.get? key = some value) : (key, value) ∈ dict := by
  obtain ⟨before, after, rfl, -⟩ := List.lookup_eq_some_iff.mp h
  exact List.mem_append_right _ List.mem_cons_self

theorem ne_of_get?_eq_none {entry : String × α} (h : dict.get? key = none) (hmem : entry ∈ dict) :
    entry.1 ≠ key := by
  rintro rfl
  have hne := List.lookup_eq_none_iff.mp h entry hmem
  simp at hne

end ServerMigration.Dict
