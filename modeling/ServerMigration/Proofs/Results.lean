import Mathlib.Data.List.Forall2

/-!
# Results of computations that may fail

## Main results

* `bind_eq_ok_iff` : a computation in two parts succeeds if both parts do.
* `exists_mapM_eq_ok` : a computation for every element of a list succeeds if each one does.
* `forall₂_of_mapM_eq_ok`, `mem_iff_of_mapM_eq_ok` : its results are those for the elements.
-/

namespace ServerMigration

variable {ε ε' α β : Type}

theorem bind_eq_ok_iff {result : Except ε α} {next : α → Except ε β} {b : β} :
    (result >>= next) = .ok b ↔ ∃ a, result = .ok a ∧ next a = .ok b := by
  cases result with
  | error error =>
    constructor
    · intro h
      cases h
    · rintro ⟨a, ha, -⟩
      cases ha
  | ok a =>
    constructor
    · intro h
      exact ⟨a, rfl, h⟩
    · rintro ⟨a', ha, h⟩
      cases ha
      exact h

theorem pure_eq_ok_iff {a b : α} : (pure a : Except ε α) = .ok b ↔ a = b :=
  ⟨Except.ok.inj, congrArg Except.ok⟩

theorem mapError_eq_ok_iff {result : Except ε α} {f : ε → ε'} {a : α} :
    result.mapError f = .ok a ↔ result = .ok a := by
  cases result with
  | error error =>
    constructor
    · intro h
      cases h
    · intro h
      cases h
  | ok a' =>
    have hmap : (Except.ok a' : Except ε α).mapError f = .ok a' := rfl
    rw [hmap, Except.ok.injEq, Except.ok.injEq]

/-- **A computation for every element of a list succeeds if each one does.** -/
theorem exists_mapM_eq_ok {elements : List α} {f : α → Except ε β}
    (h : ∀ a ∈ elements, ∃ b, f a = .ok b) : ∃ results, elements.mapM f = .ok results := by
  induction elements with
  | nil => exact ⟨[], rfl⟩
  | cons a elements ih =>
    obtain ⟨b, hb⟩ := h a List.mem_cons_self
    obtain ⟨results, hresults⟩ := ih fun a ha => h a (List.mem_cons_of_mem _ ha)
    refine ⟨b :: results, ?_⟩
    rw [List.mapM_cons, hb]
    change (elements.mapM f >>= fun results => pure (b :: results)) = _
    rw [hresults]
    rfl

/-- **The results of a computation for every element of a list are those for the elements.** -/
theorem forall₂_of_mapM_eq_ok {elements : List α} {f : α → Except ε β} {results : List β}
    (h : elements.mapM f = .ok results) :
    List.Forall₂ (fun a b => f a = .ok b) elements results := by
  induction elements generalizing results with
  | nil =>
    cases h
    exact .nil
  | cons a elements ih =>
    rw [List.mapM_cons] at h
    obtain ⟨first, hfirst, h⟩ := bind_eq_ok_iff.mp h
    obtain ⟨rest, hrest, h⟩ := bind_eq_ok_iff.mp h
    cases h
    exact .cons hfirst (ih hrest)

theorem mem_iff_of_mapM_eq_ok {elements : List α} {f : α → Except ε β} {results : List β}
    (h : elements.mapM f = .ok results) {b : β} : b ∈ results ↔ ∃ a ∈ elements, f a = .ok b := by
  have hall := forall₂_of_mapM_eq_ok h
  clear h
  induction hall with
  | nil => simp
  | cons hfirst _ ih => simp [ih, hfirst, eq_comm]

end ServerMigration
