import Mathlib.Data.List.NodupEquivFin
import Mathlib.Order.Basic
import ServerMigration.Proofs.Lifecycle.Places
import ServerMigration.Proofs.Results

/-!
# Lifecycles in order

A list of statuses is a lifecycle if it has any and repeats none.  The places of its statuses are
then the numbers below their number, one for each status, so that everything a lifecycle answers can
be answered for the places instead: a step is an addition, and the order of the statuses is that of
the numbers.

## Main definitions

* `StatusLifecycle.places` : the places of a lifecycle's statuses, one to one.
* `StatusLifecycle.linearOrder` : the order that they make of the statuses.
* `StatusLifecycle.Positional` : statuses are as good as their places.

## Main results

* `StatusLifecycle.firstRepeat_eq_some_iff` : which status is the first that repeats an earlier one.
* `StatusLifecycle.ofList_eq_ok_iff`, `StatusLifecycle.ofList_eq_error_iff` : which lists are
  lifecycles.
* `StatusLifecycle.offsetBy_eq_ok_iff` : a step is an addition of places.
* `StatusLifecycle.ofList_positional` : a lifecycle that is built goes by places.
-/

namespace ServerMigration.StatusLifecycle

variable {S : Type} [DecidableEq S]

/-! ### Building a lifecycle -/

section

variable {statuses seen : List S} {s : S}

theorem firstRepeat_cons_of_mem {t : S} (h : t ∈ seen) :
    firstRepeat seen (t :: statuses) = some t :=
  if_pos h

theorem firstRepeat_cons_of_notMem {t : S} (h : t ∉ seen) :
    firstRepeat seen (t :: statuses) = firstRepeat (t :: seen) statuses :=
  if_neg h

/-- Behind statuses that repeat none, one of them or of those seen before is the first repeat. -/
theorem firstRepeat_append {earlier later : List S} (hnodup : earlier.Nodup)
    (hnew : ∀ t ∈ earlier, t ∉ seen) (hs : s ∈ seen ∨ s ∈ earlier) :
    firstRepeat seen (earlier ++ s :: later) = some s := by
  -- Each step of the scan takes one status from those before over to those seen.
  induction earlier generalizing seen with
  | nil => exact firstRepeat_cons_of_mem (by simpa using hs)
  | cons t earlier ih =>
    obtain ⟨hnotMem, hnodup⟩ := List.nodup_cons.mp hnodup
    rw [List.cons_append, firstRepeat_cons_of_notMem (hnew t List.mem_cons_self)]
    apply ih hnodup
    · intro u hu hseen
      rcases List.mem_cons.mp hseen with rfl | hseen
      · exact hnotMem hu
      · exact hnew u (List.mem_cons_of_mem t hu) hseen
    · simp only [List.mem_cons] at hs ⊢
      tauto

/-- The first repeat stands behind statuses that repeat none, and is one of them or of those seen
before. -/
theorem exists_cut_of_firstRepeat (h : firstRepeat seen statuses = some s) :
    ∃ earlier later, statuses = earlier ++ s :: later ∧ earlier.Nodup
      ∧ (∀ t ∈ earlier, t ∉ seen) ∧ (s ∈ seen ∨ s ∈ earlier) := by
  induction statuses generalizing seen with
  | nil => cases h
  | cons t rest ih =>
    by_cases ht : t ∈ seen
    · rw [firstRepeat_cons_of_mem ht] at h
      obtain rfl := Option.some.inj h
      exact ⟨[], rest, rfl, List.nodup_nil, by simp, .inl ht⟩
    · rw [firstRepeat_cons_of_notMem ht] at h
      obtain ⟨earlier, later, rfl, hnodup, hnew, hs⟩ := ih h
      have hnotMem : t ∉ earlier := fun hmem => hnew t hmem List.mem_cons_self
      refine ⟨t :: earlier, later, rfl, List.nodup_cons.mpr ⟨hnotMem, hnodup⟩, ?_, ?_⟩
      · intro u hu
        rcases List.mem_cons.mp hu with rfl | hu
        · exact ht
        · exact fun hseen => hnew u hu (List.mem_cons_of_mem t hseen)
      · simp only [List.mem_cons] at hs ⊢
        tauto

/-- **The first repeat is the one behind a beginning without any.** -/
theorem firstRepeat_eq_some_iff :
    firstRepeat [] statuses = some s ↔
      ∃ earlier later, statuses = earlier ++ s :: later ∧ earlier.Nodup ∧ s ∈ earlier := by
  constructor
  · intro h
    obtain ⟨earlier, later, hcut, hnodup, -, hs⟩ := exists_cut_of_firstRepeat h
    exact ⟨earlier, later, hcut, hnodup, by simpa using hs⟩
  · rintro ⟨earlier, later, rfl, hnodup, hs⟩
    exact firstRepeat_append hnodup (fun _ _ => List.not_mem_nil) (.inr hs)

/-- A list has no repeat if its elements are distinct. -/
theorem firstRepeat_eq_none_iff : firstRepeat [] statuses = none ↔ statuses.Nodup := by
  constructor
  · intro h
    exact (firstRepeat_eq_none h).1
  · intro hnodup
    cases h : firstRepeat [] statuses with
    | none => rfl
    | some s =>
      obtain ⟨earlier, later, rfl, -, hs⟩ := firstRepeat_eq_some_iff.mp h
      exact absurd rfl ((List.nodup_append.mp hnodup).2.2 s hs s List.mem_cons_self)

variable [ToString S]

/-- **A list is a lifecycle if it has any statuses and repeats none.** -/
theorem ofList_eq_ok_iff {lifecycle : StatusLifecycle S} :
    ofList statuses = .ok lifecycle ↔
      statuses ≠ [] ∧ statuses.Nodup ∧ lifecycle.statuses = statuses := by
  unfold ofList
  split
  · next hnil => simp [hnil]
  · next hne =>
    split
    · next s hrepeat =>
      have hdup : ¬statuses.Nodup := by
        rw [← firstRepeat_eq_none_iff, hrepeat]
        simp
      simp [hdup]
    · next hnone =>
      have hnodup := firstRepeat_eq_none_iff.mp hnone
      constructor
      · intro h
        cases h
        exact ⟨hne, hnodup, rfl⟩
      · rintro ⟨-, -, rfl⟩
        rfl

/-- **An empty list is told from one with a repeat**, and of the repeats the first is named. -/
theorem ofList_eq_error_iff {error : LifecycleError} :
    ofList statuses = .error error ↔
      statuses = [] ∧ error = .empty
        ∨ ∃ earlier s later, statuses = earlier ++ s :: later ∧ earlier.Nodup ∧ s ∈ earlier
          ∧ error = .duplicateStatus (toString s) := by
  unfold ofList
  split
  · next hnil =>
    subst hnil
    simp [eq_comm]
  · next hne =>
    split
    · next s hrepeat =>
      simp only [Except.error.injEq, hne, false_and, false_or]
      constructor
      · rintro rfl
        obtain ⟨earlier, later, hstatuses, hnodup, hs⟩ := firstRepeat_eq_some_iff.mp hrepeat
        exact ⟨earlier, s, later, hstatuses, hnodup, hs, rfl⟩
      · rintro ⟨earlier, s', later, hstatuses, hnodup, hs, rfl⟩
        have hsame := firstRepeat_eq_some_iff.mpr ⟨earlier, later, hstatuses, hnodup, hs⟩
        rw [Option.some.inj (hrepeat.symm.trans hsame)]
    · next hnone =>
      simp only [reduceCtorEq, hne, false_and, false_or, false_iff]
      rintro ⟨earlier, s, later, hstatuses, hnodup, hs, -⟩
      have hrepeat := firstRepeat_eq_some_iff.mpr ⟨earlier, later, hstatuses, hnodup, hs⟩
      rw [hnone] at hrepeat
      cases hrepeat

end

/-! ### Steps -/

variable [ToString S] {lifecycle : StatusLifecycle S} {s t u : S} {i j : Nat}

theorem position_getElem (hi : i < lifecycle.statuses.length) :
    lifecycle.position lifecycle.statuses[i] = .ok i :=
  position_eq_ok_iff.mpr (List.getElem?_eq_getElem hi)

/-- What lies some steps away is the status whose place is that far away, if there is one. -/
theorem offsetBy_getElem (hi : i < lifecycle.statuses.length) (offset : Int) :
    lifecycle.offsetBy lifecycle.statuses[i] offset =
      if inside : 0 ≤ i + offset ∧ i + offset < lifecycle.statuses.length then
        .ok lifecycle.statuses[(i + offset).toNat]
      else .error (.invalidStatus (toString lifecycle.statuses[i]) offset) := by
  rw [offsetBy_eq_of_position (position_getElem hi)]
  by_cases inside : 0 ≤ i + offset ∧ i + offset < lifecycle.statuses.length
  · rw [dif_pos inside, if_pos inside.1, List.getElem?_eq_getElem (by omega)]
  · rw [dif_neg inside]
    by_cases hpos : 0 ≤ i + offset
    · rw [if_pos hpos, List.getElem?_eq_none (by omega)]
    · rw [if_neg hpos]

/-- **A step is an addition of places.** -/
theorem offsetBy_eq_ok_iff {offset : Int} :
    lifecycle.offsetBy s offset = .ok t ↔
      ∃ i j : Nat, lifecycle.position s = .ok i ∧ lifecycle.position t = .ok j
        ∧ (j : Int) = i + offset := by
  cases hs : lifecycle.position s with
  | error error =>
    have hfail : lifecycle.offsetBy s offset = .error error := by
      rw [offsetBy, hs]
      rfl
    simp [hfail]
  | ok i =>
    obtain ⟨hi, rfl⟩ := List.getElem?_eq_some_iff.mp (position_eq_ok_iff.mp hs)
    rw [offsetBy_getElem hi]
    constructor
    · intro h
      split at h
      · next inside =>
        cases h
        exact ⟨i, _, rfl, position_getElem (by omega), by omega⟩
      · cases h
    · -- The sum is a place, because a status stands there.
      rintro ⟨i', j, hi', hj, hsum⟩
      cases hi'
      obtain ⟨hlt, rfl⟩ := List.getElem?_eq_some_iff.mp (position_eq_ok_iff.mp hj)
      have htarget : (i + offset).toNat = j := by omega
      rw [dif_pos (by omega)]
      simp only [htarget]

/-- Steps add up as long as they stay inside the lifecycle. -/
theorem offsetBy_offsetBy {first : Int} (h : lifecycle.offsetBy s first = .ok t) (second : Int) :
    lifecycle.offsetBy t second = .ok u ↔ lifecycle.offsetBy s (first + second) = .ok u := by
  obtain ⟨i, j, hi, hj, hsum⟩ := offsetBy_eq_ok_iff.mp h
  rw [offsetBy_eq_ok_iff, offsetBy_eq_ok_iff]
  constructor
  · rintro ⟨j', k, hj', hk, hsum'⟩
    cases hj.symm.trans hj'
    exact ⟨i, k, hi, hk, by omega⟩
  · rintro ⟨i', k, hi', hk, hsum'⟩
    cases hi.symm.trans hi'
    exact ⟨j, k, hj, hk, by omega⟩

/-- A step forward is undone by a step back, and a step back by one forward. -/
theorem next_eq_ok_iff_previous : lifecycle.next s = .ok t ↔ lifecycle.previous t = .ok s := by
  unfold next previous
  rw [offsetBy_eq_ok_iff, offsetBy_eq_ok_iff]
  constructor
  · rintro ⟨i, j, hi, hj, hsum⟩
    exact ⟨j, i, hj, hi, by omega⟩
  · rintro ⟨j, i, hj, hi, hsum⟩
    exact ⟨i, j, hi, hj, by omega⟩

/-! ### The order of the statuses -/

theorem compare_eq_of_position (hs : lifecycle.position s = .ok i)
    (ht : lifecycle.position t = .ok j) : lifecycle.compare s t = .ok (Ord.compare i j) := by
  rw [compare, hs, ht]
  rfl

theorem reaches_eq_of_position (hs : lifecycle.position s = .ok i)
    (ht : lifecycle.position t = .ok j) : lifecycle.reaches s t = .ok (decide (j ≤ i)) := by
  rw [reaches, compare_eq_of_position hs ht]
  show Except.ok (decide (Ord.compare i j ≠ .lt)) = _
  simp [Nat.compare_eq_lt]

/-- A milestone is reached where its place is not behind. -/
theorem reaches_eq_ok_true_iff :
    lifecycle.reaches s t = .ok true ↔
      ∃ i j, lifecycle.position s = .ok i ∧ lifecycle.position t = .ok j ∧ j ≤ i := by
  constructor
  · intro h
    obtain ⟨order, hcompare, -⟩ := bind_eq_ok_iff.mp h
    obtain ⟨i, hi, hcompare⟩ := bind_eq_ok_iff.mp hcompare
    obtain ⟨j, hj, -⟩ := bind_eq_ok_iff.mp hcompare
    rw [reaches_eq_of_position hi hj] at h
    exact ⟨i, j, hi, hj, by simpa using h⟩
  · rintro ⟨i, j, hi, hj, hle⟩
    rw [reaches_eq_of_position hi hj, decide_eq_true hle]

/-! ### Going by places -/

variable (lifecycle)

/-- The places of a lifecycle's statuses. -/
def places : {s // s ∈ lifecycle.statuses} ≃ Fin lifecycle.statuses.length :=
  (lifecycle.nodup.getEquiv lifecycle.statuses).symm

omit [ToString S] in
@[simp] theorem places_symm (i : Fin lifecycle.statuses.length) :
    (lifecycle.places.symm i : S) = lifecycle.statuses[i] :=
  rfl

theorem position_eq_places (s : {s // s ∈ lifecycle.statuses}) :
    lifecycle.position s = .ok (lifecycle.places s) := by
  have hplace : lifecycle.statuses[lifecycle.places s] = s := by
    rw [← places_symm, Equiv.symm_apply_apply]
  rw [position_eq_ok_iff, List.getElem?_eq_getElem (lifecycle.places s).isLt]
  exact congrArg some hplace

/-- The order of the statuses by their places. -/
@[reducible] def linearOrder : LinearOrder {s // s ∈ lifecycle.statuses} :=
  LinearOrder.lift' (fun s => (lifecycle.places s : Nat))
    (Fin.val_injective.comp lifecycle.places.injective)

/-- Statuses are as good as their places. -/
structure Positional : Prop where
  /-- The places are the numbers below the number of statuses, one for each status. -/
  places : ∃ place : {s // s ∈ lifecycle.statuses} ≃ Fin lifecycle.statuses.length,
    (∀ s : {s // s ∈ lifecycle.statuses}, lifecycle.position s = .ok (place s))
      ∧ ∀ i, place.symm i = lifecycle.statuses[i]
  /-- A step is an addition, and leads nowhere if the sum is no place. -/
  offsetBy_eq : ∀ (i : Nat) (hi : i < lifecycle.statuses.length) (offset : Int),
    lifecycle.offsetBy lifecycle.statuses[i] offset =
      if inside : 0 ≤ i + offset ∧ i + offset < lifecycle.statuses.length then
        .ok lifecycle.statuses[(i + offset).toNat]
      else .error (.invalidStatus (toString lifecycle.statuses[i]) offset)
  /-- Steps add up as long as they stay inside the lifecycle. -/
  offsetBy_add : ∀ s t (first : Int), lifecycle.offsetBy s first = .ok t → ∀ second u,
    lifecycle.offsetBy t second = .ok u ↔ lifecycle.offsetBy s (first + second) = .ok u
  /-- A step forward is undone by a step back, and a step back by one forward. -/
  next_iff_previous : ∀ s t, lifecycle.next s = .ok t ↔ lifecycle.previous t = .ok s
  /-- Statuses are compared by their places. -/
  compare_eq : ∀ (i j : Nat) (hi : i < lifecycle.statuses.length)
    (hj : j < lifecycle.statuses.length),
    lifecycle.compare lifecycle.statuses[i] lifecycle.statuses[j] = .ok (Ord.compare i j)
  /-- That makes them a linear order. -/
  linear : ∃ _ : LinearOrder {s // s ∈ lifecycle.statuses}, ∀ s t : {s // s ∈ lifecycle.statuses},
    lifecycle.compare s t = .ok (Ord.compare s t) ∧ lifecycle.reaches s t = .ok (decide (t ≤ s))
  /-- Every status reaches itself. -/
  reaches_refl : ∀ s ∈ lifecycle.statuses, lifecycle.reaches s s = .ok true
  /-- What a status reaches that has been reached is reached. -/
  reaches_trans : ∀ s t u, lifecycle.reaches s t = .ok true → lifecycle.reaches t u = .ok true →
    lifecycle.reaches s u = .ok true
  /-- Of two statuses one reaches the other. -/
  reaches_total : ∀ s ∈ lifecycle.statuses, ∀ t ∈ lifecycle.statuses,
    lifecycle.reaches s t = .ok true ∨ lifecycle.reaches t s = .ok true

theorem positional : lifecycle.Positional where
  places := ⟨lifecycle.places, lifecycle.position_eq_places, lifecycle.places_symm⟩
  offsetBy_eq := fun _ => offsetBy_getElem
  offsetBy_add := fun _ _ _ h second _ => offsetBy_offsetBy h second
  next_iff_previous := fun _ _ => next_eq_ok_iff_previous
  compare_eq := fun _ _ hi hj => compare_eq_of_position (position_getElem hi) (position_getElem hj)
  linear := by
    refine ⟨lifecycle.linearOrder, fun s t => ?_⟩
    have hs := lifecycle.position_eq_places s
    have ht := lifecycle.position_eq_places t
    exact ⟨compare_eq_of_position hs ht, reaches_eq_of_position hs ht⟩
  reaches_refl := by
    intro s hs
    have hplace := lifecycle.position_eq_places ⟨s, hs⟩
    exact reaches_eq_ok_true_iff.mpr ⟨_, _, hplace, hplace, Nat.le_refl _⟩
  reaches_trans := by
    intro s t u hst htu
    obtain ⟨i, j, hi, hj, hle⟩ := reaches_eq_ok_true_iff.mp hst
    obtain ⟨j', k, hj', hk, hle'⟩ := reaches_eq_ok_true_iff.mp htu
    cases hj.symm.trans hj'
    exact reaches_eq_ok_true_iff.mpr ⟨i, k, hi, hk, Nat.le_trans hle' hle⟩
  reaches_total := by
    intro s hs t ht
    have hi := lifecycle.position_eq_places ⟨s, hs⟩
    have hj := lifecycle.position_eq_places ⟨t, ht⟩
    rcases Nat.le_total (lifecycle.places ⟨t, ht⟩) (lifecycle.places ⟨s, hs⟩) with hle | hle
    · exact .inl (reaches_eq_ok_true_iff.mpr ⟨_, _, hi, hj, hle⟩)
    · exact .inr (reaches_eq_ok_true_iff.mpr ⟨_, _, hj, hi, hle⟩)

/-- **A lifecycle that is built goes by places.**  A list is a lifecycle exactly if it has any
statuses and repeats none; otherwise it is refused as empty, or for the first status that repeats an
earlier one.  In the lifecycle, places are given to the statuses one to one, steps are additions of
places, and the order of the statuses is that of their places. -/
theorem ofList_positional (statuses : List S) :
    ((∃ lifecycle, ofList statuses = .ok lifecycle) ↔ statuses ≠ [] ∧ statuses.Nodup)
      ∧ (∀ error, ofList statuses = .error error ↔
        statuses = [] ∧ error = .empty
          ∨ ∃ earlier s later, statuses = earlier ++ s :: later ∧ earlier.Nodup ∧ s ∈ earlier
            ∧ error = .duplicateStatus (toString s))
      ∧ ∀ lifecycle, ofList statuses = .ok lifecycle →
        lifecycle.statuses = statuses ∧ lifecycle.Positional := by
  refine ⟨?_, fun error => ofList_eq_error_iff, fun lifecycle h => ?_⟩
  · constructor
    · rintro ⟨lifecycle, h⟩
      obtain ⟨hne, hnodup, -⟩ := ofList_eq_ok_iff.mp h
      exact ⟨hne, hnodup⟩
    · rintro ⟨hne, hnodup⟩
      exact ⟨⟨statuses, hne, hnodup⟩, ofList_eq_ok_iff.mpr ⟨hne, hnodup, rfl⟩⟩
  · exact ⟨(ofList_eq_ok_iff.mp h).2.2, lifecycle.positional⟩

/-- Three statuses with different names. -/
def threeStatuses : StatusLifecycle String :=
  ⟨["draft", "sync", "live"], by decide, by decide⟩

/-- Three statuses with different names are a lifecycle, which goes by places. -/
theorem threeStatuses_positional :
    ofList ["draft", "sync", "live"] = .ok threeStatuses
      ∧ threeStatuses.statuses = ["draft", "sync", "live"] ∧ threeStatuses.Positional := by
  have built : ofList ["draft", "sync", "live"] = .ok threeStatuses :=
    ofList_eq_ok_iff.mpr ⟨by decide, by decide, rfl⟩
  exact ⟨built, (ofList_positional _).2.2 _ built⟩

end ServerMigration.StatusLifecycle
