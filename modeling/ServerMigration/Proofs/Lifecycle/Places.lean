import ServerMigration.Lifecycle.StatusLifecycle

/-!
# Places in a lifecycle

A status of a lifecycle cuts it in two: the statuses before it and those behind it.  What the
lifecycle answers about the status can be read off that cut.

## Main results

* `StatusLifecycle.position_eq_ok_iff` : the place of a status is where it stands.
* `StatusLifecycle.offsetBy_eq_of_position` : what lies some steps away.
* `StatusLifecycle.next_of_cut` : what comes next.
* `StatusLifecycle.isTerminal_of_cut` : a status is final if nothing stands behind it.
-/

namespace ServerMigration.StatusLifecycle

variable {S : Type} {lifecycle : StatusLifecycle S} {earlier later : List S} {s t : S}

/-- No status stands behind itself. -/
theorem notMem_later_of_cut (h : lifecycle.statuses = earlier ++ s :: later) : s ∉ later := by
  have hnodup := lifecycle.nodup
  rw [h] at hnodup
  exact (List.nodup_cons.mp (List.nodup_append.mp hnodup).2.1).1

variable [DecidableEq S] [ToString S]

/-- **The place of a status is where it stands.** -/
theorem position_eq_ok_iff {i : Nat} :
    lifecycle.position s = .ok i ↔ lifecycle.statuses[i]? = some s := by
  have hplace : lifecycle.statuses.idxOf? s = some i ↔ lifecycle.statuses[i]? = some s := by
    rw [List.idxOf?_eq_some_iff, List.getElem?_eq_some_iff]
    constructor
    · rintro ⟨hi, hs, -⟩
      exact ⟨hi, hs⟩
    · rintro ⟨hi, rfl⟩
      refine ⟨hi, rfl, fun j hj hsame => ?_⟩
      have := (List.getElem_inj lifecycle.nodup).mp hsame
      omega
  rw [← hplace, position]
  cases lifecycle.statuses.idxOf? s <;> simp

theorem position_of_cut (h : lifecycle.statuses = earlier ++ s :: later) :
    lifecycle.position s = .ok earlier.length := by
  rw [position_eq_ok_iff, h]
  simp

/-- What lies some steps away stands that many places away. -/
theorem offsetBy_eq_of_position {i : Nat} (h : lifecycle.position s = .ok i) (offset : Int) :
    lifecycle.offsetBy s offset =
      match if 0 ≤ i + offset then lifecycle.statuses[(i + offset).toNat]? else none with
      | some t => .ok t
      | none => .error (.invalidStatus (toString s) offset) := by
  rw [offsetBy, h]
  rfl

/-- What comes next stands one place behind. -/
theorem next_eq_of_position {i : Nat} (h : lifecycle.position s = .ok i) :
    lifecycle.next s =
      match lifecycle.statuses[i + 1]? with
      | some t => .ok t
      | none => .error (.invalidStatus (toString s) 1) := by
  have htarget : ((i : Int) + 1).toNat = i + 1 := by omega
  have hpos : (0 : Int) ≤ i + 1 := by omega
  rw [next, offsetBy_eq_of_position h, if_pos hpos, htarget]

/-- What comes next is one of the lifecycle's statuses. -/
theorem mem_of_next (h : lifecycle.next s = .ok t) : t ∈ lifecycle.statuses := by
  cases hplace : lifecycle.position s with
  | error error =>
    rw [next, offsetBy, hplace] at h
    cases h
  | ok i =>
    rw [next_eq_of_position hplace] at h
    cases hnext : lifecycle.statuses[i + 1]? with
    | none =>
      rw [hnext] at h
      cases h
    | some u =>
      rw [hnext] at h
      cases h
      exact List.mem_of_getElem? hnext

theorem next_of_cut (h : lifecycle.statuses = earlier ++ s :: t :: later) :
    lifecycle.next s = .ok t := by
  rw [next_eq_of_position (position_of_cut h), h]
  simp

omit [DecidableEq S] [ToString S] in
theorem last_of_cut (h : lifecycle.statuses = earlier ++ s :: later) :
    lifecycle.last = (s :: later).getLast (List.cons_ne_nil s later) := by
  simp only [last, h, List.getLast_append_of_ne_nil _ (List.cons_ne_nil s later)]

omit [ToString S] in
/-- **A status is final if nothing stands behind it.** -/
theorem isTerminal_of_cut (h : lifecycle.statuses = earlier ++ s :: later) :
    lifecycle.isTerminal s = later.isEmpty := by
  have hlast := last_of_cut h
  cases later with
  | nil => simp [isTerminal, hlast]
  | cons t later =>
    have hmem : lifecycle.last ∈ t :: later := by
      rw [hlast, List.getLast_cons (List.cons_ne_nil t later)]
      exact List.getLast_mem _
    have hne : lifecycle.last ≠ s := fun hs => notMem_later_of_cut h (hs ▸ hmem)
    simpa [isTerminal] using hne

end ServerMigration.StatusLifecycle
