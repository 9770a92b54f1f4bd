/-!
# Lifecycles

A lifecycle is a fixed sequence of distinct statuses.  It answers what lies some steps away from a
status, and compares statuses by their places.

## Main definitions

* `StatusLifecycle` : the sequence.
* `StatusLifecycle.ofList` : checks that a list is one.
* `StatusLifecycle.position`, `StatusLifecycle.offsetBy` : places.
-/

namespace ServerMigration

/-- Why a lifecycle cannot be built or asked. -/
inductive LifecycleError
  /-- There is no status. -/
  | empty
  /-- A status stands twice. -/
  | duplicateStatus (status : String)
  /-- A step leads out of the lifecycle. -/
  | invalidStatus (status : String) (offset : Int)
  /-- A status is none of the lifecycle's. -/
  | unknownStatus (status : String)
  deriving DecidableEq, Repr, Inhabited

/-- The name of an error's kind. -/
def LifecycleError.kind : LifecycleError → String
  | empty => "Empty"
  | duplicateStatus _ => "DuplicateStatus"
  | invalidStatus .. => "InvalidStatus"
  | unknownStatus _ => "UnknownStatus"

/-- The text of an error. -/
def LifecycleError.message : LifecycleError → String
  | empty => "Status lifecycle must contain at least one status"
  | duplicateStatus status => s!"Status lifecycle contains duplicate status: {status}"
  | invalidStatus status offset =>
    s!"Invalid status: offset {offset} from '" ++ status ++ "' is outside the lifecycle"
  | unknownStatus status => "Unknown status: '" ++ status ++ "' is not part of the lifecycle"

/-- A sequence of distinct statuses, at least one. -/
structure StatusLifecycle (S : Type) where
  /-- The statuses in order. -/
  statuses : List S
  /-- There is at least one. -/
  ne_nil : statuses ≠ []
  /-- No status stands twice. -/
  nodup : statuses.Nodup

namespace StatusLifecycle

variable {S : Type} [DecidableEq S]

/-- The first element that is among `seen` or repeats an earlier one. -/
def firstRepeat (seen : List S) : List S → Option S
  | [] => none
  | s :: rest => if s ∈ seen then some s else firstRepeat (s :: seen) rest

theorem firstRepeat_eq_none {seen statuses : List S} (h : firstRepeat seen statuses = none) :
    statuses.Nodup ∧ ∀ s ∈ statuses, s ∉ seen := by
  induction statuses generalizing seen with
  | nil => simp
  | cons s rest ih =>
    by_cases hs : s ∈ seen
    · simp [firstRepeat, hs] at h
    · obtain ⟨hnd, hd⟩ := ih (by simpa [firstRepeat, hs] using h)
      refine ⟨List.nodup_cons.2 ⟨fun hmem => hd s hmem (by simp), hnd⟩, ?_⟩
      intro t ht
      rcases List.mem_cons.1 ht with rfl | ht
      · exact hs
      · exact fun hseen => hd t ht (by simp [hseen])

variable [ToString S]

/-- The lifecycle of a list of statuses. -/
def ofList (statuses : List S) : Except LifecycleError (StatusLifecycle S) :=
  if ne_nil : statuses = [] then .error .empty
  else match h : firstRepeat [] statuses with
    | some s => .error (.duplicateStatus (toString s))
    | none => .ok ⟨statuses, ne_nil, (firstRepeat_eq_none h).1⟩

/-- The first status. -/
def first (lifecycle : StatusLifecycle S) : S := lifecycle.statuses.head lifecycle.ne_nil

/-- The final status. -/
def last (lifecycle : StatusLifecycle S) : S := lifecycle.statuses.getLast lifecycle.ne_nil

/-- Whether a status is one of the lifecycle's. -/
def contains (lifecycle : StatusLifecycle S) (s : S) : Bool := lifecycle.statuses.contains s

/-- Whether a status is the final one. -/
def isTerminal (lifecycle : StatusLifecycle S) (s : S) : Bool := lifecycle.last = s

/-- The place of a status, counted from zero. -/
def position (lifecycle : StatusLifecycle S) (s : S) : Except LifecycleError Nat :=
  match lifecycle.statuses.idxOf? s with
  | some i => .ok i
  | none => .error (.unknownStatus (toString s))

/-- The status some steps away. -/
def offsetBy (lifecycle : StatusLifecycle S) (s : S) (offset : Int) : Except LifecycleError S := do
  let target : Int := (← lifecycle.position s) + offset
  match if 0 ≤ target then lifecycle.statuses[target.toNat]? else none with
  | some t => return t
  | none => throw (.invalidStatus (toString s) offset)

/-- The next status. -/
def next (lifecycle : StatusLifecycle S) (s : S) : Except LifecycleError S :=
  lifecycle.offsetBy s 1

/-- The status before. -/
def previous (lifecycle : StatusLifecycle S) (s : S) : Except LifecycleError S :=
  lifecycle.offsetBy s (-1)

/-- The order of two statuses by their places. -/
def compare (lifecycle : StatusLifecycle S) (a b : S) : Except LifecycleError Ordering :=
  return Ord.compare (← lifecycle.position a) (← lifecycle.position b)

/-- Whether a status is at a milestone or beyond it. -/
def reaches (lifecycle : StatusLifecycle S) (current milestone : S) :
    Except LifecycleError Bool :=
  return (← lifecycle.compare current milestone) ≠ .lt

end StatusLifecycle

end ServerMigration
