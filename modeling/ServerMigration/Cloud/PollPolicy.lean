import ServerMigration.Action

/-!
# Polling

An operation of the provider that takes its time is watched by fetching a value again and again,
at a fixed interval, until the value is accepted or the budget does not allow another interval.

## Main definitions

* `PollPolicy` : the interval and the budget.
* `poll` : fetches until a value is accepted.
-/

namespace ServerMigration

/-- The interval between two fetches, and the time that all of them may take. -/
structure PollPolicy where
  /-- The time between two fetches. -/
  interval : Duration := .ofSeconds 10
  /-- The budget. -/
  maxWait : Duration := .ofSeconds 1800
  deriving DecidableEq, Repr, Inhabited

/-- The number of fetches that fit into the budget: one at the start, and one for each interval.
Fetches without a pause between them use up no budget, and only their count limits them. -/
def PollPolicy.rounds (policy : PollPolicy) : Nat :=
  if policy.interval.nanoseconds = 0 then UInt16.size
  else policy.maxWait.nanoseconds / policy.interval.nanoseconds + 1

/-- Fetches at most `rounds` times until a value is accepted.  The clock read `start` when the
operation began. -/
def pollRounds {α : Type} (operation : String) (policy : PollPolicy)
    (fetch : Action (Except CloudError α)) (accepts : α → Except CloudError Bool)
    (start : Duration) : (rounds : Nat) → Action (Except CloudError α)
  | 0 => do
    let now ← Action.elapsed
    return .error (.timedOut operation ⟨now.nanoseconds - start.nanoseconds⟩)
  | rounds + 1 => do
    match ← fetch with
    | .error error => return .error error
    | .ok value =>
      match accepts value with
      | .error error => return .error error
      | .ok true => return .ok value
      | .ok false =>
        let now ← Action.elapsed
        let waited : Duration := ⟨now.nanoseconds - start.nanoseconds⟩
        if policy.maxWait < waited + policy.interval then
          return .error (.timedOut operation waited)
        Action.sleep policy.interval
        pollRounds operation policy fetch accepts start rounds

/-- Fetches a value until it is accepted.  A fetch that fails, or a value that is refused, ends the
operation at once. -/
def poll {α : Type} (operation : String) (policy : PollPolicy)
    (fetch : Action (Except CloudError α)) (accepts : α → Except CloudError Bool) :
    Action (Except CloudError α) := do
  let start ← Action.elapsed
  pollRounds operation policy fetch accepts start policy.rounds

end ServerMigration
