import ServerMigration.Proofs.Cloud.Operations

/-!
# How a poll spends its budget

A poll fetches, sleeps for its interval and fetches again until a value is accepted, something
fails, or the budget does not allow another interval.  Time passes while questions are answered, and
every sleep lasts at least as long as it was asked for; so the budget alone ends the poll, and the
number of rounds that bounds its recursion is never what does.

## Main definitions

* `Clocked` : the readings of the clock are right.
* `Fetch` : a fetch of a poll.
* `Polls` : what a poll asks and how it ends, without a bound on its rounds.

## Main results

* `polls_of_rounds` : a poll runs like one without a bound on its rounds.
* `poll_ends` : a poll comes to an end, whatever is fetched.
* `poll_within_budget` : how many fetches a poll makes and when, and how it ends.
-/

namespace ServerMigration

open Program

variable {α : Type}

/-! ### Time -/

namespace Duration

@[simp] theorem nanoseconds_add (a b : Duration) :
    (a + b).nanoseconds = a.nanoseconds + b.nanoseconds :=
  rfl

theorem not_lt {a b : Duration} : ¬a < b ↔ b ≤ a := Nat.not_lt

theorem le_of_eq {a b : Duration} (h : a = b) : a ≤ b := h ▸ Nat.le_refl _

/-- The time that has passed from one reading of the clock to another. -/
def since (now start : Duration) : Duration := ⟨now.nanoseconds - start.nanoseconds⟩

@[simp] theorem nanoseconds_since (now start : Duration) :
    (now.since start).nanoseconds = now.nanoseconds - start.nanoseconds :=
  rfl

end Duration

/-- Questions about the clock or to it. -/
def Site.Ask.Timed : Site.Ask → Prop
  | .elapsed | .sleep _ => True
  | _ => False

/-- The clock is read right in the course of these questions, which take it from one time to
another.  Reading it takes no time; `lasts` says how long a sleep may last; any other question is
answered after any time. -/
inductive Clocked (lasts : (asked slept : Duration) → Prop) :
    Duration → List (Exchange Site.Ask Site.Answer) → Duration → Prop
  | nil (now : Duration) : Clocked lasts now [] now
  | read {now later : Duration} {trace : List (Exchange Site.Ask Site.Answer)}
      (onward : Clocked lasts now trace later) : Clocked lasts now (⟨.elapsed, now⟩ :: trace) later
  | slept {now later asked slept : Duration} {trace : List (Exchange Site.Ask Site.Answer)}
      (h : lasts asked slept) (onward : Clocked lasts (now + slept) trace later) :
      Clocked lasts now (⟨.sleep asked, ()⟩ :: trace) later
  | answered {now later : Duration} {question : Site.Ask} (timeless : ¬question.Timed)
      (answer : Site.Answer question) (taken : Duration)
      {trace : List (Exchange Site.Ask Site.Answer)}
      (onward : Clocked lasts (now + taken) trace later) :
      Clocked lasts now (⟨question, answer⟩ :: trace) later

namespace Clocked

variable {lasts : (asked slept : Duration) → Prop} {now later reading asked : Duration}
  {trace first second : List (Exchange Site.Ask Site.Answer)}

theorem le (clocked : Clocked lasts now trace later) : now ≤ later := by
  induction clocked with
  | nil => exact Nat.le_refl _
  | read _ ih => exact ih
  | slept _ _ ih | answered _ _ _ _ ih => exact Nat.le_trans (Nat.le_add_right _ _) ih

theorem of_append (clocked : Clocked lasts now (first ++ second) later) :
    ∃ middle, Clocked lasts now first middle ∧ Clocked lasts middle second later := by
  induction first generalizing now with
  | nil => exact ⟨now, .nil now, clocked⟩
  | cons exchange first ih =>
    cases clocked with
    | read onward =>
      obtain ⟨middle, hfirst, hsecond⟩ := ih onward
      exact ⟨middle, .read hfirst, hsecond⟩
    | slept h onward =>
      obtain ⟨middle, hfirst, hsecond⟩ := ih onward
      exact ⟨middle, .slept h hfirst, hsecond⟩
    | answered timeless answer taken onward =>
      obtain ⟨middle, hfirst, hsecond⟩ := ih onward
      exact ⟨middle, .answered timeless answer taken hfirst, hsecond⟩

theorem append {middle : Duration} (hfirst : Clocked lasts now first middle)
    (hsecond : Clocked lasts middle second later) : Clocked lasts now (first ++ second) later := by
  induction hfirst with
  | nil => exact hsecond
  | read _ ih => exact .read (ih hsecond)
  | slept h _ ih => exact .slept h (ih hsecond)
  | answered timeless answer taken _ ih => exact .answered timeless answer taken (ih hsecond)

theorem of_read (clocked : Clocked lasts now (⟨.elapsed, reading⟩ :: trace) later) :
    reading = now ∧ Clocked lasts now trace later := by
  cases clocked with
  | read onward => exact ⟨rfl, onward⟩
  | answered timeless => exact absurd trivial timeless

theorem of_sleep (clocked : Clocked lasts now (⟨.sleep asked, ()⟩ :: trace) later) :
    ∃ slept, lasts asked slept ∧ Clocked lasts (now + slept) trace later := by
  cases clocked with
  | slept h onward => exact ⟨_, h, onward⟩
  | answered timeless => exact absurd trivial timeless

end Clocked

/-! ### Polls without a bound on their rounds -/

/-- A fetch of a poll. -/
structure Fetch (α : Type) where
  /-- When it begins. -/
  begun : Duration
  /-- What it asks, and what it is answered. -/
  asked : List (Exchange Site.Ask Site.Answer)
  /-- When it ends. -/
  ended : Duration
  /-- What it returns. -/
  answer : Except CloudError α

/-- A fetch runs from its beginning to its end. -/
structure Fetch.Of (fetch : Action (Except CloudError α))
    (lasts : (asked slept : Duration) → Prop) (fetched : Fetch α) : Prop where
  yields : fetch.Yields fetched.asked fetched.answer
  clocked : Clocked lasts fetched.begun fetched.asked fetched.ended

/-- What a fetch ends the poll with: its own failure, a complaint about its value, or its value if
that is accepted.  Otherwise the poll goes on. -/
def verdict? (accepts : α → Except CloudError Bool) :
    Except CloudError α → Option (Except CloudError α)
  | .error error => some (.error error)
  | .ok value =>
    match accepts value with
    | .error error => some (.error error)
    | .ok true => some (.ok value)
    | .ok false => none

theorem verdict?_eq_ok_iff {accepts : α → Except CloudError Bool} {answer : Except CloudError α}
    {value : α} :
    verdict? accepts answer = some (.ok value) ↔ answer = .ok value ∧ accepts value = .ok true := by
  cases answer with
  | error error => simp [verdict?]
  | ok fetched =>
    cases haccepts : accepts fetched with
    | error error =>
      simp only [verdict?, haccepts]
      grind
    | ok accepted => cases accepted <;> simp only [verdict?, haccepts] <;> grind

section

variable (lasts : (asked slept : Duration) → Prop) (operation : String) (policy : PollPolicy)
  (fetch : Action (Except CloudError α)) (accepts : α → Except CloudError Bool) (start : Duration)

/-- What a poll fetches from some time on, what it asks, and how it ends. -/
inductive Polls : Duration → List (Fetch α) → List (Exchange Site.Ask Site.Answer) →
    Except CloudError α → Prop
  /-- A fetch decides. -/
  | settled {fetched : Fetch α} {result : Except CloudError α} (made : fetched.Of fetch lasts)
      (verdict : verdict? accepts fetched.answer = some result) :
      Polls fetched.begun [fetched] fetched.asked result
  /-- Behind a fetch that decides nothing the budget does not allow another interval. -/
  | usedUp {fetched : Fetch α} (made : fetched.Of fetch lasts)
      (pending : verdict? accepts fetched.answer = none)
      (exceeded : policy.maxWait < fetched.ended.since start + policy.interval) :
      Polls fetched.begun [fetched] (fetched.asked ++ [⟨.elapsed, fetched.ended⟩])
        (.error (.timedOut operation (fetched.ended.since start)))
  /-- Behind a fetch that decides nothing the budget allows another interval. -/
  | again {fetched : Fetch α} {slept : Duration} {fetches : List (Fetch α)}
      {trace : List (Exchange Site.Ask Site.Answer)} {result : Except CloudError α}
      (made : fetched.Of fetch lasts) (pending : verdict? accepts fetched.answer = none)
      (within : fetched.ended.since start + policy.interval ≤ policy.maxWait)
      (paused : lasts policy.interval slept)
      (rest : Polls (fetched.ended + slept) fetches trace result) :
      Polls fetched.begun (fetched :: fetches)
        (fetched.asked ++ ⟨.elapsed, fetched.ended⟩ :: ⟨.sleep policy.interval, ()⟩ :: trace) result

end

section

variable {lasts : (asked slept : Duration) → Prop} {operation : String} {policy : PollPolicy}
  {fetch : Action (Except CloudError α)} {accepts : α → Except CloudError Bool}
  {start now ended : Duration} {fetches : List (Fetch α)} {fetched : Fetch α}
  {trace : List (Exchange Site.Ask Site.Answer)} {result : Except CloudError α} {rounds : Nat}

/-- A round of a poll fetches; it ends the poll, or it looks at the clock and then either gives up
or sleeps and goes on. -/
theorem yields_pollRounds_succ_iff :
    (pollRounds operation policy fetch accepts start (rounds + 1)).Yields trace result ↔
      ∃ answer asked rest, fetch.Yields asked answer ∧ trace = asked ++ rest
        ∧ match verdict? accepts answer with
          | some ending => rest = [] ∧ result = ending
          | none => ∃ reading onward, rest = ⟨.elapsed, reading⟩ :: onward
            ∧ if policy.maxWait < reading.since start + policy.interval then
                onward = [] ∧ result = .error (.timedOut operation (reading.since start))
              else ∃ last, onward = ⟨.sleep policy.interval, ()⟩ :: last
                ∧ (pollRounds operation policy fetch accepts start rounds).Yields last result := by
  rw [pollRounds, yields_bind_iff]
  refine exists_congr fun answer => exists_congr fun asked => exists_congr fun rest => ?_
  refine and_congr_right fun _ => and_comm.trans (and_congr_right fun _ => ?_)
  cases answer with
  | error error => exact yields_done_iff
  | ok value =>
    dsimp only [verdict?]
    cases accepts value with
    | error error => exact yields_done_iff
    | ok accepted =>
      cases accepted with
      | true => exact yields_done_iff
      | false =>
        refine yields_ask_iff.trans ?_
        refine exists_congr fun reading => exists_congr fun onward => and_congr_right fun _ => ?_
        change (if policy.maxWait < reading.since start + policy.interval then _ else _ :
          Action (Except CloudError α)).Yields onward result ↔ _
        split
        · exact yields_done_iff
        · refine yields_ask_iff.trans ?_
          constructor
          · rintro ⟨_, last, h⟩
            exact ⟨last, h⟩
          · rintro ⟨last, h⟩
            exact ⟨(), last, h⟩

/-- The value that a poll returns has been fetched and accepted. -/
theorem exists_of_yields_pollRounds_ok {value : α}
    (run : (pollRounds operation policy fetch accepts start rounds).Yields trace (.ok value)) :
    ∃ asked, fetch.Yields asked (.ok value) ∧ asked ⊆ trace ∧ accepts value = .ok true := by
  induction rounds generalizing trace with
  | zero =>
    obtain ⟨reading, onward, rfl, hdone⟩ := yields_ask_iff.mp run
    cases (yields_done_iff.mp hdone).2
  | succ rounds ih =>
    obtain ⟨answer, asked, rest, hfetch, rfl, hrest⟩ := yields_pollRounds_succ_iff.mp run
    cases hverdict : verdict? accepts answer with
    | some ending =>
      rw [hverdict] at hrest
      obtain ⟨rfl, rfl⟩ := hrest
      obtain ⟨rfl, haccepted⟩ := verdict?_eq_ok_iff.mp hverdict
      exact ⟨asked, hfetch, List.subset_append_left _ _, haccepted⟩
    | none =>
      rw [hverdict] at hrest
      obtain ⟨reading, onward, rfl, hrest⟩ := hrest
      split at hrest
      · cases hrest.2
      · obtain ⟨onward', rfl, hrounds⟩ := hrest
        obtain ⟨asked', hfetch', hsub, haccepted⟩ := ih hrounds
        refine ⟨asked', hfetch', List.subset_append_of_subset_right _ ?_, haccepted⟩
        exact List.subset_cons_of_subset _ (List.subset_cons_of_subset _ hsub)

/-- **A poll with enough rounds runs like one without a bound.**  Each pause takes an interval off
the budget, so that the budget is used up before the rounds are. -/
theorem polls_of_yields (lasting : ∀ asked slept, lasts asked slept → asked ≤ slept) {pauses : Nat}
    (enough : policy.maxWait.nanoseconds < (rounds + pauses) * policy.interval.nanoseconds)
    (paused : start.nanoseconds + pauses * policy.interval.nanoseconds ≤ now.nanoseconds)
    (positive : 0 < rounds)
    (run : (pollRounds operation policy fetch accepts start rounds).Yields trace result)
    (clocked : Clocked lasts now trace ended) :
    ∃ fetches, Polls lasts operation policy fetch accepts start now fetches trace result := by
  induction rounds generalizing now pauses trace with
  | zero => exact absurd positive (Nat.lt_irrefl 0)
  | succ rounds ih =>
    obtain ⟨answer, asked, rest, hfetch, rfl, hrest⟩ := yields_pollRounds_succ_iff.mp run
    obtain ⟨later, hasked, honward⟩ := clocked.of_append
    have made : Fetch.Of fetch lasts ⟨now, asked, later, answer⟩ := ⟨hfetch, hasked⟩
    cases hverdict : verdict? accepts answer with
    | some ending =>
      rw [hverdict] at hrest
      obtain ⟨rfl, rfl⟩ := hrest
      rw [List.append_nil]
      exact ⟨_, .settled made hverdict⟩
    | none =>
      rw [hverdict] at hrest
      obtain ⟨reading, onward, rfl, hrest⟩ := hrest
      obtain ⟨rfl, honward⟩ := honward.of_read
      split at hrest
      · next exceeded =>
        obtain ⟨rfl, rfl⟩ := hrest
        exact ⟨_, .usedUp made hverdict exceeded⟩
      · next within =>
        obtain ⟨onward', rfl, hrounds⟩ := hrest
        obtain ⟨slept, hslept, honward⟩ := honward.of_sleep
        have within := Duration.not_lt.mp within
        have hnow : now.nanoseconds ≤ reading.nanoseconds := hasked.le
        have hlasting : policy.interval.nanoseconds ≤ slept.nanoseconds := lasting _ _ hslept
        have hwithin : reading.nanoseconds - start.nanoseconds + policy.interval.nanoseconds
          ≤ policy.maxWait.nanoseconds := within
        have hpauses := Nat.add_one_mul pauses policy.interval.nanoseconds
        -- The budget allows another interval, so there is another round.
        have hlt : (pauses + 1) * policy.interval.nanoseconds
            < (rounds + 1 + pauses) * policy.interval.nanoseconds := by
          omega
        have positive : pauses + 1 < rounds + 1 + pauses := Nat.lt_of_mul_lt_mul_right hlt
        have hsum : rounds + (pauses + 1) = rounds + 1 + pauses := by omega
        obtain ⟨fetches, polls⟩ := ih (hsum ▸ enough)
          (by rw [Duration.nanoseconds_add]; omega) (by omega) hrounds honward
        exact ⟨_, .again made hverdict within hslept polls⟩

namespace Polls

/-- **The number of rounds does not matter** as long as there is one for every fetch. -/
theorem yields (polls : Polls lasts operation policy fetch accepts start now fetches trace result)
    (enough : fetches.length ≤ rounds) :
    (pollRounds operation policy fetch accepts start rounds).Yields trace result := by
  induction polls generalizing rounds with
  | settled made verdict =>
    obtain ⟨rounds, rfl⟩ := Nat.exists_eq_succ_of_ne_zero (Nat.ne_of_gt enough)
    refine yields_pollRounds_succ_iff.mpr ⟨_, _, [], made.yields, (List.append_nil _).symm, ?_⟩
    rw [verdict]
    exact ⟨rfl, rfl⟩
  | usedUp made pending exceeded =>
    obtain ⟨rounds, rfl⟩ := Nat.exists_eq_succ_of_ne_zero (Nat.ne_of_gt enough)
    refine yields_pollRounds_succ_iff.mpr ⟨_, _, _, made.yields, rfl, ?_⟩
    rw [pending]
    refine ⟨_, [], rfl, ?_⟩
    rw [if_pos exceeded]
    exact ⟨rfl, rfl⟩
  | again made pending within paused rest ih =>
    obtain ⟨rounds, rfl⟩ := Nat.exists_eq_succ_of_ne_zero (Nat.ne_of_gt (Nat.zero_lt_of_lt enough))
    refine yields_pollRounds_succ_iff.mpr ⟨_, _, _, made.yields, rfl, ?_⟩
    rw [pending]
    refine ⟨_, _, rfl, ?_⟩
    rw [if_neg (Duration.not_lt.mpr within)]
    exact ⟨_, rfl, ih (Nat.le_of_succ_le_succ enough)⟩

/-- Every fetch is made in the course of the poll. -/
theorem made (polls : Polls lasts operation policy fetch accepts start now fetches trace result)
    (h : fetched ∈ fetches) : fetched.Of fetch lasts ∧ fetched.asked ⊆ trace := by
  induction polls with
  | settled made =>
    rw [List.mem_singleton.mp h]
    exact ⟨made, List.Subset.refl _⟩
  | usedUp made =>
    rw [List.mem_singleton.mp h]
    exact ⟨made, List.subset_append_left _ _⟩
  | again made _ _ _ _ ih =>
    rcases List.mem_cons.mp h with rfl | h
    · exact ⟨made, List.subset_append_left _ _⟩
    · refine ⟨(ih h).1, List.subset_append_of_subset_right _ ?_⟩
      exact List.subset_cons_of_subset _ (List.subset_cons_of_subset _ (ih h).2)

/-- There is a fetch at the start and at most one for every interval of the budget. -/
theorem length_le
    (polls : Polls lasts operation policy fetch accepts start now fetches trace result)
    (lasting : ∀ asked slept, lasts asked slept → asked ≤ slept)
    (positive : 0 < policy.interval.nanoseconds) {pauses : Nat}
    (paused : start.nanoseconds + pauses * policy.interval.nanoseconds ≤ now.nanoseconds)
    (within : pauses * policy.interval.nanoseconds ≤ policy.maxWait.nanoseconds) :
    fetches.length + pauses ≤ policy.maxWait.nanoseconds / policy.interval.nanoseconds + 1 := by
  have hpauses := (Nat.le_div_iff_mul_le positive).mpr within
  -- Every pause so far has taken an interval off the budget, and another one fits in.
  induction polls generalizing pauses with
  | settled | usedUp =>
    rw [List.length_singleton]
    omega
  | @again fetched slept fetches _ _ made _ allowed hslept _ ih =>
    have hfetched : fetched.begun.nanoseconds ≤ fetched.ended.nanoseconds := made.clocked.le
    have hlasting : policy.interval.nanoseconds ≤ slept.nanoseconds := lasting _ _ hslept
    have hallowed : fetched.ended.nanoseconds - start.nanoseconds + policy.interval.nanoseconds
      ≤ policy.maxWait.nanoseconds := allowed
    have hpauses := Nat.add_one_mul pauses policy.interval.nanoseconds
    have paused' : start.nanoseconds + (pauses + 1) * policy.interval.nanoseconds
        ≤ (fetched.ended + slept).nanoseconds := by
      rw [Duration.nanoseconds_add]
      omega
    have within' : (pauses + 1) * policy.interval.nanoseconds ≤ policy.maxWait.nanoseconds := by
      omega
    have hrest := ih paused' within' ((Nat.le_div_iff_mul_le positive).mpr within')
    rw [List.length_cons]
    omega

theorem length_le_of_start
    (polls : Polls lasts operation policy fetch accepts start start fetches trace result)
    (lasting : ∀ asked slept, lasts asked slept → asked ≤ slept)
    (positive : 0 < policy.interval.nanoseconds) :
    fetches.length ≤ policy.maxWait.nanoseconds / policy.interval.nanoseconds + 1 :=
  polls.length_le lasting positive (by rw [Nat.zero_mul]; exact Nat.le_refl _)
    (by rw [Nat.zero_mul]; exact Nat.zero_le _)

/-- If sleeps are exact, no fetch begins when the budget is over. -/
theorem begun_le
    (polls : Polls (· = ·) operation policy fetch accepts start now fetches trace result)
    (within : now ≤ start + policy.maxWait) (h : fetched ∈ fetches) :
    fetched.begun ≤ start + policy.maxWait := by
  induction polls with
  | settled | usedUp =>
    rw [List.mem_singleton.mp h]
    exact within
  | @again earlier slept _ _ _ _ _ allowed hslept _ ih =>
    have allowed : earlier.ended.nanoseconds - start.nanoseconds + policy.interval.nanoseconds
      ≤ policy.maxWait.nanoseconds := allowed
    have hnext : (earlier.ended + slept).nanoseconds ≤ (start + policy.maxWait).nanoseconds := by
      rw [← hslept, Duration.nanoseconds_add, Duration.nanoseconds_add]
      omega
    rcases List.mem_cons.mp h with rfl | h
    · exact within
    · exact ih hnext h

/-- The first fetch that decides is the last one, and the poll ends as it says. -/
theorem eq_of_verdict
    (polls : Polls lasts operation policy fetch accepts start now fetches trace result)
    {before after : List (Fetch α)} (h : fetches = before ++ fetched :: after)
    {ending : Except CloudError α} (verdict : verdict? accepts fetched.answer = some ending) :
    after = [] ∧ result = ending := by
  induction polls generalizing before with
  | settled made decided =>
    cases before with
    | nil =>
      obtain ⟨rfl, rfl⟩ := List.cons.inj h
      exact ⟨rfl, Option.some.inj (decided.symm.trans verdict)⟩
    | cons earlier before => simp at h
  | usedUp made pending exceeded =>
    cases before with
    | nil =>
      obtain ⟨rfl, rfl⟩ := List.cons.inj h
      cases pending.symm.trans verdict
    | cons earlier before => simp at h
  | again made pending within paused rest ih =>
    cases before with
    | nil =>
      obtain ⟨rfl, rfl⟩ := List.cons.inj h
      cases pending.symm.trans verdict
    | cons earlier before => exact ih (List.cons.inj h).2

/-- If no fetch decides, the budget is used up when the poll ends. -/
theorem exists_waited
    (polls : Polls lasts operation policy fetch accepts start now fetches trace result)
    (pending : ∀ fetched ∈ fetches, verdict? accepts fetched.answer = none) :
    ∃ waited, result = .error (.timedOut operation waited)
      ∧ policy.maxWait < waited + policy.interval := by
  induction polls with
  | settled made decided =>
    rw [pending _ List.mem_cons_self] at decided
    cases decided
  | usedUp made _ exceeded => exact ⟨_, rfl, exceeded⟩
  | again _ _ _ _ _ ih => exact ih fun fetched h => pending fetched (List.mem_cons_of_mem _ h)

/-- If sleeps are exact, fetches take no time and none of them decides, the poll ends after as many
intervals as the budget holds. -/
theorem result_eq_of_instant
    (polls : Polls (· = ·) operation policy fetch accepts start now fetches trace result)
    {pauses : Nat}
    (paused : now.nanoseconds = start.nanoseconds + pauses * policy.interval.nanoseconds)
    (within : pauses * policy.interval.nanoseconds ≤ policy.maxWait.nanoseconds)
    (pending : ∀ fetched ∈ fetches, verdict? accepts fetched.answer = none)
    (instant : ∀ fetched ∈ fetches, fetched.ended = fetched.begun) :
    result = .error (.timedOut operation ⟨policy.maxWait.nanoseconds / policy.interval.nanoseconds
      * policy.interval.nanoseconds⟩) := by
  have hpauses := Nat.add_one_mul pauses policy.interval.nanoseconds
  induction polls generalizing pauses with
  | settled made decided =>
    rw [pending _ List.mem_cons_self] at decided
    cases decided
  | @usedUp fetched made _ exceeded =>
    have hended := instant _ List.mem_cons_self
    have exceeded : policy.maxWait.nanoseconds
      < fetched.ended.nanoseconds - start.nanoseconds + policy.interval.nanoseconds := exceeded
    have hquotient : policy.maxWait.nanoseconds / policy.interval.nanoseconds = pauses :=
      Nat.div_eq_of_lt_le within (by rw [hended] at exceeded; omega)
    have hwaited : fetched.ended.nanoseconds - start.nanoseconds
        = pauses * policy.interval.nanoseconds := by
      rw [hended]
      omega
    rw [Duration.since, hquotient, hwaited]
  | @again fetched slept _ _ _ _ _ allowed hslept _ ih =>
    have hended := instant _ List.mem_cons_self
    have allowed : fetched.ended.nanoseconds - start.nanoseconds + policy.interval.nanoseconds
      ≤ policy.maxWait.nanoseconds := allowed
    have paused' : (fetched.ended + slept).nanoseconds
        = start.nanoseconds + (pauses + 1) * policy.interval.nanoseconds := by
      rw [← hslept, Duration.nanoseconds_add, hended]
      omega
    rw [hended] at allowed
    exact ih paused' (by omega) (fun fetched h => pending fetched (List.mem_cons_of_mem _ h))
      (fun fetched h => instant fetched (List.mem_cons_of_mem _ h))
      (Nat.add_one_mul _ _)

end Polls

end

/-! ### The budget -/

section

variable {operation : String} {policy : PollPolicy} {fetch : Action (Except CloudError α)}
  {accepts : α → Except CloudError Bool} {start ended : Duration}
  {trace : List (Exchange Site.Ask Site.Answer)} {result : Except CloudError α}

/-- A poll looks at the clock first. -/
theorem exists_of_yields_poll (run : (poll operation policy fetch accepts).Yields trace result) :
    ∃ start onward, trace = ⟨.elapsed, start⟩ :: onward
      ∧ (pollRounds operation policy fetch accepts start policy.rounds).Yields onward result :=
  yields_ask_iff.mp run

theorem PollPolicy.rounds_of_pos (positive : 0 < policy.interval.nanoseconds) :
    policy.rounds = policy.maxWait.nanoseconds / policy.interval.nanoseconds + 1 := by
  rw [rounds, if_neg (Nat.ne_of_gt positive)]

/-- The rounds of a poll suffice for its budget. -/
theorem PollPolicy.lt_rounds_mul (positive : 0 < policy.interval.nanoseconds) :
    policy.maxWait.nanoseconds < policy.rounds * policy.interval.nanoseconds := by
  rw [rounds_of_pos positive]
  exact Nat.lt_mul_of_div_lt (Nat.lt_succ_self _) positive

/-- **A poll is ended by its budget and not by the number of its rounds.** -/
theorem polls_of_rounds {lasts : (asked slept : Duration) → Prop}
    (lasting : ∀ asked slept, lasts asked slept → asked ≤ slept)
    (positive : 0 < policy.interval.nanoseconds)
    (run : (pollRounds operation policy fetch accepts start policy.rounds).Yields trace result)
    (clocked : Clocked lasts start trace ended) :
    ∃ fetches, Polls lasts operation policy fetch accepts start start fetches trace result := by
  have enough := PollPolicy.lt_rounds_mul positive
  have hrounds : 0 < policy.rounds := Nat.pos_of_mul_pos_right (Nat.zero_lt_of_lt enough)
  have unpaused : start.nanoseconds + 0 * policy.interval.nanoseconds ≤ start.nanoseconds := by
    rw [Nat.zero_mul]
    exact Nat.le_refl _
  exact polls_of_yields lasting enough unpaused hrounds run clocked

/-- What a fetch asks, how long it takes and what it returns, whenever it begins. -/
structure Response (α : Type) where
  /-- What it asks, and what it is answered. -/
  asked : List (Exchange Site.Ask Site.Answer)
  /-- How long it takes. -/
  taken : Duration
  /-- What it returns. -/
  answer : Except CloudError α

/-- The fetch that begins at some time. -/
def Response.begunAt (response : Response α) (begun : Duration) : Fetch α :=
  ⟨begun, response.asked, begun + response.taken, response.answer⟩

/-- A poll that has some of its budget left comes to an end. -/
theorem exists_polls (operation : String) (accepts : α → Except CloudError Bool)
    (positive : 0 < policy.interval.nanoseconds) {responses : Nat → Response α}
    (made : ∀ n begun, ((responses n).begunAt begun).Of fetch (· = ·)) (n : Nat) {left : Nat}
    {now : Duration} (later : start ≤ now) (enough : policy.maxWait.nanoseconds
      < now.nanoseconds - start.nanoseconds + left * policy.interval.nanoseconds) :
    ∃ fetches trace result ended, Clocked (· = ·) now trace ended
      ∧ Polls (· = ·) operation policy fetch accepts start now fetches trace result
      ∧ ∀ i fetched, fetches[i]? = some fetched →
        fetched = (responses (n + i)).begunAt fetched.begun := by
  -- By induction on the intervals that are left of the budget; a pause takes one of them.
  induction left using Nat.strongRecOn generalizing n now with
  | ind left ih =>
  have fetched := made n now
  have first : ∀ i other, [(responses n).begunAt now][i]? = some other →
      other = (responses (n + i)).begunAt other.begun := by
    intro i other h
    cases i with
    | zero =>
      cases h
      rfl
    | succ i => cases h
  cases hverdict : verdict? accepts (responses n).answer with
  | some ending =>
    exact ⟨_, _, _, _, fetched.clocked, .settled fetched hverdict, first⟩
  | none =>
    rcases Nat.lt_or_ge policy.maxWait.nanoseconds
      ((now + (responses n).taken).since start + policy.interval).nanoseconds with exceeded | within
    · exact ⟨_, _, _, _, fetched.clocked.append (.read (.nil _)), .usedUp fetched hverdict exceeded,
        first⟩
    · have hlater : start.nanoseconds ≤ now.nanoseconds := later
      have hwithin : now.nanoseconds + (responses n).taken.nanoseconds - start.nanoseconds
        + policy.interval.nanoseconds ≤ policy.maxWait.nanoseconds := within
      have hleft : left ≠ 0 := by
        rintro rfl
        rw [Nat.zero_mul] at enough
        omega
      obtain ⟨left, rfl⟩ := Nat.exists_eq_succ_of_ne_zero hleft
      have hnext : start ≤ now + (responses n).taken + policy.interval :=
        Nat.le_trans hlater (Nat.le_trans (Nat.le_add_right _ _) (Nat.le_add_right _ _))
      have henough : policy.maxWait.nanoseconds
          < (now + (responses n).taken + policy.interval).nanoseconds - start.nanoseconds
            + left * policy.interval.nanoseconds := by
        rw [Nat.succ_mul] at enough
        simp only [Duration.nanoseconds_add]
        omega
      obtain ⟨fetches, trace, result, ended, hclocked, hpolls, hresponses⟩ :=
        ih left (Nat.lt_succ_self left) (n + 1) hnext henough
      refine ⟨_, _, _, ended, fetched.clocked.append (.read (.slept rfl hclocked)),
        .again fetched hverdict within rfl hpolls, fun i other h => ?_⟩
      cases i with
      | zero =>
        cases h
        rfl
      | succ i =>
        have hresponse := hresponses i other h
        rw [Nat.succ_add_eq_add_succ] at hresponse
        exact hresponse

/-- **Whatever is fetched and however long it takes, a poll comes to an end**, and its fetches are
the first ones of the sequence. -/
theorem poll_ends (positive : 0 < policy.interval.nanoseconds) {responses : Nat → Response α}
    (made : ∀ n begun, ((responses n).begunAt begun).Of fetch (· = ·)) :
    ∃ fetches onward result ended,
      (poll operation policy fetch accepts).Yields (⟨.elapsed, start⟩ :: onward) result
      ∧ Clocked (· = ·) start (⟨.elapsed, start⟩ :: onward) ended
      ∧ Polls (· = ·) operation policy fetch accepts start start fetches onward result
      ∧ ∀ i fetched, fetches[i]? = some fetched →
        fetched = (responses i).begunAt fetched.begun := by
  have enough := Nat.lt_add_left (start.nanoseconds - start.nanoseconds)
    (PollPolicy.lt_rounds_mul positive)
  obtain ⟨fetches, onward, result, ended, clocked, polls, hresponses⟩ :=
    exists_polls operation accepts positive made 0 (Nat.le_refl _) enough
  have hrounds : fetches.length ≤ policy.rounds := by
    rw [PollPolicy.rounds_of_pos positive]
    exact polls.length_le_of_start (fun _ _ => Duration.le_of_eq) positive
  refine ⟨fetches, onward, result, ended, yields_ask_iff.mpr ⟨start, onward, rfl, ?_⟩,
    .read clocked, polls, fun i other h => ?_⟩
  · exact polls.yields hrounds
  · rw [← Nat.zero_add i]
    exact hresponses i other h

/-- How a poll whose sleeps are exact spends its budget on fetches. -/
structure KeepsBudget (operation : String) (policy : PollPolicy)
    (fetch : Action (Except CloudError α)) (accepts : α → Except CloudError Bool) (start : Duration)
    (fetches : List (Fetch α)) (trace : List (Exchange Site.Ask Site.Answer))
    (result : Except CloudError α) : Prop where
  /-- The fetches are made from the start on, with an interval between any two. -/
  course : Polls (· = ·) operation policy fetch accepts start start fetches trace result
  /-- With a round for every fetch, the poll goes this way however many other rounds it has. -/
  unbounded : ∀ rounds, fetches.length ≤ rounds →
    (pollRounds operation policy fetch accepts start rounds).Yields trace result
  /-- There is one fetch at the start and at most one for every whole interval of the budget. -/
  count : fetches.length ≤ policy.maxWait.nanoseconds / policy.interval.nanoseconds + 1
  /-- No fetch begins when the budget is over. -/
  begun : ∀ fetched ∈ fetches, fetched.begun ≤ start + policy.maxWait
  /-- The first fetch that decides is the last one, and the poll ends as it says. -/
  decided : ∀ before fetched after, fetches = before ++ fetched :: after →
    ∀ ending, verdict? accepts fetched.answer = some ending → after = [] ∧ result = ending
  /-- The poll runs out of time exactly if no fetch decides.  Then less than an interval is left of
  the budget, and if fetches take no time, the poll has waited for as many intervals as the budget
  holds. -/
  timedOut : (∀ fetched ∈ fetches, verdict? accepts fetched.answer = none) ↔
    ∃ waited, result = .error (.timedOut operation waited)
      ∧ (∀ fetched ∈ fetches, verdict? accepts fetched.answer ≠ some result)
      ∧ policy.maxWait < waited + policy.interval
      ∧ ((∀ fetched ∈ fetches, fetched.ended = fetched.begun) → waited =
        ⟨policy.maxWait.nanoseconds / policy.interval.nanoseconds * policy.interval.nanoseconds⟩)

/-- Pauses of exactly an interval spend the budget. -/
theorem Polls.keepsBudget {fetches : List (Fetch α)} (positive : 0 < policy.interval.nanoseconds)
    (polls : Polls (· = ·) operation policy fetch accepts start start fetches trace result) :
    KeepsBudget operation policy fetch accepts start fetches trace result := by
  refine ⟨polls, fun rounds => polls.yields,
    polls.length_le_of_start (fun _ _ => Duration.le_of_eq) positive,
    fun fetched => polls.begun_le (Nat.le_add_right _ _),
    fun before fetched after h ending => polls.eq_of_verdict h, fun pending => ?_, ?_⟩
  · obtain ⟨waited, rfl, exceeded⟩ := polls.exists_waited pending
    refine ⟨waited, rfl, fun fetched h => ?_, exceeded, fun instant => ?_⟩
    · rw [pending fetched h]
      exact (Option.some_ne_none _).symm
    · have unpaused : start.nanoseconds = start.nanoseconds + 0 * policy.interval.nanoseconds := by
        rw [Nat.zero_mul, Nat.add_zero]
      have within : 0 * policy.interval.nanoseconds ≤ policy.maxWait.nanoseconds := by
        rw [Nat.zero_mul]
        exact Nat.zero_le _
      have hresult := polls.result_eq_of_instant unpaused within pending instant
      injection hresult with hresult
      injection hresult
  · -- A fetch may fail with a time-out of its own, but then it is a fetch that decides.
    rintro ⟨waited, hresult, hnone, -⟩ fetched h
    cases hverdict : verdict? accepts fetched.answer with
    | none => rfl
    | some ending =>
      obtain ⟨before, after, hcut⟩ := List.append_of_mem h
      rw [(polls.eq_of_verdict hcut hverdict).2] at hnone
      exact absurd hverdict (hnone fetched h)

/-- **A poll comes to an end and keeps its budget.**  For every interval that is positive and every
sequence of durations and results of the fetches, the poll makes a fetch at the start and at most
one for every interval of the budget, none of them when the budget is over.  It ends with the first
fetch that decides, and if none does, it runs out of time.  Every run whose clock is right goes
this way. -/
theorem poll_within_budget (positive : 0 < policy.interval.nanoseconds) :
    (∀ (responses : Nat → Response α) (start : Duration),
      (∀ n begun, ((responses n).begunAt begun).Of fetch (· = ·)) →
      ∃ fetches onward result ended,
        (poll operation policy fetch accepts).Yields (⟨.elapsed, start⟩ :: onward) result
        ∧ Clocked (· = ·) start (⟨.elapsed, start⟩ :: onward) ended
        ∧ KeepsBudget operation policy fetch accepts start fetches onward result
        ∧ ∀ i fetched, fetches[i]? = some fetched →
          fetched = (responses i).begunAt fetched.begun)
      ∧ ∀ start trace result ended, (poll operation policy fetch accepts).Yields trace result →
        Clocked (· = ·) start trace ended →
        ∃ fetches onward, trace = ⟨.elapsed, start⟩ :: onward
          ∧ KeepsBudget operation policy fetch accepts start fetches onward result := by
  refine ⟨fun responses start made => ?_, fun start trace result ended run clocked => ?_⟩
  · obtain ⟨fetches, onward, result, ended, run, clocked, polls, hresponses⟩ :=
      poll_ends positive made
    exact ⟨fetches, onward, result, ended, run, clocked, polls.keepsBudget positive, hresponses⟩
  · obtain ⟨reading, onward, rfl, hrounds⟩ := exists_of_yields_poll run
    obtain ⟨hreading, clocked⟩ := clocked.of_read
    rw [hreading] at hrounds ⊢
    obtain ⟨fetches, polls⟩ :=
      polls_of_rounds (fun _ _ => Duration.le_of_eq) positive hrounds clocked
    exact ⟨fetches, onward, rfl, polls.keepsBudget positive⟩

/-- An interval of two nanoseconds in a budget of five. -/
def twoInFive : PollPolicy := ⟨⟨2⟩, ⟨5⟩⟩

/-- Three fetches of the state of a server that stays busy, with the pauses between them. -/
def busyTrace : List (Exchange Site.Ask Site.Answer) :=
  [⟨.elapsed, ⟨0⟩⟩,
    ⟨.datacenter (.serverState "server"), .ok "BUSY"⟩, ⟨.elapsed, ⟨0⟩⟩, ⟨.sleep ⟨2⟩, ()⟩,
    ⟨.datacenter (.serverState "server"), .ok "BUSY"⟩, ⟨.elapsed, ⟨2⟩⟩, ⟨.sleep ⟨2⟩, ()⟩,
    ⟨.datacenter (.serverState "server"), .ok "BUSY"⟩, ⟨.elapsed, ⟨4⟩⟩]

theorem clocked_busyTrace : Clocked (· = ·) ⟨0⟩ busyTrace ⟨4⟩ := by
  have fetched {now later : Duration} {trace : List (Exchange Site.Ask Site.Answer)}
      (onward : Clocked (· = ·) now trace later) :
      Clocked (· = ·) now (⟨.datacenter (.serverState "server"), .ok "BUSY"⟩ :: trace) later :=
    .answered id _ ⟨0⟩ onward
  have onward : Clocked (· = ·) ⟨0⟩ busyTrace.tail ⟨4⟩ :=
    fetched (.read (.slept rfl (fetched (.read (.slept rfl (fetched (.read (.nil _))))))))
  exact .read onward

/-- An answer that a server is busy, at once. -/
def busyResponse : Response String where
  asked := [⟨.datacenter (.serverState "server"), .ok "BUSY"⟩]
  taken := ⟨0⟩
  answer := .ok "BUSY"

/-- A budget of five allows three fetches with pauses of two between them. -/
theorem busyServer_within_budget :
    0 < twoInFive.interval.nanoseconds
      ∧ (poll "stop target" twoInFive (Action.datacenter (.serverState "server"))
        fun state => .ok (state = "INACTIVE")).Yields busyTrace
          (.error (.timedOut "stop target" ⟨4⟩))
      ∧ Clocked (· = ·) ⟨0⟩ busyTrace ⟨4⟩
      ∧ (∃ fetches onward, busyTrace = ⟨.elapsed, ⟨0⟩⟩ :: onward
        ∧ KeepsBudget "stop target" twoInFive (Action.datacenter (.serverState "server"))
          (fun state => .ok (state = "INACTIVE")) ⟨0⟩ fetches onward
          (.error (.timedOut "stop target" ⟨4⟩)))
      ∧ (∀ begun, (busyResponse.begunAt begun).Of (Action.datacenter (.serverState "server"))
        (· = ·))
      ∧ ∃ fetches onward result ended,
        (poll "stop target" twoInFive (Action.datacenter (.serverState "server"))
          fun state => .ok (state = "INACTIVE")).Yields (⟨.elapsed, ⟨0⟩⟩ :: onward) result
        ∧ Clocked (· = ·) ⟨0⟩ (⟨.elapsed, ⟨0⟩⟩ :: onward) ended
        ∧ KeepsBudget "stop target" twoInFive (Action.datacenter (.serverState "server"))
          (fun state => .ok (state = "INACTIVE")) ⟨0⟩ fetches onward result
        ∧ ∀ (i : Nat) (fetched : Fetch String), fetches[i]? = some fetched →
          fetched = busyResponse.begunAt fetched.begun := by
  have positive : 0 < twoInFive.interval.nanoseconds := by decide
  have run : (poll "stop target" twoInFive (Action.datacenter (.serverState "server"))
      fun state => .ok (state = "INACTIVE")).Yields busyTrace
        (.error (.timedOut "stop target" ⟨4⟩)) :=
    .ask _ (.ask _ (.ask _ (.ask _ (.ask _ (.ask _ (.ask _ (.ask _ (.ask _ (.done _)))))))))
  have made (begun : Duration) : (busyResponse.begunAt begun).Of
      (Action.datacenter (.serverState "server")) (· = ·) :=
    ⟨.ask _ (.done _), .answered id _ ⟨0⟩ (.nil _)⟩
  exact ⟨positive, run, clocked_busyTrace,
    (poll_within_budget positive).2 _ _ _ _ run clocked_busyTrace, made,
    (poll_within_budget positive).1 (fun _ => busyResponse) ⟨0⟩ fun _ => made⟩

end

end ServerMigration
