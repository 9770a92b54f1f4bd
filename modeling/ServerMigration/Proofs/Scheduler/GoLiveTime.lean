import Mathlib.Data.List.Basic
import ServerMigration.Proofs.Scheduler.Passes

/-!
# How a run comes to its go-live time

Until its go-live time a run sleeps for an interval and synchronises its sources again, over and
over, as long as more than an interval is left; then it sleeps for the rest, and goes live.  A
synchronisation may take any time, so that it may end behind the go-live time but never begins
there.  Each takes at least an interval off the time that is left, and that bounds their number; so
the number of rounds that bounds the recursion is never what ends the wait.

The clock of the run shows no leap seconds.  A go-live time within one counts like the moment of the
next second that is as far from its beginning, which holds at the end of a day only: in the middle
of a day such a time is left too early.

## Main definitions

* `Instant.Regular` : instants other than the leap seconds in the middle of a day.
* `Scheduler.Lapses` : the clock is read right.
* `Scheduler.PassRun` : a pass in the course of time.
* `Scheduler.Waits` : how a run waits, without a bound on its rounds.

## Main results

* `Scheduler.waits_of_yields` : the number of rounds suffices.
* `Scheduler.exists_waits` : the wait comes to an end.
* `Scheduler.goes_live_in_time` : when a run synchronises again and when it goes live.
* `Scheduler.leapSecond_goes_live_early` : a run that goes live too early.
-/

namespace ServerMigration

open Program

/-! ### The clock -/

/-- The time from one moment to a later one, both in nanoseconds after 1970-01-01T00:00:00Z. -/
def Duration.between (now later : Int) : Duration := ⟨(later - now).toNat⟩

@[simp] theorem Duration.nanoseconds_between (now later : Int) :
    (Duration.between now later).nanoseconds = (later - now).toNat :=
  rfl

namespace Instant

/-- What a clock without leap seconds shows so many nanoseconds after 1970-01-01T00:00:00Z. -/
def ofTotal (total : Int) : Instant := ⟨total / 1_000_000_000, (total % 1_000_000_000).toNat⟩

/-- An instant that is in no leap second, or in one at the end of a day. -/
def Regular (t : Instant) : Prop := t.IsLeap → t.secondOfDay = 86399

theorem total_ofTotal (total : Int) : (ofTotal total).total = total := by
  simp only [ofTotal, Instant.total]
  omega

theorem not_isLeap_ofTotal (total : Int) : ¬(ofTotal total).IsLeap := by
  simp only [ofTotal, IsLeap]
  omega

/-- No leap second is counted between the clock and a regular instant. -/
theorem leapBetween_ofTotal {later : Instant} (regular : later.Regular) (now : Int) :
    (ofTotal now).leapBetween later = 0 := by
  have hlast : later.IsLeap → ¬later.secondOfDay < (ofTotal now).secondOfDay := by
    intro leap
    rw [regular leap, secondOfDay]
    omega
  rw [leapBetween, if_neg fun h => not_isLeap_ofTotal now h.2, if_neg fun h => hlast h.2 h.1]

/-- **The time that a clock has left until a regular instant.** -/
theorem timeUntil_ofTotal {later : Instant} (regular : later.Regular) (now : Int) :
    (ofTotal now).timeUntil later = .between now later.total := by
  rw [timeUntil, leapBetween_ofTotal regular, total_ofTotal, Int.add_zero]
  rfl

end Instant

namespace Scheduler

/-- Questions that the clock decides. -/
def Ask.Timed : Ask → Prop
  | .site .clock | .site (.sleep _) => True
  | _ => False

/-- `Lapses now trace later` says that time goes from `now` to `later` in the course of `trace`, in
nanoseconds after 1970-01-01T00:00:00Z.  Reading the clock takes no time, a sleep lasts as long as
it was asked for, and anything else is answered after any time. -/
inductive Lapses : Int → PassTrace → Int → Prop
  | nil (now : Int) : Lapses now [] now
  | read {now later : Int} {trace : PassTrace} (onward : Lapses now trace later) :
      Lapses now (⟨.site .clock, Instant.ofTotal now⟩ :: trace) later
  | slept {now later : Int} {asked : Duration} {trace : PassTrace}
      (onward : Lapses (now + asked.nanoseconds) trace later) :
      Lapses now (⟨.site (.sleep asked), ()⟩ :: trace) later
  | answered {now later : Int} {question : Ask} (timeless : ¬question.Timed)
      (answer : Answer question) (taken : Duration) {trace : PassTrace}
      (onward : Lapses (now + taken.nanoseconds) trace later) :
      Lapses now (⟨question, answer⟩ :: trace) later

namespace Lapses

variable {now later middle : Int} {trace first second : PassTrace}

theorem le (lapses : Lapses now trace later) : now ≤ later := by
  induction lapses with
  | nil => exact Int.le_refl _
  | read _ ih => exact ih
  | slept _ ih | answered _ _ _ _ ih => omega

theorem append (hfirst : Lapses now first middle) (hsecond : Lapses middle second later) :
    Lapses now (first ++ second) later := by
  induction hfirst with
  | nil => exact hsecond
  | read _ ih => exact .read (ih hsecond)
  | slept _ ih => exact .slept (ih hsecond)
  | answered timeless answer taken _ ih => exact .answered timeless answer taken (ih hsecond)

theorem of_append (lapses : Lapses now (first ++ second) later) :
    ∃ middle, Lapses now first middle ∧ Lapses middle second later := by
  induction first generalizing now with
  | nil => exact ⟨now, .nil now, lapses⟩
  | cons exchange first ih =>
    cases lapses with
    | read onward =>
      obtain ⟨middle, hfirst, hsecond⟩ := ih onward
      exact ⟨middle, .read hfirst, hsecond⟩
    | slept onward =>
      obtain ⟨middle, hfirst, hsecond⟩ := ih onward
      exact ⟨middle, .slept hfirst, hsecond⟩
    | answered timeless answer taken onward =>
      obtain ⟨middle, hfirst, hsecond⟩ := ih onward
      exact ⟨middle, .answered timeless answer taken hfirst, hsecond⟩

theorem of_read {reading : Instant} (lapses : Lapses now (⟨.site .clock, reading⟩ :: trace) later) :
    reading = .ofTotal now ∧ Lapses now trace later := by
  cases lapses with
  | read onward => exact ⟨rfl, onward⟩
  | answered timeless => exact absurd trivial timeless

theorem of_sleep {asked : Duration}
    (lapses : Lapses now (⟨.site (.sleep asked), ()⟩ :: trace) later) :
    Lapses (now + asked.nanoseconds) trace later := by
  cases lapses with
  | slept onward => exact onward
  | answered timeless => exact absurd trivial timeless

end Lapses

/-! ### Passes in the course of time -/

/-- A pass in the course of time. -/
structure PassRun where
  /-- When it begins. -/
  begun : Int
  /-- What it asks, and what it is answered. -/
  asked : PassTrace
  /-- When it ends. -/
  ended : Int
  /-- What it reports. -/
  report : PassReport

/-- It is one of that pass, which reports, from its beginning to its end. -/
structure PassRun.Of (config : SchedulerConfig) (run : MigrationRun) (pass : Pass)
    (passed : PassRun) : Prop where
  yields : (pass.schedule config run).run.Yields passed.asked (.ok passed.report)
  lapses : Lapses passed.begun passed.asked passed.ended

/-- The store answers whenever it is asked for the sources of a run. -/
def Listed (trace : PassTrace) : Prop :=
  ∀ runId listed, (⟨.site (.store (.sourcesOfRun runId)), listed⟩ : Exchange Ask Answer) ∈ trace →
    ∃ sources, listed = .ok sources

theorem Listed.mono {part trace : PassTrace} (listed : Listed trace) (hsub : part ⊆ trace) :
    Listed part :=
  fun runId answer hmem => listed runId answer (hsub hmem)

variable {config : SchedulerConfig} {run : MigrationRun} {pass : Pass}

/-- A pass reports if the store lists the sources. -/
theorem Pass.reports_of_listed (pass : Pass) {trace : PassTrace}
    {result : Except RunError PassReport}
    (h : (pass.schedule config run).run.Yields trace result) (listed : Listed trace) :
    ∃ report, result = .ok report := by
  rw [run_schedule] at h
  obtain ⟨answer, rest, rfl, hrest⟩ := yields_ask_iff.mp h
  obtain ⟨sources, rfl⟩ := listed run.id answer List.mem_cons_self
  obtain ⟨report, first, second, -, hpure, -⟩ := yields_bind_iff.mp hrest
  exact ⟨report, (yields_done_iff.mp hpure).2⟩

/-- The questions that start a task do it to go on in some way. -/
def Ask.StartsOnly (resume : Resume) : Ask → Prop
  | .start task => task.resume = resume
  | _ => True

theorem every_forM_start (resume : Resume) (sources : List Source) :
    (sources.forM fun source => start ⟨source, resume⟩).Every (Ask.StartsOnly resume)
      fun _ => True := by
  induction sources with
  | nil => trivial
  | cons source sources ih => exact ⟨rfl, fun _ => ih⟩

theorem every_passRounds (limit : Nat) (resume : Resume) (progress : Progress) :
    (passRounds limit resume progress).Every (Ask.StartsOnly resume) fun _ => True := by
  induction progress using passRounds.induct limit with
  | case1 progress ih =>
    rw [passRounds]
    refine (every_forM_start resume _).bind fun _ _ => ?_
    split
    · trivial
    · next busy => exact ⟨trivial, fun ended => ih busy ended⟩

/-- **All tasks that a pass starts go on in its way.** -/
theorem Pass.resume_of_started {trace : PassTrace} {result : Except RunError PassReport}
    (h : (pass.schedule config run).run.Yields trace result) :
    ∀ task ∈ startedIn trace, task.resume = pass.resume := by
  have every : (pass.schedule config run).run.Every (Ask.StartsOnly pass.resume)
      fun _ => True := by
    rw [run_schedule]
    refine ⟨trivial, fun listed => ?_⟩
    cases listed with
    | error error => trivial
    | ok sources =>
      have driven : (drive config run pass.resume (sources.filter pass.selects)).Every
          (Ask.StartsOnly pass.resume) fun _ => True :=
        (every_passRounds _ _ _).bind fun _ _ => trivial
      exact driven.bind fun _ _ => trivial
  intro task hmem
  obtain ⟨⟨question, answer⟩, hasked, hstarted⟩ := List.mem_filterMap.mp hmem
  have hstarts := (every.of_yields h).1 _ hasked
  cases question with
  | start task' =>
    cases hstarted
    exact hstarts
  | site _ | await => cases hstarted

/-! ### Waiting without a bound on the rounds -/

/-- A look at the clock. -/
def look (now : Int) : Exchange Ask Answer := ⟨.site .clock, Instant.ofTotal now⟩

/-- A sleep. -/
def nap (duration : Duration) : Exchange Ask Answer := ⟨.site (.sleep duration), ()⟩

/-- `Waits config run goLiveAt now resyncs trace later` says that a run waits from `now` to `later`
for its go-live time, with the synchronisations `resyncs`. -/
inductive Waits (config : SchedulerConfig) (run : MigrationRun) (goLiveAt : Int) :
    Int → List PassRun → PassTrace → Int → Prop
  /-- The go-live time has come. -/
  | elapsed {now : Int} (due : goLiveAt ≤ now) : Waits config run goLiveAt now [] [look now] now
  /-- It has not, and no more than an interval is left: the run sleeps for the rest. -/
  | rest {now later : Int} {resyncs : List PassRun} {trace : PassTrace} (ahead : now < goLiveAt)
      (short : ∀ interval, run.policy.syncInterval = some interval →
        goLiveAt ≤ now + interval.nanoseconds)
      (onward : Waits config run goLiveAt goLiveAt resyncs trace later) :
      Waits config run goLiveAt now resyncs (look now :: nap (.between now goLiveAt) :: trace)
        later
  /-- More than an interval is left: the run sleeps for it and synchronises its sources again. -/
  | again {now later : Int} {interval : Duration} {resync : PassRun} {resyncs : List PassRun}
      {trace : PassTrace} (regularly : run.policy.syncInterval = some interval)
      (ahead : now + interval.nanoseconds < goLiveAt) (made : resync.Of config run .resync)
      (begun : resync.begun = now + interval.nanoseconds)
      (onward : Waits config run goLiveAt resync.ended resyncs trace later) :
      Waits config run goLiveAt now (resync :: resyncs)
        (look now :: nap interval :: (resync.asked ++ trace)) later

namespace Waits

variable {goLiveAt now later : Int} {resyncs : List PassRun} {trace : PassTrace}

theorem lapses (waits : Waits config run goLiveAt now resyncs trace later) :
    Lapses now trace later := by
  induction waits with
  | elapsed => exact .read (.nil _)
  | @rest now _ _ _ ahead short _ ih =>
    refine .read (.slept ?_)
    have hsum : now + ((goLiveAt - now).toNat : Int) = goLiveAt := by omega
    rwa [Duration.nanoseconds_between, hsum]
  | again regularly ahead made begun _ ih =>
    refine .read (.slept ?_)
    rw [← begun]
    exact made.lapses.append ih

/-- **A wait never ends before the go-live time.** -/
theorem due (waits : Waits config run goLiveAt now resyncs trace later) : goLiveAt ≤ later := by
  induction waits with
  | elapsed due => exact due
  | rest _ _ _ ih | again _ _ _ _ _ ih => exact ih

/-- **Every synchronisation begins before the go-live time.** -/
theorem begun_lt {resync : PassRun} (waits : Waits config run goLiveAt now resyncs trace later)
    (hmem : resync ∈ resyncs) : resync.Of config run .resync ∧ resync.begun < goLiveAt := by
  induction waits with
  | elapsed => exact absurd hmem List.not_mem_nil
  | rest _ _ _ ih => exact ih hmem
  | again _ ahead made begun _ ih =>
    rcases List.mem_cons.mp hmem with rfl | hmem
    · exact ⟨made, begun ▸ ahead⟩
    · exact ih hmem

/-- **Between the beginnings of two synchronisations lies an interval at least**, and so between the
beginning of the wait and the first of them. -/
theorem spaced {interval : Duration} (regularly : run.policy.syncInterval = some interval)
    (waits : Waits config run goLiveAt now resyncs trace later) {since : Int} (h : since ≤ now) :
    (since :: resyncs.map (·.begun)).IsChain
      fun earlier later : Int => earlier + interval.nanoseconds ≤ later := by
  induction waits generalizing since with
  | elapsed => exact .singleton _
  | rest ahead _ _ ih => exact ih (Int.le_trans h (Int.le_of_lt ahead))
  | @again _ _ _ resync _ _ regularly' _ made begun _ ih =>
    cases Option.some.inj (regularly.symm.trans regularly')
    have hbegun : since + interval.nanoseconds ≤ resync.begun := by omega
    exact .cons_cons hbegun (ih made.lapses.le)

/-- Every synchronisation takes an interval off the time that is left. -/
theorem length_mul_le {interval : Duration} (regularly : run.policy.syncInterval = some interval)
    (waits : Waits config run goLiveAt now resyncs trace later) :
    resyncs.length * interval.nanoseconds ≤ (goLiveAt - now).toNat := by
  induction waits with
  | elapsed => simp
  | rest ahead _ _ ih => exact Nat.le_trans ih (by omega)
  | again regularly' ahead made begun _ ih =>
    cases Option.some.inj (regularly.symm.trans regularly')
    have hlater := made.lapses.le
    rw [List.length_cons, Nat.add_one_mul]
    omega

/-- Without an interval there is no synchronisation. -/
theorem eq_nil (never : run.policy.syncInterval = none)
    (waits : Waits config run goLiveAt now resyncs trace later) : resyncs = [] := by
  induction waits with
  | elapsed => rfl
  | rest _ _ _ ih => exact ih
  | again regularly => cases never.symm.trans regularly

/-- While it waits no target of the run takes over. -/
theorem started (waits : Waits config run goLiveAt now resyncs trace later) :
    ∀ task ∈ startedIn trace, task.resume = .again := by
  induction waits with
  | elapsed => exact fun _ hmem => absurd hmem List.not_mem_nil
  | rest _ _ _ ih => exact ih
  | @again _ _ _ resync _ trace _ _ made _ _ ih =>
    intro task hmem
    have hsplit : task ∈ startedIn resync.asked ++ startedIn trace := by
      rw [startedIn, startedIn, ← List.filterMap_append]
      exact hmem
    rcases List.mem_append.mp hsplit with hmem | hmem
    · exact Pass.resume_of_started made.yields task hmem
    · exact ih task hmem

end Waits

/-! ### The rounds suffice -/

section

variable {goLiveAt : Instant} {left interval : Duration} {rounds : Nat} {now later : Int}
  {trace : PassTrace} {result : Except RunError Unit}

/-- A wait with nothing left is over. -/
theorem run_waitRounds_elapsed (elapsed : left.nanoseconds = 0) :
    (waitRounds config run goLiveAt rounds left).run = .done (.ok ()) := by
  cases rounds <;> rw [waitRounds, if_pos elapsed] <;> rfl

/-- A round with more than an interval left. -/
theorem run_waitRounds_again (pending : left.nanoseconds ≠ 0)
    (regularly : run.policy.syncInterval = some interval) (more : interval < left) :
    (waitRounds config run goLiveAt (rounds + 1) left).run =
      .ask (.site (.sleep interval)) fun _ => (resync config run).run >>= fun passed =>
        match passed with
        | .ok _ => .ask (.site .clock) fun reading : Instant =>
          (waitRounds config run goLiveAt rounds (reading.timeUntil goLiveAt)).run
        | .error error => .done (.error error) := by
  rw [waitRounds, if_neg pending, regularly, Option.filter_some, if_pos (decide_eq_true more)]
  change Program.ask _ _ = Program.ask _ _
  congr 1
  funext _
  change (resync config run).run >>= _ = _
  congr 1
  funext passed
  cases passed <;> rfl

/-- A round with no more than an interval left. -/
theorem run_waitRounds_rest (pending : left.nanoseconds ≠ 0)
    (short : ∀ interval, run.policy.syncInterval = some interval → left ≤ interval) :
    (waitRounds config run goLiveAt (rounds + 1) left).run =
      .ask (.site (.sleep left)) fun _ => .ask (.site .clock) fun reading : Instant =>
        (waitRounds config run goLiveAt rounds (reading.timeUntil goLiveAt)).run := by
  have hnone : run.policy.syncInterval.filter (· < left) = none := by
    rw [Option.filter_eq_none_iff]
    exact fun interval regularly more =>
      Nat.not_lt.mpr (short interval regularly) (of_decide_eq_true more)
  rw [waitRounds, if_neg pending, hnone]
  rfl

/-- So many rounds suffice for the time that is left. -/
def Suffices (policy : RunPolicy) (rounds left : Nat) : Prop :=
  match policy.syncInterval with
  | some interval => left ≤ rounds * interval.nanoseconds
  | none => left = 0 ∨ 0 < rounds

namespace Suffices

variable {policy : RunPolicy} {remaining : Nat}

/-- At the go-live time no round is needed. -/
theorem self (policy : RunPolicy) (rounds : Nat) (now : Int) :
    Suffices policy rounds (now - now).toNat := by
  rw [Suffices, Int.sub_self]
  split
  · exact Nat.zero_le _
  · exact .inl rfl

/-- Where no round is left there is no time left. -/
theorem eq_zero (enough : Suffices policy 0 remaining) : remaining = 0 := by
  rw [Suffices] at enough
  split at enough
  · exact Nat.le_zero.mp (Nat.zero_mul _ ▸ enough)
  · exact enough.resolve_right (Nat.lt_irrefl 0)

/-- A round takes an interval off the time that is left. -/
theorem onward (enough : Suffices policy (rounds + 1) remaining)
    (regularly : policy.syncInterval = some interval) {remaining' : Nat}
    (h : remaining' + interval.nanoseconds ≤ remaining) : Suffices policy rounds remaining' := by
  rw [Suffices, regularly] at enough ⊢
  have enough : remaining ≤ (rounds + 1) * interval.nanoseconds := enough
  rw [Nat.add_one_mul] at enough
  exact Nat.le_of_add_le_add_right (Nat.le_trans h enough)

/-- **The rounds of a run suffice** if its interval, if any, is positive. -/
theorem roundsFor (positive : ∀ interval, policy.syncInterval = some interval →
    0 < interval.nanoseconds) (left : Duration) :
    Suffices policy (roundsFor policy left) left.nanoseconds := by
  rw [Suffices, Scheduler.roundsFor]
  cases regularly : policy.syncInterval with
  | none => exact .inr Nat.zero_lt_one
  | some interval =>
    exact Nat.le_of_lt (Nat.lt_mul_of_div_lt (Nat.lt_succ_self _) (positive interval regularly))

end Suffices

theorem waits_of_due (due : goLiveAt.total ≤ now)
    (h : (waitRounds config run goLiveAt rounds (.between now goLiveAt.total)).run.Yields trace
      result) (lapses : Lapses now trace later) :
    result = .ok () ∧ ∃ resyncs,
      Waits config run goLiveAt.total now resyncs (look now :: trace) later := by
  have elapsed : (Duration.between now goLiveAt.total).nanoseconds = 0 := by
    rw [Duration.nanoseconds_between]
    omega
  rw [run_waitRounds_elapsed elapsed] at h
  obtain ⟨rfl, rfl⟩ := yields_done_iff.mp h
  cases lapses
  exact ⟨rfl, [], .elapsed due⟩

/-- **With enough rounds, and if every pass reports, a run waits as if they had no bound.** -/
theorem waits_of_yields (regular : goLiveAt.Regular)
    (enough : Suffices run.policy rounds (goLiveAt.total - now).toNat)
    (h : (waitRounds config run goLiveAt rounds (.between now goLiveAt.total)).run.Yields trace
      result) (lapses : Lapses now trace later) (listed : Listed trace) :
    result = .ok () ∧ ∃ resyncs,
      Waits config run goLiveAt.total now resyncs (look now :: trace) later := by
  induction rounds generalizing now trace with
  | zero =>
    have elapsed := enough.eq_zero
    exact waits_of_due (by omega) h lapses
  | succ rounds ih =>
    rcases Int.lt_or_le now goLiveAt.total with ahead | due
    case inr => exact waits_of_due due h lapses
    have pending : (Duration.between now goLiveAt.total).nanoseconds ≠ 0 := by
      rw [Duration.nanoseconds_between]
      omega
    by_cases more : ∃ interval, run.policy.syncInterval = some interval
        ∧ interval < .between now goLiveAt.total
    · obtain ⟨interval, regularly, more⟩ := more
      have hmore : interval.nanoseconds < (goLiveAt.total - now).toNat := more
      rw [run_waitRounds_again pending regularly more] at h
      obtain ⟨_, rest, rfl, hpass⟩ := yields_ask_iff.mp h
      obtain ⟨passed, asked, onward, hresync, honward, rfl⟩ := yields_bind_iff.mp hpass
      obtain ⟨report, rfl⟩ := Pass.resync.reports_of_listed hresync
        (listed.mono (List.subset_cons_of_subset _ (List.subset_append_left _ _)))
      obtain ⟨reading, final, rfl, hrounds⟩ := yields_ask_iff.mp honward
      obtain ⟨ended, hasked, hlooked⟩ := lapses.of_sleep.of_append
      obtain ⟨rfl, hfinal⟩ := hlooked.of_read
      have made : PassRun.Of config run .resync ⟨_, asked, ended, report⟩ := ⟨hresync, hasked⟩
      have hlater := hasked.le
      rw [Instant.timeUntil_ofTotal regular] at hrounds
      obtain ⟨rfl, resyncs, waits⟩ := ih (enough.onward regularly (by omega)) hrounds hfinal
        (listed.mono fun _ hmem => by simp [hmem])
      exact ⟨rfl, _, .again regularly (by omega) made rfl waits⟩
    · have short (interval : Duration) (regularly : run.policy.syncInterval = some interval) :
          Duration.between now goLiveAt.total ≤ interval :=
        Nat.not_lt.mp fun hlt => more ⟨interval, regularly, hlt⟩
      rw [run_waitRounds_rest pending short] at h
      obtain ⟨_, rest, rfl, hlook⟩ := yields_ask_iff.mp h
      obtain ⟨reading, final, rfl, hrounds⟩ := yields_ask_iff.mp hlook
      obtain ⟨rfl, hfinal⟩ := lapses.of_sleep.of_read
      -- The sleep ends at the go-live time.
      have hsum : now + ((goLiveAt.total - now).toNat : Int) = goLiveAt.total := by omega
      rw [Duration.nanoseconds_between, hsum] at hrounds hfinal ⊢
      rw [Instant.timeUntil_ofTotal regular] at hrounds
      obtain ⟨rfl, resyncs, waits⟩ := ih (.self _ _ _) hrounds hfinal
        (listed.mono fun _ hmem => by simp [hmem])
      refine ⟨rfl, resyncs, .rest ahead (fun interval regularly => ?_) waits⟩
      have hshort : (goLiveAt.total - now).toNat ≤ interval.nanoseconds := short interval regularly
      omega

/-- With enough rounds a run waits in every way that has no bound on them. -/
theorem Waits.yields {resyncs : List PassRun} (regular : goLiveAt.Regular)
    (waits : Waits config run goLiveAt.total now resyncs trace later)
    (enough : Suffices run.policy rounds (goLiveAt.total - now).toNat) :
    ∃ rest, trace = look now :: rest
      ∧ (waitRounds config run goLiveAt rounds (.between now goLiveAt.total)).run.Yields rest
        (.ok ()) := by
  induction waits generalizing rounds with
  | @elapsed now reached =>
    have elapsed : (Duration.between now goLiveAt.total).nanoseconds = 0 := by
      rw [Duration.nanoseconds_between]
      omega
    refine ⟨[], rfl, ?_⟩
    rw [run_waitRounds_elapsed elapsed]
    exact .done _
  | @rest now _ _ _ ahead short _ ih =>
    have pending : (Duration.between now goLiveAt.total).nanoseconds ≠ 0 := by
      rw [Duration.nanoseconds_between]
      omega
    cases rounds with
    | zero => exact absurd enough.eq_zero pending
    | succ rounds =>
      obtain ⟨rest, rfl, hrounds⟩ := ih (Suffices.self run.policy rounds goLiveAt.total)
      refine ⟨_, rfl, ?_⟩
      rw [run_waitRounds_rest pending fun interval regularly => ?_]
      · rw [← Instant.timeUntil_ofTotal regular] at hrounds
        exact yields_ask_iff.mpr ⟨(), _, rfl, .ask _ hrounds⟩
      · have hshort := short interval regularly
        change (goLiveAt.total - now).toNat ≤ interval.nanoseconds
        omega
  | @again now _ interval resync _ _ regularly ahead made begun _ ih =>
    have more : interval < .between now goLiveAt.total := by
      change interval.nanoseconds < (goLiveAt.total - now).toNat
      omega
    have pending : (Duration.between now goLiveAt.total).nanoseconds ≠ 0 :=
      Nat.ne_of_gt (Nat.zero_lt_of_lt more)
    have hlater := made.lapses.le
    cases rounds with
    | zero => exact absurd enough.eq_zero pending
    | succ rounds =>
      obtain ⟨rest, rfl, hrounds⟩ := ih (enough.onward regularly (by omega))
      refine ⟨_, rfl, ?_⟩
      rw [run_waitRounds_again pending regularly more]
      rw [← Instant.timeUntil_ofTotal regular] at hrounds
      exact yields_ask_iff.mpr ⟨(), _, rfl, made.yields.bind (.ask _ hrounds)⟩

end

/-! ### When a run goes live -/

/-- What a pass asks, how long it takes and what it reports, whenever it begins. -/
structure PassResponse where
  /-- What it asks, and what it is answered. -/
  asked : PassTrace
  /-- How long it takes. -/
  taken : Duration
  /-- What it reports. -/
  report : PassReport

/-- The pass that begins at some time. -/
def PassResponse.begunAt (response : PassResponse) (begun : Int) : PassRun :=
  ⟨begun, response.asked, begun + response.taken.nanoseconds, response.report⟩

/-- **However long the synchronisations take, the wait comes to an end.** -/
theorem exists_waits (goLiveAt : Int) (positive : ∀ interval,
      run.policy.syncInterval = some interval → 0 < interval.nanoseconds)
    {responses : Nat → PassResponse}
    (made : ∀ n begun, ((responses n).begunAt begun).Of config run .resync) (n : Nat) (now : Int) :
    ∃ resyncs trace later, Waits config run goLiveAt now resyncs trace later
      ∧ ∀ (i : Nat) resync, resyncs[i]? = some resync →
        resync = (responses (n + i)).begunAt resync.begun := by
  -- By induction on the time that is left; a synchronisation takes some of it.
  generalize hleft : (goLiveAt - now).toNat = left
  induction left using Nat.strongRecOn generalizing n now with
  | ind left ih =>
  rcases Int.lt_or_le now goLiveAt with ahead | due
  case inr => exact ⟨[], _, _, .elapsed due, fun _ _ h => by cases h⟩
  by_cases more : ∃ interval, run.policy.syncInterval = some interval
      ∧ now + interval.nanoseconds < goLiveAt
  · obtain ⟨interval, regularly, more⟩ := more
    have hpositive := positive interval regularly
    have hresync := made n (now + interval.nanoseconds)
    have hlater : now + interval.nanoseconds
      ≤ ((responses n).begunAt (now + interval.nanoseconds)).ended := hresync.lapses.le
    obtain ⟨resyncs, trace, later, waits, hresponses⟩ :=
      ih _ (by omega) (n + 1) ((responses n).begunAt (now + interval.nanoseconds)).ended rfl
    refine ⟨_, _, later, .again regularly more hresync rfl waits, fun i resync h => ?_⟩
    cases i with
    | zero =>
      cases h
      rfl
    | succ i =>
      have hresponse := hresponses i resync h
      rwa [Nat.succ_add_eq_add_succ] at hresponse
  · refine ⟨[], _, _, .rest ahead (fun interval regularly => ?_) (.elapsed (Int.le_refl _)),
      fun _ _ h => by cases h⟩
    exact Int.not_lt.mp fun hlt => more ⟨interval, regularly, hlt⟩

/-- How a run that waits from some time on goes live: its sources are synchronised again in some
passes, and then its targets take over in one pass. -/
structure GoesLive (config : SchedulerConfig) (run : MigrationRun) (goLiveAt start : Int)
    (resyncs : List PassRun) (cutover : PassRun) (trace : PassTrace) : Prop where
  /-- The pass in which the targets take over comes once, behind the wait, in which no target takes
  over. -/
  course : ∃ waiting, Waits config run goLiveAt start resyncs waiting cutover.begun
    ∧ trace = waiting ++ cutover.asked ∧ ∀ task ∈ startedIn waiting, task.resume = .again
  /-- It reports. -/
  made : cutover.Of config run .goLive
  /-- It never begins before the go-live time. -/
  due : goLiveAt ≤ cutover.begun
  /-- Every synchronisation begins before the go-live time. -/
  ahead : ∀ resync ∈ resyncs, resync.Of config run .resync ∧ resync.begun < goLiveAt
  /-- Between the beginnings of two of them lies an interval at least. -/
  spaced : ∀ interval, run.policy.syncInterval = some interval →
    (start :: resyncs.map (·.begun)).IsChain
      fun earlier later : Int => earlier + interval.nanoseconds ≤ later
  /-- There is at most one for every interval of the time that was left. -/
  count : ∀ interval, run.policy.syncInterval = some interval →
    resyncs.length ≤ (goLiveAt - start).toNat / interval.nanoseconds
  /-- Without an interval there is none. -/
  never : run.policy.syncInterval = none → resyncs = []

/-- A wait with a pass behind it in which the targets take over. -/
theorem Waits.goesLive {goLiveAt start : Int} {resyncs : List PassRun} {waiting : PassTrace}
    {cutover : PassRun} (positive : ∀ interval, run.policy.syncInterval = some interval →
      0 < interval.nanoseconds)
    (waits : Waits config run goLiveAt start resyncs waiting cutover.begun)
    (made : cutover.Of config run .goLive) :
    GoesLive config run goLiveAt start resyncs cutover (waiting ++ cutover.asked) where
  course := ⟨waiting, waits, rfl, waits.started⟩
  made := made
  due := waits.due
  ahead _ := waits.begun_lt
  spaced _ regularly := waits.spaced regularly (Int.le_refl _)
  count interval regularly :=
    (Nat.le_div_iff_mul_le (positive interval regularly)).mpr (waits.length_mul_le regularly)
  never := fun never => waits.eq_nil never

/-- A run looks at the clock, waits, and goes live. -/
theorem yields_goLiveInTime_iff {goLiveAt : Instant} {trace : PassTrace}
    {result : Except RunError PassReport} (scheduled : run.policy.goLiveAt = some goLiveAt) :
    (goLiveInTime config run).run.Yields trace result ↔
      ∃ reading waited waiting rest, trace = ⟨.site .clock, reading⟩ :: (waiting ++ rest)
        ∧ (waitRounds config run goLiveAt (roundsFor run.policy (reading.timeUntil goLiveAt))
            (reading.timeUntil goLiveAt)).run.Yields waiting waited
        ∧ match waited with
          | .ok _ => (goLive config run).run.Yields rest result
          | .error error => rest = [] ∧ result = .error error := by
  have hrun : (goLiveInTime config run).run =
      .ask (.site .clock) fun reading : Instant =>
        (waitRounds config run goLiveAt (roundsFor run.policy (reading.timeUntil goLiveAt))
          (reading.timeUntil goLiveAt)).run >>= fun waited =>
          match waited with
          | .ok _ => (goLive config run).run
          | .error error => .done (.error error) := by
    rw [goLiveInTime, scheduled]
    change Program.ask _ _ = Program.ask _ _
    congr 1
    funext reading
    change (waitRounds _ _ _ _ _).run >>= _ = _
    congr 1
    funext waited
    cases waited <;> rfl
  rw [hrun, yields_ask_iff]
  constructor
  · rintro ⟨reading, onward, rfl, honward⟩
    obtain ⟨waited, waiting, rest, hwaiting, hrest, rfl⟩ := yields_bind_iff.mp honward
    refine ⟨reading, waited, waiting, rest, rfl, hwaiting, ?_⟩
    cases waited with
    | ok _ => exact hrest
    | error error => exact yields_done_iff.mp hrest
  · rintro ⟨reading, waited, waiting, rest, rfl, hwaiting, hrest⟩
    refine ⟨reading, _, rfl, hwaiting.bind ?_⟩
    cases waited with
    | ok _ => exact hrest
    | error error => exact yields_done_iff.mpr hrest

/-- **A run goes live once, and never before its go-live time.**  For every go-live time other than
a leap second in the middle of a day, every interval that is positive or none, and every sequence
of durations of the synchronisations, each of these begins before that time and an interval at
least behind the one before, and there are at most as many as there are intervals in the time that
was left.  Every run whose clock is right and whose passes report goes this way. -/
theorem goes_live_in_time {goLiveAt : Instant} (scheduled : run.policy.goLiveAt = some goLiveAt)
    (regular : goLiveAt.Regular) (positive : ∀ interval,
      run.policy.syncInterval = some interval → 0 < interval.nanoseconds) :
    (∀ (responses : Nat → PassResponse) (last : PassResponse) (start : Int),
      (∀ n begun, ((responses n).begunAt begun).Of config run .resync) →
      (∀ begun, (last.begunAt begun).Of config run .goLive) →
      ∃ resyncs begun trace, (goLiveInTime config run).run.Yields trace (.ok last.report)
        ∧ Lapses start trace (last.begunAt begun).ended
        ∧ GoesLive config run goLiveAt.total start resyncs (last.begunAt begun) trace
        ∧ ∀ (i : Nat) resync, resyncs[i]? = some resync →
          resync = (responses i).begunAt resync.begun)
      ∧ ∀ start trace result ended, (goLiveInTime config run).run.Yields trace result →
        Lapses start trace ended → Listed trace →
        ∃ resyncs cutover, result = .ok cutover.report ∧ cutover.ended = ended
          ∧ GoesLive config run goLiveAt.total start resyncs cutover trace := by
  have suffices_start (start : Int) : Suffices run.policy
      (roundsFor run.policy (.between start goLiveAt.total)) (goLiveAt.total - start).toNat :=
    Suffices.roundsFor positive (.between start goLiveAt.total)
  refine ⟨fun responses last start made taken => ?_,
    fun start trace result ended run_yields lapses listed => ?_⟩
  · obtain ⟨resyncs, waiting, begun, waits, hresponses⟩ :=
      exists_waits goLiveAt.total positive made 0 start
    obtain ⟨rest, rfl, hrounds⟩ := waits.yields regular (suffices_start start)
    rw [← Instant.timeUntil_ofTotal regular] at hrounds
    refine ⟨resyncs, begun, _, ?_, waits.lapses.append (taken begun).lapses,
      waits.goesLive positive (taken begun), fun i resync h => ?_⟩
    · exact (yields_goLiveInTime_iff scheduled).mpr
        ⟨_, _, rest, _, rfl, hrounds, (taken begun).yields⟩
    · have hresponse := hresponses i resync h
      rwa [Nat.zero_add] at hresponse
  · obtain ⟨reading, waited, waiting, rest, rfl, hwaiting, hrest⟩ :=
      (yields_goLiveInTime_iff scheduled).mp run_yields
    obtain ⟨rfl, onward⟩ := lapses.of_read
    obtain ⟨begun, hlapses, hlast⟩ := onward.of_append
    rw [Instant.timeUntil_ofTotal regular] at hwaiting
    obtain ⟨rfl, resyncs, waits⟩ := waits_of_yields regular (suffices_start start) hwaiting hlapses
      (listed.mono fun _ hmem => by simp [hmem])
    obtain ⟨report, rfl⟩ := Pass.goLive.reports_of_listed hrest
      (listed.mono fun _ hmem => by simp [hmem])
    have made : PassRun.Of config run .goLive ⟨begun, rest, ended, report⟩ := ⟨hrest, hlast⟩
    exact ⟨resyncs, _, rfl, rfl, waits.goesLive positive made⟩

/-! ### Two runs without sources -/

/-- A list without sources. -/
def emptyList : Exchange Ask Answer :=
  ⟨.site (.store (.sourcesOfRun (default : MigrationRun).id)), .ok []⟩

/-- A run that synchronises its sources every minute and is to go live at some time. -/
def everyMinuteUntil (goLiveAt : Instant) : MigrationRun :=
  { (default : MigrationRun) with
    policy := { syncIntervalSeconds := some 60, goLiveAt := some goLiveAt } }

theorem everyMinuteUntil_positive (goLiveAt : Instant) (interval : Duration)
    (regularly : (everyMinuteUntil goLiveAt).policy.syncInterval = some interval) :
    0 < interval.nanoseconds := by
  cases regularly
  decide

/-- A pass over no source asks nothing. -/
theorem drive_nil (config : SchedulerConfig) (run : MigrationRun) (resume : Resume) :
    drive config run resume [] = .done ⟨[], 0⟩ := by
  rw [drive, pass, passRounds]
  simp [Progress.admitted, Progress.refill, HostReport.ordered, stableSort]

/-- A pass over a run without sources lists them and reports nothing. -/
def emptyPass (taken : Duration) : PassResponse := ⟨[emptyList], taken, ⟨[], 0⟩⟩

theorem emptyPass_of (goLiveAt : Instant) (pass : Pass) (taken : Duration) (begun : Int) :
    ((emptyPass taken).begunAt begun).Of {} (everyMinuteUntil goLiveAt) pass where
  yields := by
    rw [Pass.run_schedule]
    refine yields_ask_iff.mpr ⟨.ok [], [], rfl, ?_⟩
    dsimp only
    rw [List.filter_nil, drive_nil]
    exact .done _
  lapses := .answered id _ taken (.nil _)

/-- What a run without sources asks that synchronises them once before it goes live. -/
def resyncedOnce (start resumed : Int) : PassTrace :=
  [look start, nap ⟨60_000_000_000⟩, emptyList, look resumed, emptyList]

theorem resyncedOnce_yields {goLiveAt : Instant} {start resumed : Int}
    (more : ⟨60_000_000_000⟩ < (Instant.ofTotal start).timeUntil goLiveAt)
    (elapsed : ((Instant.ofTotal resumed).timeUntil goLiveAt).nanoseconds = 0) :
    (goLiveInTime {} (everyMinuteUntil goLiveAt)).run.Yields (resyncedOnce start resumed)
      (.ok ⟨[], 0⟩) := by
  refine (yields_goLiveInTime_iff rfl).mpr ⟨.ofTotal start, .ok (),
    [nap ⟨60_000_000_000⟩, emptyList, look resumed], [emptyList], rfl, ?_,
    (emptyPass_of goLiveAt .goLive ⟨0⟩ 0).yields⟩
  have pending := Nat.ne_of_gt (Nat.zero_lt_of_lt more)
  have hrounds (left : Duration) : roundsFor (everyMinuteUntil goLiveAt).policy left
      = left.nanoseconds / 60_000_000_000 + 1 := rfl
  rw [hrounds, run_waitRounds_again pending rfl more]
  refine yields_ask_iff.mpr ⟨(), [emptyList, look resumed], rfl, ?_⟩
  refine (emptyPass_of goLiveAt .resync ⟨0⟩ 0).yields.bind (.ask _ ?_)
  rw [run_waitRounds_elapsed elapsed]
  exact .done _

theorem listed_resyncedOnce (start resumed : Int) : Listed (resyncedOnce start resumed) := by
  have answered (exchange : Exchange Ask Answer) (hmem : exchange ∈ resyncedOnce start resumed) :
      exchange = emptyList ∨ exchange.1.Timed := by
    simp only [resyncedOnce, List.mem_cons, List.not_mem_nil, or_false] at hmem
    rcases hmem with rfl | rfl | rfl | rfl | rfl
    · exact .inr trivial
    · exact .inr trivial
    · exact .inl rfl
    · exact .inr trivial
    · exact .inl rfl
  intro runId listed hmem
  rcases answered _ hmem with hempty | timed
  · cases hempty
    exact ⟨[], rfl⟩
  · exact timed.elim

/-- Two and a half minutes after 1970-01-01T00:00:00Z. -/
def noLeapSecond : Instant := ⟨150, 0⟩

/-- A run goes live in time whose synchronisation takes a minute and a half. -/
theorem noLeapSecond_in_time :
    (everyMinuteUntil noLeapSecond).policy.goLiveAt = some noLeapSecond
      ∧ noLeapSecond.Regular
      ∧ (∀ interval, (everyMinuteUntil noLeapSecond).policy.syncInterval = some interval →
          0 < interval.nanoseconds)
      ∧ (∀ begun, ((emptyPass ⟨0⟩).begunAt begun).Of {} (everyMinuteUntil noLeapSecond) .resync)
      ∧ (∀ begun, ((emptyPass ⟨0⟩).begunAt begun).Of {} (everyMinuteUntil noLeapSecond) .goLive)
      ∧ (∃ resyncs begun trace,
          (goLiveInTime {} (everyMinuteUntil noLeapSecond)).run.Yields trace (.ok ⟨[], 0⟩)
            ∧ GoesLive {} (everyMinuteUntil noLeapSecond) noLeapSecond.total 0 resyncs
              ((emptyPass ⟨0⟩).begunAt begun) trace)
      ∧ (goLiveInTime {} (everyMinuteUntil noLeapSecond)).run.Yields
          (resyncedOnce 0 150_000_000_000) (.ok ⟨[], 0⟩)
      ∧ Lapses 0 (resyncedOnce 0 150_000_000_000) 150_000_000_000
      ∧ Listed (resyncedOnce 0 150_000_000_000)
      ∧ ∃ resyncs cutover, cutover.ended = 150_000_000_000
          ∧ GoesLive {} (everyMinuteUntil noLeapSecond) noLeapSecond.total 0 resyncs cutover
            (resyncedOnce 0 150_000_000_000) := by
  have regular : noLeapSecond.Regular := fun leap => absurd leap (by decide)
  have positive := everyMinuteUntil_positive noLeapSecond
  have made (pass : Pass) (begun : Int) := emptyPass_of noLeapSecond pass ⟨0⟩ begun
  have yields : (goLiveInTime {} (everyMinuteUntil noLeapSecond)).run.Yields
      (resyncedOnce 0 150_000_000_000) (.ok ⟨[], 0⟩) :=
    resyncedOnce_yields (by decide) (by decide)
  have lapses : Lapses 0 (resyncedOnce 0 150_000_000_000) 150_000_000_000 :=
    .read (.slept (.answered id _ ⟨90_000_000_000⟩ (.read (.answered id _ ⟨0⟩ (.nil _)))))
  obtain ⟨ends, keeps⟩ :=
    @goes_live_in_time {} (everyMinuteUntil noLeapSecond) noLeapSecond rfl regular positive
  obtain ⟨resyncs, begun, trace, hyields, -, goesLive, -⟩ :=
    ends (fun _ => emptyPass ⟨0⟩) (emptyPass ⟨0⟩) 0 (fun _ => made .resync) (made .goLive)
  obtain ⟨resyncs', cutover, -, hended, goesLive'⟩ :=
    keeps 0 _ _ _ yields lapses (listed_resyncedOnce _ _)
  exact ⟨rfl, regular, positive, made .resync, made .goLive,
    ⟨resyncs, begun, trace, hyields, goesLive⟩, yields, lapses, listed_resyncedOnce _ _, resyncs',
    cutover, hended, goesLive'⟩

/-- Half a second into a leap second that does not end a day. -/
def leapSecond : Instant := ⟨1_717_200_059, 1_500_000_000⟩

example : Instant.parse? "2024-06-01T00:00:60.5Z" = some leapSecond := by decide

/-- The beginning of that day. -/
def midnight : Int := 1_717_200_000_000_000_000

/-- **There is a go-live time that a run does not wait for**: a leap second in the middle of a
day. -/
theorem leapSecond_goes_live_early :
    (everyMinuteUntil leapSecond).policy.goLiveAt = some leapSecond
      ∧ (∀ interval, (everyMinuteUntil leapSecond).policy.syncInterval = some interval →
          0 < interval.nanoseconds)
      ∧ (goLiveInTime {} (everyMinuteUntil leapSecond)).run.Yields
          (resyncedOnce midnight (midnight + 60_000_000_000)) (.ok ⟨[], 0⟩)
      ∧ Lapses midnight (resyncedOnce midnight (midnight + 60_000_000_000))
          (midnight + 60_000_000_000)
      ∧ Listed (resyncedOnce midnight (midnight + 60_000_000_000))
      ∧ ¬∃ resyncs cutover, cutover.ended = midnight + 60_000_000_000
        ∧ GoesLive {} (everyMinuteUntil leapSecond) leapSecond.total midnight resyncs cutover
          (resyncedOnce midnight (midnight + 60_000_000_000)) := by
  have lapses : Lapses midnight (resyncedOnce midnight (midnight + 60_000_000_000))
      (midnight + 60_000_000_000) :=
    .read (.slept (.answered id _ ⟨0⟩ (.read (.answered id _ ⟨0⟩ (.nil _)))))
  refine ⟨rfl, everyMinuteUntil_positive _, resyncedOnce_yields (by decide) (by decide), lapses,
    listed_resyncedOnce _ _, ?_⟩
  rintro ⟨resyncs, cutover, hended, goesLive⟩
  have hlasts := goesLive.made.lapses.le
  rw [hended] at hlasts
  exact absurd (Int.le_trans goesLive.due hlasts) (by decide)

end Scheduler

end ServerMigration
