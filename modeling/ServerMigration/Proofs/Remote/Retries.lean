import ServerMigration.Proofs.Program.Yields
import ServerMigration.Remote.Ssh

/-!
# How often a command is tried

The ssh client is started until it connects, with a pause between any two starts, and as often as
the configuration allows at most.  So one start decides: the first that did not end for want of a
connection, or the last one that is allowed if there is none.  What the earlier starts left behind
is forgotten; they only count.

## Main definitions

* `Ssh.Refused` : a start that ended for want of a connection.
* `Ssh.StartsAs` : what the starts of a run come to, in turn.
* `Ssh.decisive` : the start that decides.
* `Ssh.course` : starts with pauses between them.
* `Ssh.verdict` : the answer that a start gives if it decides.

## Main results

* `Ssh.executeFrom_succ` : what one start leads to.
* `Ssh.yields_executeFrom_iff` : the starts that are left go on until one of them decides.
* `Ssh.execute_decided` : how often the client is started, and what comes of it.
-/

namespace ServerMigration.Ssh

open Program

/-! ### The start that decides -/

/-- What a start of the client comes to: a reason why it could not be started, or what it left when
it ended. -/
abbrev Start := Except String ProcessOutput

/-- The client ended for want of a connection. -/
def Refused : Start → Prop
  | .ok output => output.exitCode = 255
  | .error _ => False

instance : DecidablePred Refused
  | .ok output => inferInstanceAs (Decidable (output.exitCode = 255))
  | .error _ => inferInstanceAs (Decidable False)

/-- The starts behind the first. -/
def later (starts : Nat → Start) : Nat → Start := fun i => starts (i + 1)

/-- The start that decides, counted from zero: the first of `most` that is not refused, and the last
of them if there is none. -/
def decisive (starts : Nat → Start) (most : Nat) : Nat :=
  ((List.range most).find? fun i => ¬Refused (starts i)).getD (most - 1)

section

variable {starts : Nat → Start} {left most : Nat}

/-- A start that is not refused decides, and so does one behind which no other is allowed. -/
theorem decisive_of_settled (settled : Refused (starts 0) → left = 0) :
    decisive starts (left + 1) = 0 := by
  unfold decisive
  rw [List.range_succ_eq_map, List.find?_cons]
  by_cases refused : Refused (starts 0)
  · obtain rfl := settled refused
    simp [refused]
  · simp [refused]

/-- A start that is refused leaves it to the next ones. -/
theorem decisive_of_refused (refused : Refused (starts 0)) :
    decisive starts (left + 2) = decisive (later starts) (left + 1) + 1 := by
  unfold decisive
  rw [List.range_succ_eq_map, List.find?_cons_of_neg (by simp [refused]), List.find?_map]
  show (((List.range (left + 1)).find? fun i => ¬Refused (later starts i)).map Nat.succ).getD
    (left + 1) = _
  cases (List.range (left + 1)).find? fun i => ¬Refused (later starts i) <;> simp

/-- The start that decides is allowed, all starts before it are refused, and it is refused itself
only if it is the last one that is allowed. -/
theorem decisive_spec (starts : Nat → Start) (positive : 0 < most) :
    decisive starts most < most ∧ (∀ i < decisive starts most, Refused (starts i))
      ∧ (Refused (starts (decisive starts most)) → decisive starts most + 1 = most) := by
  unfold decisive
  cases found : (List.range most).find? fun i => ¬Refused (starts i) with
  | none =>
    have all : ∀ i < most, Refused (starts i) := by simpa using List.find?_range_eq_none.mp found
    rw [Option.getD_none]
    refine ⟨by omega, ?_, by omega⟩
    intro i hi
    exact all i (by omega)
  | some i =>
    obtain ⟨hi, hmem, hbefore⟩ := List.find?_range_eq_some.mp found
    have connected : ¬Refused (starts i) := by simpa using hi
    rw [Option.getD_some]
    refine ⟨List.mem_range.mp hmem, ?_, fun refused => absurd refused connected⟩
    intro j hj
    simpa using hbefore j hj

end

/-! ### Starts and pauses -/

section

variable (config : SshConfig) (host : RemoteHost) (command : String) (options : ExecOptions)

/-- A start of the client for a command. -/
def started (start : Start) : Exchange Ask Answer :=
  ⟨.start (arguments config host (remoteCommand command options)), start⟩

/-- A pause before the next start. -/
def paused : Exchange Ask Answer := ⟨.pause (.ofSeconds config.retryBackoffSeconds.toNat), ()⟩

/-- The first `n + 1` starts, with a pause between any two. -/
def course (starts : Nat → Start) (n : Nat) : List (Exchange Ask Answer) :=
  ((List.range (n + 1)).map fun i => started config host command options (starts i)).intersperse
    (paused config)

/-- The answer that a start gives if it decides, when `n` starts came before it and `most` are
allowed at most. -/
def verdict (most n : Nat) : Start → Except RemoteError String
  | .error reason => .error (.connection host.displayName (n + 1) reason)
  | .ok output =>
    if output.exitCode = 255 then
      .error (.connection host.displayName most (Text.trimmed (Text.decodeUtf8 output.stderr)))
    else if output.exitCode ≠ 0 ∧ options.raiseOnFailure then
      .error (.execution host.displayName command output.exitCode (Text.decodeUtf8 output.stdout)
        (Text.decodeUtf8 output.stderr))
    else .ok (Text.decodeUtf8 output.stdout)

end

/-- The starts in a trace come to what `starts` says, in turn. -/
def StartsAs : (starts : Nat → Start) → List (Exchange Ask Answer) → Prop
  | _, [] => True
  | starts, ⟨.start _, start⟩ :: trace => start = starts 0 ∧ StartsAs (later starts) trace
  | starts, ⟨.pause _, _⟩ :: trace => StartsAs starts trace

variable {config : SshConfig} {host : RemoteHost} {command : String} {options : ExecOptions}
  {starts : Nat → Start} {trace : List (Exchange Ask Answer)} {result : Except RemoteError String}
  {left most n : Nat} {start : Start} {reason : String} {output : ProcessOutput}

@[simp] theorem course_zero :
    course config host command options starts 0
      = [started config host command options (starts 0)] :=
  rfl

theorem course_succ :
    course config host command options starts (n + 1)
      = started config host command options (starts 0) :: paused config
        :: course config host command options (later starts) n := by
  unfold course
  rw [List.range_succ_eq_map (n := n + 1), List.range_succ_eq_map (n := n)]
  simp [Function.comp_def, later]

theorem verdict_of_refused (refused : Refused (.ok output)) :
    verdict host command options most n (.ok output)
      = .error (.connection host.displayName most (Text.trimmed (Text.decodeUtf8 output.stderr))) :=
  if_pos refused

theorem verdict_of_connected (connected : ¬Refused (.ok output)) :
    verdict host command options most n (.ok output) = outcome host command options output :=
  if_neg connected

@[simp] theorem startsAs_nil : StartsAs starts [] := trivial

@[simp] theorem startsAs_started_cons :
    StartsAs starts (started config host command options start :: trace)
      ↔ start = starts 0 ∧ StartsAs (later starts) trace :=
  Iff.rfl

@[simp] theorem startsAs_paused_cons :
    StartsAs starts (paused config :: trace) ↔ StartsAs starts trace :=
  Iff.rfl

/-! ### One start after the other -/

/-- **What one start leads to.**  If it is refused and another one is allowed, it leads to a pause
and to that one; otherwise its verdict is the answer. -/
theorem executeFrom_succ (allowed : left < attempts config) :
    executeFrom config host command options (left + 1) reason
      = .ask (.start (arguments config host (remoteCommand command options))) fun start =>
          if Refused start ∧ left ≠ 0 then
            .ask (.pause (.ofSeconds config.retryBackoffSeconds.toNat)) fun _ =>
              executeFrom config host command options left reason
          else .done (verdict host command options (attempts config)
            (attempts config - (left + 1)) start) := by
  refine congrArg (Program.ask _) (funext fun start => ?_)
  cases start with
  | error reason' =>
    have connected : ¬Refused (.error reason') := id
    have number : attempts config - left = attempts config - (left + 1) + 1 := by omega
    rw [if_neg fun h => connected h.1, verdict, ← number]
    rfl
  | ok output =>
    change (if output.exitCode = connectionFailure then _ else _ : Program Ask Answer _) = _
    by_cases refused : Refused (.ok output)
    · rw [if_pos (c := output.exitCode = connectionFailure) refused, verdict_of_refused refused]
      cases left with
      | zero => simp [executeFrom]
      | succ left =>
        -- The next start forgets why this one was refused.
        simp [refused, pause, executeFrom]
    · rw [if_neg (c := output.exitCode = connectionFailure) refused, verdict_of_connected refused]
      simp [refused]

/-- A first start that is not refused, or behind which no other is allowed, is the only one. -/
theorem yields_executeFrom_of_settled (allowed : left < attempts config)
    (settled : Refused (starts 0) → left = 0) :
    (executeFrom config host command options (left + 1) reason).Yields trace result
        ∧ StartsAs starts trace ↔
      trace = [started config host command options (starts 0)]
        ∧ result = verdict host command options (attempts config) (attempts config - (left + 1))
          (starts 0) := by
  have last : ¬(Refused (starts 0) ∧ left ≠ 0) := fun h => h.2 (settled h.1)
  rw [executeFrom_succ allowed, yields_ask_iff]
  constructor
  · rintro ⟨⟨start, rest, rfl, h⟩, follows⟩
    obtain ⟨rfl, -⟩ := startsAs_started_cons.mp follows
    rw [if_neg last] at h
    obtain ⟨rfl, rfl⟩ := yields_done_iff.mp h
    exact ⟨rfl, rfl⟩
  · rintro ⟨rfl, rfl⟩
    refine ⟨⟨starts 0, [], rfl, ?_⟩, by simp⟩
    rw [if_neg last]
    exact .done _

/-- A first start that is refused is forgotten after a pause if another one is allowed. -/
theorem yields_executeFrom_of_refused (allowed : left + 1 < attempts config)
    (refused : Refused (starts 0)) :
    (executeFrom config host command options (left + 2) reason).Yields trace result
        ∧ StartsAs starts trace ↔
      ∃ onward, trace = started config host command options (starts 0) :: paused config :: onward
        ∧ (executeFrom config host command options (left + 1) reason).Yields onward result
        ∧ StartsAs (later starts) onward := by
  have more : Refused (starts 0) ∧ left + 1 ≠ 0 := ⟨refused, Nat.succ_ne_zero left⟩
  rw [executeFrom_succ allowed, yields_ask_iff]
  constructor
  · rintro ⟨⟨start, rest, rfl, h⟩, follows⟩
    obtain ⟨rfl, onwards⟩ := startsAs_started_cons.mp follows
    rw [if_pos more] at h
    obtain ⟨_, onward, rfl, run⟩ := yields_ask_iff.mp h
    exact ⟨onward, rfl, run, startsAs_paused_cons.mp onwards⟩
  · rintro ⟨onward, rfl, run, follows⟩
    refine ⟨⟨starts 0, _, rfl, ?_⟩, by simp [follows]⟩
    rw [if_pos more]
    exact yields_ask_iff.mpr ⟨(), onward, rfl, run⟩

/-- **The starts that are left go on until one of them decides.** -/
theorem yields_executeFrom_iff (allowed : left < attempts config) :
    (executeFrom config host command options (left + 1) reason).Yields trace result
        ∧ StartsAs starts trace ↔
      trace = course config host command options starts (decisive starts (left + 1))
        ∧ result = verdict host command options (attempts config)
          (attempts config - (left + 1) + decisive starts (left + 1))
          (starts (decisive starts (left + 1))) := by
  induction left generalizing starts trace with
  | zero =>
    have settled : Refused (starts 0) → 0 = 0 := fun _ => rfl
    rw [yields_executeFrom_of_settled allowed settled, decisive_of_settled settled]
    simp
  | succ left ih =>
    by_cases refused : Refused (starts 0)
    · have number : attempts config - (left + 1 + 1) + (decisive (later starts) (left + 1) + 1)
          = attempts config - (left + 1) + decisive (later starts) (left + 1) := by
        omega
      rw [yields_executeFrom_of_refused allowed refused, decisive_of_refused refused, course_succ,
        number]
      simp only [ih (Nat.lt_of_succ_lt allowed)]
      constructor
      · rintro ⟨onward, rfl, rfl, rfl⟩
        exact ⟨rfl, rfl⟩
      · rintro ⟨rfl, rfl⟩
        exact ⟨_, rfl, rfl, rfl⟩
    · have settled : Refused (starts 0) → left + 1 = 0 := fun h => absurd h refused
      rw [yields_executeFrom_of_settled allowed settled, decisive_of_settled settled]
      simp

/-! ### Running a command -/

/-- **How often the client is started, and what comes of it.**  Whatever its starts come to, the
client is started until one of the starts decides: the first that does not end with status 255, or
the last one that is allowed.  There is a pause between any two starts and none behind the last, and
the answer is the verdict on the start that decides. -/
theorem execute_decided (config : SshConfig) (host : RemoteHost) (command : String)
    (options : ExecOptions) (starts : Nat → Start) :
    ∃ last < max 1 config.connectRetries.toNat,
      (∀ i < last, Refused (starts i))
        ∧ (Refused (starts last) → last + 1 = max 1 config.connectRetries.toNat)
        ∧ ∀ trace result,
          (execute config host command options).Yields trace result ∧ StartsAs starts trace ↔
            trace = course config host command options starts last
              ∧ result = verdict host command options (max 1 config.connectRetries.toNat) last
                (starts last) := by
  have positive : 0 < attempts config := Nat.lt_of_lt_of_le Nat.one_pos (Nat.le_max_left 1 _)
  obtain ⟨allowed, before, last⟩ := decisive_spec starts positive
  refine ⟨decisive starts (attempts config), allowed, before, last, ?_⟩
  intro trace result
  obtain ⟨left, hleft⟩ := Nat.exists_eq_succ_of_ne_zero (Nat.ne_of_gt positive)
  have first : left < attempts config := by omega
  have run : (executeFrom config host command options (left + 1) "").Yields trace result
      ∧ StartsAs starts trace ↔ _ := yields_executeFrom_iff first
  rwa [← Nat.succ_eq_add_one, ← hleft, Nat.sub_self, Nat.zero_add] at run

/-- A client that does not connect at its first start and is gone at the next. -/
def goneAtSecond : Nat → Start
  | 0 => .ok ⟨some 255, [], []⟩
  | _ => .error "No such file or directory (os error 2)"

/-- Of the three starts that are allowed, the second one decides, because the client is gone. -/
theorem secondStart_decides :
    (execute {} default "uptime").Yields
      [started {} default "uptime" {} (goneAtSecond 0), paused {},
        started {} default "uptime" {} (goneAtSecond 1)]
      (.error (.connection (default : RemoteHost).displayName 2
        "No such file or directory (os error 2)")) := by
  obtain ⟨last, allowed, before, refused, runs⟩ :=
    execute_decided {} default "uptime" {} goneAtSecond
  have most : max 1 ({} : SshConfig).connectRetries.toNat = 3 := by decide
  rw [most] at allowed refused
  have candidates : last = 0 ∨ last = 1 ∨ last = 2 := by omega
  rcases candidates with rfl | rfl | rfl
  · exact absurd (refused rfl) (by decide)
  · exact ((runs _ _).mpr ⟨rfl, rfl⟩).1
  · exact (before 1 (by decide)).elim

end ServerMigration.Ssh
