import ServerMigration.Proofs.Cloud.Attachment
import ServerMigration.Proofs.Cloud.Creation
import ServerMigration.Proofs.Cloud.Polling

/-!
# The course of a creation

The creation of a target is a chain of calls: the request for the server, the readings of the status
of that request until it is done, and the two listings of what is attached to the server.  The first
answer that breaks the chain ends the creation, and so does a reading of the clock that leaves no
interval of the budget.  Only a chain that is whole is recorded.

## Main definitions

* `Provider.Completes` : the parts of a creation whose server has been requested.
* `Ends` : the answers that end the creation of a target with an error.
* `Recorded` : what is recorded of a target.
* `CreationCourse` : what the creation asks, and what comes of it.

## Main results

* `Provider.exists_completes` : the runs of a creation in parts.
* `EndsPromptly.of_pollRounds` : the wait for a request ends with the first answer that breaks the
  chain.
* `Provider.createTarget_course` : how a creation goes, whatever the answers are.
-/

namespace ServerMigration

open Program

variable {provider : Provider} {policy : PollPolicy} {name requestId : String} {accepted : Accepted}
  {start : Duration} {exchange : Exchange Site.Ask Site.Answer} {error : CloudError}
  {trace first second : List (Exchange Site.Ask Site.Answer)} {α : Type}

/-! ### The parts of a creation -/

namespace Provider

variable {result : Except CloudError CloudMetadata}

/-- The wait for the request of a creation, from when the clock has been read. -/
def waiting (policy : PollPolicy) (requestId : String) (start : Duration) :
    Action (Except CloudError RequestStatus) :=
  pollRounds "create target" policy (Action.datacenter (.requestStatus requestId))
    (requestDone "create target" requestId) start policy.rounds

/-- What a creation asks from when its wait begins, and how it ends: the wait fails, or behind it
the volumes cannot be listed, or the interfaces are listed next. -/
inductive Completes (policy : PollPolicy) (name : String) (accepted : Accepted) (start : Duration) :
    List (Exchange Site.Ask Site.Answer) → Except CloudError CloudMetadata → Prop
  | unfinished {waited : List (Exchange Site.Ask Site.Answer)} {error : CloudError}
      (wait : (waiting policy accepted.requestId start).Yields waited (.error error)) :
      Completes policy name accepted start waited (.error error)
  | unlisted {waited : List (Exchange Site.Ask Site.Answer)} {status : RequestStatus}
      (wait : (waiting policy accepted.requestId start).Yields waited (.ok status))
      (error : CloudError) :
      Completes policy name accepted start
        (waited ++ [⟨.datacenter (.listVolumes accepted.id), .error error⟩]) (.error error)
  | listed {waited : List (Exchange Site.Ask Site.Answer)} {status : RequestStatus}
      (wait : (waiting policy accepted.requestId start).Yields waited (.ok status))
      (volumes : List VolumeInfo) (answer : Except CloudError (List NicInfo)) :
      Completes policy name accepted start
        (waited ++ [⟨.datacenter (.listVolumes accepted.id), .ok volumes⟩,
          ⟨.datacenter (.listNics accepted.id), answer⟩])
        (answer >>= metadataOf name accepted.id volumes)

/-- **A creation whose server has been requested looks at the clock and goes on in parts.** -/
theorem exists_completes
    (run : Program.Yields (provider.completion name accepted).run trace result) :
    ∃ start onward, trace = ⟨.elapsed, start⟩ :: onward
      ∧ Completes provider.polling name accepted start onward result := by
  rcases yields_operation_bind_iff.mp run with
    ⟨error, hwait, rfl⟩ | ⟨status, waited, rest, hwait, hrest, rfl⟩
  · obtain ⟨start, waited, rfl, wait⟩ := exists_of_yields_poll hwait
    exact ⟨start, waited, rfl, .unfinished wait⟩
  obtain ⟨start, waited, rfl, wait⟩ := exists_of_yields_poll hwait
  refine ⟨start, _, List.cons_append, ?_⟩
  rcases yields_operation_bind_iff.mp hrest with
    ⟨error, hvolumes, rfl⟩ | ⟨volumes, first, second, hvolumes, hnics, rfl⟩
  · rw [yields_call_iff.mp hvolumes]
    exact .unlisted wait error
  · obtain ⟨answer, rfl, rfl⟩ := yields_listNics_iff.mp hnics
    rw [yields_call_iff.mp hvolumes]
    exact .listed wait volumes answer

/-- The wait asks neither for volumes nor for interfaces. -/
theorem not_lists_of_waiting {answer : Except CloudError RequestStatus}
    (wait : (waiting policy requestId start).Yields trace answer) :
    ∀ exchange ∈ trace, ¬exchange.1.Lists := by
  have silent : Program.Every (fun question => ¬question.Lists) (fun _ => True)
      (waiting policy requestId start) := by
    refine every_pollRounds ?_ id (fun _ => id) _
    exact ⟨id, fun _ => trivial⟩
  exact (silent.of_yields wait).1

/-- The wait is over when the request was read to be done. -/
theorem exists_done_of_waiting {status : RequestStatus}
    (wait : (waiting policy requestId start).Yields trace (.ok status)) :
    ∃ message, ⟨.datacenter (.requestStatus requestId), .ok ⟨"DONE", message⟩⟩ ∈ trace := by
  obtain ⟨asked, hasked, hsub, hdone⟩ := exists_of_yields_pollRounds_ok wait
  obtain rfl := yields_call_iff.mp hasked
  obtain ⟨status, message⟩ := status
  have hstatus : status = "DONE" := by
    by_contra hne
    rw [requestDone, if_neg hne] at hdone
    split at hdone <;> cases hdone
  exact ⟨message, hsub (by rw [hstatus]; exact List.mem_singleton_self _)⟩

end Provider

/-- An answer about a request that does not end the wait for it. -/
def Pending (answer : Except CloudError RequestStatus) : Prop :=
  ∃ status, answer = .ok status ∧ status.status ≠ "DONE" ∧ status.status ≠ "FAILED"

theorem Pending.verdict {answer : Except CloudError RequestStatus} (pending : Pending answer) :
    verdict? (Provider.requestDone "create target" requestId) answer = none := by
  obtain ⟨status, rfl, hdone, hfailed⟩ := pending
  rw [verdict?, Provider.requestDone, if_neg hdone, if_neg hfailed]

/-- A wait that no status ends runs out of time. -/
theorem exists_timedOut_of_waiting (positive : 0 < policy.interval.nanoseconds)
    {answer : Except CloudError RequestStatus} {ended : Duration}
    (wait : (Provider.waiting policy requestId start).Yields trace answer)
    (clocked : Clocked (· ≤ ·) start trace ended)
    (pending : ∀ answer, ⟨.datacenter (.requestStatus requestId), answer⟩ ∈ trace →
      Pending answer) :
    ∃ waited, answer = .error (.timedOut "create target" waited)
      ∧ policy.maxWait < waited + policy.interval := by
  obtain ⟨fetches, polls⟩ := polls_of_rounds (fun _ _ h => h) positive wait clocked
  refine polls.exists_waited fun fetched h => ?_
  obtain ⟨made, hsub⟩ := polls.made h
  have hasked := yields_request_iff.mp made.yields
  exact (pending _ (hsub (by rw [hasked]; exact List.mem_singleton_self _))).verdict

/-! ### Answers that end a creation -/

/-- An answer that ends the creation of a target with an error, when the wait for its request began
at `start`: a call has failed, the provider has given the request up, or not even an interval is
left of the budget. -/
inductive Ends (policy : PollPolicy) (start : Duration) :
    Exchange Site.Ask Site.Answer → CloudError → Prop
  | refused (call : DatacenterCall) (error : CloudError) :
      Ends policy start ⟨.datacenter call, .error error⟩ error
  | givenUp (requestId : String) (message : Option String) :
      Ends policy start ⟨.datacenter (.requestStatus requestId), .ok ⟨"FAILED", message⟩⟩
        (.requestFailed "create target" requestId (message.getD ""))
  | usedUp (now : Duration) (exceeded : policy.maxWait < now.since start + policy.interval) :
      Ends policy start ⟨.elapsed, now⟩ (.timedOut "create target" (now.since start))

/-- A status that ends the creation is a verdict for the wait. -/
theorem Ends.verdict {answer : Except CloudError RequestStatus}
    (ends : Ends policy start ⟨.datacenter (.requestStatus requestId), answer⟩ error) :
    verdict? (Provider.requestDone "create target" requestId) answer = some (.error error) := by
  cases ends with
  | refused | givenUp => rfl

/-- The first answer that ends a creation is the last one, and the result is its error. -/
def EndsPromptly (policy : PollPolicy) (start : Duration)
    (trace : List (Exchange Site.Ask Site.Answer)) (result : Except CloudError α) : Prop :=
  ∀ before exchange after error, trace = before ++ exchange :: after →
    Ends policy start exchange error → after = [] ∧ result = .error error

namespace EndsPromptly

variable {result : Except CloudError α}

theorem nil : EndsPromptly policy start [] result := by
  intro before exchange after error h
  exact absurd h.symm (List.append_ne_nil_of_right_ne_nil _ (List.cons_ne_nil _ _))

theorem cons
    (head : ∀ error, Ends policy start exchange error → trace = [] ∧ result = .error error)
    (tail : EndsPromptly policy start trace result) :
    EndsPromptly policy start (exchange :: trace) result := by
  intro before other after error h ends
  cases before with
  | nil =>
    obtain ⟨rfl, rfl⟩ := List.cons.inj h
    exact head error ends
  | cons earlier before => exact tail before other after error (List.cons.inj h).2 ends

/-- Nothing in the course of a success ends a creation. -/
theorem not_ends {a : α} (prompt : EndsPromptly policy start trace (.ok a)) (h : exchange ∈ trace) :
    ¬Ends policy start exchange error := by
  intro ends
  obtain ⟨before, after, hcut⟩ := List.append_of_mem h
  cases (prompt before exchange after error hcut ends).2

/-- Only the error matters. -/
theorem of_error {β : Type} {failure : CloudError}
    (prompt : EndsPromptly policy start trace (.error failure : Except CloudError α)) :
    EndsPromptly policy start trace (.error failure : Except CloudError β) := by
  intro before exchange after error h ends
  obtain ⟨rfl, hresult⟩ := prompt before exchange after error h ends
  cases hresult
  exact ⟨rfl, rfl⟩

theorem append {β : Type} {a : β} (hfirst : EndsPromptly policy start first (.ok a))
    (hsecond : EndsPromptly policy start second result) :
    EndsPromptly policy start (first ++ second) result := by
  induction first with
  | nil => exact hsecond
  | cons exchange first ih =>
    refine cons (fun error ends => absurd ends (hfirst.not_ends List.mem_cons_self)) (ih ?_)
    intro before other after error h
    exact hfirst (exchange :: before) other after error (congrArg (exchange :: ·) h)

/-- **The wait for a request ends with the first answer that breaks the chain.** -/
theorem of_pollRounds {rounds : Nat} {answer : Except CloudError RequestStatus}
    (wait : (pollRounds "create target" policy (Action.datacenter (.requestStatus requestId))
      (Provider.requestDone "create target" requestId) start rounds).Yields trace answer) :
    EndsPromptly policy start trace answer := by
  induction rounds generalizing trace with
  | zero =>
    obtain ⟨reading, onward, rfl, hdone⟩ := yields_ask_iff.mp wait
    obtain ⟨rfl, rfl⟩ := yields_done_iff.mp hdone
    refine cons (fun error ends => ?_) nil
    cases ends
    exact ⟨rfl, rfl⟩
  | succ rounds ih =>
    obtain ⟨status, asked, rest, hasked, rfl, hrest⟩ := yields_pollRounds_succ_iff.mp wait
    obtain rfl := yields_request_iff.mp hasked
    -- A round asks for the status, looks at the clock and sleeps; only the first two can end it.
    refine cons (fun error ends => ?_) ?_
    · rw [ends.verdict] at hrest
      exact hrest
    split at hrest
    · obtain ⟨rfl, -⟩ := hrest
      exact nil
    · obtain ⟨reading, onward, rfl, hrest⟩ := hrest
      refine cons (fun error ends => ?_) ?_
      · cases ends with
        | usedUp _ exceeded =>
          rw [if_pos exceeded] at hrest
          exact hrest
      split at hrest
      · obtain ⟨rfl, -⟩ := hrest
        exact nil
      · obtain ⟨onward', rfl, hrounds⟩ := hrest
        exact cons (fun error ends => nomatch ends) (ih hrounds)

end EndsPromptly

theorem Provider.Completes.endsPromptly {result : Except CloudError CloudMetadata}
    (completes : Provider.Completes policy name accepted start trace result) :
    EndsPromptly policy start trace result := by
  cases completes with
  | unfinished wait => exact (EndsPromptly.of_pollRounds wait).of_error
  | unlisted wait error =>
    refine .append (.of_pollRounds wait) (.cons (fun error ends => ?_) .nil)
    cases ends
    exact ⟨rfl, rfl⟩
  | listed wait volumes answer =>
    refine .append (.of_pollRounds wait) (.cons (fun error ends => nomatch ends) ?_)
    refine .cons (fun error ends => ?_) .nil
    cases ends
    exact ⟨rfl, rfl⟩

/-! ### What comes of a creation -/

/-- What is recorded of a target whose creation has gone through. -/
structure Recorded (server name : String) (trace : List (Exchange Site.Ask Site.Answer))
    (metadata : CloudMetadata) : Prop where
  /-- It is the server that has been accepted. -/
  serverId : metadata.serverId = server
  /-- Its volumes and its interfaces are those that were listed, in the order of the lists; these
  two questions are the last ones, and nothing has been listed before. -/
  listings : ∃ waited, (∀ exchange ∈ waited, ¬exchange.1.Lists)
    ∧ trace = waited ++ [⟨.datacenter (.listVolumes server), .ok metadata.volumes⟩,
      ⟨.datacenter (.listNics server), .ok metadata.nics⟩]
  /-- No call has failed. -/
  succeeded : ∀ call answer, ⟨.datacenter call, answer⟩ ∈ trace → ∃ reply, answer = .ok reply
  /-- The bootstrap volume is the first volume with its name. -/
  bootstrapVolume : ∃ volume, metadata.volumes.find? (·.name = bootstrapName name) = some volume
    ∧ metadata.bootstrapVolumeId = volume.id
  /-- The bootstrap interface is the first interface with its name. -/
  bootstrapNic : ∃ nic, metadata.nics.find? (·.name = bootstrapName name) = some nic
    ∧ metadata.bootstrapNicId = nic.id
  /-- The bootstrap volume is one of the volumes. -/
  hasVolume : metadata.hasVolume metadata.bootstrapVolumeId
  /-- The bootstrap interface is one of the interfaces. -/
  hasNic : metadata.hasNic metadata.bootstrapNicId

/-- What a creation asks from when the wait for its request begins at `start`, and what comes
of it. -/
structure CreationCourse (policy : PollPolicy) (name : String) (accepted : Accepted)
    (start : Duration) (trace : List (Exchange Site.Ask Site.Answer))
    (result : Except CloudError CloudMetadata) : Prop where
  /-- No other server is requested. -/
  single : RequestsNoServer trace
  /-- Nothing is listed before the request was read to be done. -/
  listed : ∀ before exchange after, trace = before ++ exchange :: after → exchange.1.Lists →
    ∃ message, ⟨.datacenter (.requestStatus accepted.requestId), .ok ⟨"DONE", message⟩⟩ ∈ before
  /-- The creation ends with the first call that fails, the first status `FAILED` and the first
  reading of the clock that leaves no interval of the budget. -/
  prompt : EndsPromptly policy start trace result
  /-- If no status ends the wait, the budget does. -/
  timedOut : 0 < policy.interval.nanoseconds → ∀ ended, Clocked (· ≤ ·) start trace ended →
    (∀ answer, ⟨.datacenter (.requestStatus accepted.requestId), answer⟩ ∈ trace → Pending answer) →
    ∃ waited, result = .error (.timedOut "create target" waited)
      ∧ policy.maxWait < waited + policy.interval
  /-- The creation returns what is recorded of a whole chain, and nothing else. -/
  recorded : ∀ metadata, result = .ok metadata ↔ Recorded accepted.id name trace metadata

namespace Provider

variable {spec : TargetSpec} {result : Except CloudError CloudMetadata} {metadata : CloudMetadata}

namespace Completes

/-- The wait comes first, and its failure is that of the creation. -/
theorem exists_waited (completes : Completes policy name accepted start trace result) :
    ∃ waited answer rest, (waiting policy accepted.requestId start).Yields waited answer
      ∧ trace = waited ++ rest
      ∧ ∀ error, answer = .error error → rest = [] ∧ result = .error error := by
  cases completes with
  | unfinished wait =>
    refine ⟨_, _, [], wait, (List.append_nil _).symm, fun error h => ?_⟩
    cases h
    exact ⟨rfl, rfl⟩
  | unlisted wait | listed wait => exact ⟨_, _, _, wait, rfl, fun error h => nomatch h⟩

/-- Before anything is listed the request was read to be done. -/
theorem exists_done (completes : Completes policy name accepted start trace result)
    {before after : List (Exchange Site.Ask Site.Answer)} (h : trace = before ++ exchange :: after)
    (lists : exchange.1.Lists) :
    ∃ message,
      ⟨.datacenter (.requestStatus accepted.requestId), .ok ⟨"DONE", message⟩⟩ ∈ before := by
  obtain ⟨waited, answer, rest, wait, rfl, hfailure⟩ := completes.exists_waited
  have silent : exchange ∉ waited := fun hmem => not_lists_of_waiting wait exchange hmem lists
  cases answer with
  | error error =>
    obtain ⟨rfl, -⟩ := hfailure error rfl
    rw [List.append_nil] at h
    rw [h] at silent
    exact absurd (List.mem_append_right _ List.mem_cons_self) silent
  | ok status =>
    obtain ⟨message, hdone⟩ := exists_done_of_waiting wait
    refine ⟨message, ?_⟩
    -- The wait is all before the listing.
    rcases List.append_eq_append_iff.mp h with ⟨listings, rfl, -⟩ | ⟨others, rfl, hothers⟩
    · exact List.mem_append_left _ hdone
    · cases others with
      | nil => exact List.append_nil before ▸ hdone
      | cons other others =>
        rw [(List.cons.inj hothers).1] at silent
        exact absurd (List.mem_append_right _ List.mem_cons_self) silent

theorem recorded_iff (completes : Completes policy name accepted start trace result) :
    result = .ok metadata ↔ Recorded accepted.id name trace metadata := by
  constructor
  · intro hresult
    have prompt := completes.endsPromptly
    cases completes with
    | unfinished | unlisted => cases hresult
    | listed wait volumes answer =>
      obtain ⟨nics, rfl, hmetadata⟩ := bind_eq_ok_iff.mp hresult
      obtain ⟨volume, nic, hvolume, hnic, rfl⟩ := metadataOf_eq_ok_iff.mp hmetadata
      refine ⟨rfl, ⟨_, not_lists_of_waiting wait, rfl⟩, fun call answer hmem => ?_,
        ⟨volume, hvolume, rfl⟩, ⟨nic, hnic, rfl⟩, ?_, ?_⟩
      · rw [hresult] at prompt
        cases answer with
        | error error => exact absurd (.refused call error) (prompt.not_ends hmem)
        | ok reply => exact ⟨reply, rfl⟩
      · exact List.any_eq_true.mpr ⟨volume, List.mem_of_find?_eq_some hvolume, decide_eq_true rfl⟩
      · exact List.any_eq_true.mpr ⟨nic, List.mem_of_find?_eq_some hnic, decide_eq_true rfl⟩
  · rintro ⟨hserver, ⟨before, hbefore, hlistings⟩, hsucceeded, ⟨volume, hvolume, hvolumeId⟩,
      ⟨nic, hnic, hnicId⟩, -, -⟩
    cases completes with
    | unfinished wait =>
      rw [hlistings] at wait
      exact absurd trivial (not_lists_of_waiting wait ⟨.datacenter (.listNics accepted.id), _⟩
        (List.mem_append_right _ (List.mem_cons_of_mem _ (List.mem_singleton_self _))))
    | unlisted wait error =>
      obtain ⟨reply, h⟩ := hsucceeded (.listVolumes accepted.id) (.error error)
        (List.mem_append_right _ (List.mem_singleton_self _))
      cases h
    | listed wait volumes answer =>
      cases (List.append_inj' hlistings rfl).2
      refine bind_eq_ok_iff.mpr ⟨metadata.nics, rfl, metadataOf_eq_ok_iff.mpr ?_⟩
      refine ⟨volume, nic, hvolume, hnic, ?_⟩
      rw [← hserver, ← hvolumeId, ← hnicId]

end Completes

/-- **How the creation of a target goes, whatever the answers are.**  It requests one server, and
that is the first question.  If the server is refused, the creation ends there; otherwise it waits
for the request, lists what is attached to the server, and records it. -/
theorem createTarget_course (run : Program.Yields (provider.createTarget spec).run trace result) :
    (∃ error, trace = [⟨.datacenter (.createServer (provider.serverRequest spec)), .error error⟩]
        ∧ result = .error error)
      ∨ ∃ accepted start onward,
        trace = ⟨.datacenter (.createServer (provider.serverRequest spec)), .ok accepted⟩
          :: ⟨.elapsed, start⟩ :: onward
        ∧ CreationCourse provider.polling spec.name accepted start onward result := by
  obtain ⟨answer, onward, rfl, hcompletion, single⟩ := exists_of_yields_createTarget run
  cases answer with
  | error error =>
    obtain ⟨rfl, rfl⟩ := yields_done_iff.mp hcompletion
    exact .inl ⟨error, rfl, rfl⟩
  | ok accepted =>
    obtain ⟨start, onward, rfl, completes⟩ := exists_completes hcompletion
    refine .inr ⟨accepted, start, onward, rfl, (requestsNoServer_cons_iff.mp single).2,
      fun before exchange after => completes.exists_done, completes.endsPromptly,
      fun positive ended clocked pending => ?_, fun metadata => completes.recorded_iff⟩
    obtain ⟨waited, answer, rest, wait, rfl, hfailure⟩ := completes.exists_waited
    obtain ⟨_, clocked, -⟩ := clocked.of_append
    obtain ⟨passed, rfl, exceeded⟩ := exists_timedOut_of_waiting positive wait clocked
      fun answer h => pending answer (List.mem_append_left _ h)
    exact ⟨passed, (hfailure _ rfl).2, exceeded⟩

/-- A provider that is patient for five nanoseconds. -/
def hasty : Provider := { polling := twoInFive }

/-- The wait for a request that stays in the queue. -/
def queuedWait : List (Exchange Site.Ask Site.Answer) :=
  [⟨.datacenter (.requestStatus "request"), .ok ⟨"QUEUED", none⟩⟩, ⟨.elapsed, ⟨0⟩⟩,
    ⟨.sleep ⟨2⟩, ()⟩,
    ⟨.datacenter (.requestStatus "request"), .ok ⟨"QUEUED", none⟩⟩, ⟨.elapsed, ⟨2⟩⟩,
    ⟨.sleep ⟨2⟩, ()⟩,
    ⟨.datacenter (.requestStatus "request"), .ok ⟨"QUEUED", none⟩⟩, ⟨.elapsed, ⟨4⟩⟩]

theorem clocked_queuedWait : Clocked (· ≤ ·) ⟨0⟩ queuedWait ⟨4⟩ := by
  have fetched {now later : Duration} {trace : List (Exchange Site.Ask Site.Answer)}
      (onward : Clocked (· ≤ ·) now trace later) : Clocked (· ≤ ·) now
        (⟨.datacenter (.requestStatus "request"), .ok ⟨"QUEUED", none⟩⟩ :: trace) later :=
    .answered id _ ⟨0⟩ onward
  have slept {now later : Duration} {trace : List (Exchange Site.Ask Site.Answer)}
      (onward : Clocked (· ≤ ·) (now + ⟨2⟩) trace later) :
      Clocked (· ≤ ·) now (⟨.sleep ⟨2⟩, ()⟩ :: trace) later :=
    .slept (Nat.le_refl 2) onward
  exact fetched (.read (slept (fetched (.read (slept (fetched (.read (.nil _))))))))

/-- A creation whose request stays in the queue runs out of time, and nothing is listed. -/
theorem hasty_createTarget_course :
    Program.Yields (hasty.createTarget webSpec).run
        (⟨.datacenter (.createServer (hasty.serverRequest webSpec)), .ok ⟨"web", "request"⟩⟩
          :: ⟨.elapsed, ⟨0⟩⟩ :: queuedWait)
        (.error (.timedOut "create target" ⟨4⟩))
      ∧ Clocked (· ≤ ·) ⟨0⟩ queuedWait ⟨4⟩
      ∧ CreationCourse twoInFive "web" ⟨"web", "request"⟩ ⟨0⟩ queuedWait
        (.error (.timedOut "create target" ⟨4⟩)) := by
  have run : Program.Yields (hasty.createTarget webSpec).run
      (⟨.datacenter (.createServer (hasty.serverRequest webSpec)), .ok ⟨"web", "request"⟩⟩
        :: ⟨.elapsed, ⟨0⟩⟩ :: queuedWait)
      (.error (.timedOut "create target" ⟨4⟩)) :=
    .ask _ (.ask _ (.ask _ (.ask _ (.ask _ (.ask _
      (.ask _ (.ask _ (.ask _ (.ask _ (.done _))))))))))
  refine ⟨run, clocked_queuedWait, ?_⟩
  rcases createTarget_course run with ⟨error, htrace, -⟩ | ⟨accepted, start, onward, htrace, course⟩
  · cases htrace
  · cases htrace
    exact course

end Provider

end ServerMigration
