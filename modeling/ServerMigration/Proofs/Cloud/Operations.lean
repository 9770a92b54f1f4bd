import ServerMigration.Cloud.Provisioning
import ServerMigration.Proofs.Program.Yields
import ServerMigration.Proofs.Results

/-!
# Runs of cloud operations

## Main results

* `every_pollRounds` : what the questions of a poll are.
* `Provider.yields_operation_bind_iff` : the runs of an operation in two parts.
* `Provider.exists_of_createTarget` : a run in which the volumes of a new target are listed.
* `Provider.createTarget_ok_iff` : when such a run succeeds.
-/

namespace ServerMigration

open Program

variable {α β : Type}

/-! ### Polling -/

/-- A poll fetches, looks at the clock and sleeps. -/
theorem every_pollRounds {P : Site.Ask → Prop} {operation : String} {policy : PollPolicy}
    {fetch : Action (Except CloudError α)} {accepts : α → Except CloudError Bool}
    {start : Duration} (hfetch : fetch.Every P fun _ => True) (helapsed : P .elapsed)
    (hsleep : ∀ duration, P (.sleep duration)) (rounds : Nat) :
    (pollRounds operation policy fetch accepts start rounds).Every P fun _ => True := by
  induction rounds with
  | zero => exact ⟨helapsed, fun _ => trivial⟩
  | succ rounds ih =>
    rw [pollRounds]
    refine hfetch.bind fun fetched _ => ?_
    cases fetched with
    | error error => trivial
    | ok value =>
      dsimp only
      split
      · trivial
      · trivial
      · refine ⟨helapsed, fun now => ?_⟩
        change (if _ then _ else _ : Action (Except CloudError α)).Every P _
        split
        · trivial
        · exact ⟨hsleep _, fun _ => ih⟩

/-- Questions for the volumes or the interfaces of a server. -/
def Site.Ask.Lists : Site.Ask → Prop
  | .datacenter (.listVolumes _) | .datacenter (.listNics _) => True
  | _ => False

namespace Provider

variable {trace : List (Exchange Site.Ask Site.Answer)} {provider : Provider} {spec : TargetSpec}

/-! ### Operations in parts -/

/-- **An operation in two parts fails in the first part, or goes through it and then through the
second.** -/
theorem yields_operation_bind_iff {operation : Operation α} {next : α → Operation β}
    {result : Except CloudError β} :
    Program.Yields (operation >>= next).run trace result ↔
      (∃ error, Program.Yields operation.run trace (.error error) ∧ result = .error error) ∨
        ∃ a first second, Program.Yields operation.run first (.ok a)
          ∧ Program.Yields (next a).run second result ∧ trace = first ++ second := by
  change (operation.run >>= fun answer => ExceptT.bindCont next answer).Yields _ _ ↔ _
  rw [yields_bind_iff]
  constructor
  · rintro ⟨answer, first, second, hoperation, hnext, rfl⟩
    cases answer with
    | error error =>
      obtain ⟨rfl, rfl⟩ := yields_done_iff.mp hnext
      exact .inl ⟨error, by simpa using hoperation, rfl⟩
    | ok a => exact .inr ⟨a, first, second, hoperation, hnext, rfl⟩
  · rintro (⟨error, hoperation, rfl⟩ | ⟨a, first, second, hoperation, hnext, rfl⟩)
    · exact ⟨_, trace, [], hoperation, .done _, (List.append_nil _).symm⟩
    · exact ⟨_, first, second, hoperation, hnext, rfl⟩

/-- What both parts of an operation ask, the operation asks. -/
theorem every_operation_bind {P : Site.Ask → Prop} {operation : Operation α}
    {next : α → Operation β} (h : Program.Every P (fun _ => True) operation.run)
    (hnext : ∀ a, Program.Every P (fun _ => True) (next a).run) :
    Program.Every P (fun _ => True) (operation >>= next).run := by
  refine Every.bind h ?_
  intro result _
  cases result with
  | error error => trivial
  | ok a => exact hnext a

theorem every_call {P : Site.Ask → Prop} {c : DatacenterCall} (h : P (.datacenter c)) :
    Program.Every P (fun _ => True) (call c).run :=
  ⟨h, fun _ => trivial⟩

/-- Waiting for a request asks for its status, looks at the clock and sleeps. -/
theorem every_awaitRequest {P : Site.Ask → Prop} (provider : Provider)
    (operation requestId : String) (helapsed : P .elapsed)
    (hsleep : ∀ duration, P (.sleep duration))
    (hstatus : P (.datacenter (.requestStatus requestId))) :
    Program.Every P (fun _ => True) (provider.awaitRequest operation requestId).run := by
  refine ⟨helapsed, fun _ => every_pollRounds ?_ helapsed hsleep _⟩
  exact every_call hstatus

@[simp] theorem yields_call_iff {c : DatacenterCall} {answer : Except CloudError c.Reply} :
    Program.Yields (call c).run trace answer ↔ trace = [⟨.datacenter c, answer⟩] :=
  yields_request_iff

/-! ### Creating a target -/

/-- Operations that ask neither for volumes nor for interfaces. -/
abbrev Operation.Silent (operation : Operation α) : Prop :=
  Program.Every (fun question => ¬question.Lists) (fun _ => True) operation.run

theorem silent_call {c : DatacenterCall} (h : ¬(Site.Ask.datacenter c).Lists) : (call c).Silent :=
  every_call h

theorem silent_awaitRequest (provider : Provider) (operation requestId : String) :
    (provider.awaitRequest operation requestId).Silent :=
  every_awaitRequest provider operation requestId id (fun _ => id) id

/-- A listing that stands in a run is asked for behind the silent part. -/
theorem exists_of_silent {operation : Operation α} {next : α → Operation β}
    {result : Except CloudError β} {exchange : Exchange Site.Ask Site.Answer}
    (run : Program.Yields (operation >>= next).run trace result) (hmem : exchange ∈ trace)
    (lists : exchange.1.Lists) (silent : operation.Silent) :
    ∃ a before rest, (∀ exchange ∈ before, ¬exchange.1.Lists)
      ∧ Program.Yields (next a).run rest result ∧ exchange ∈ rest ∧ trace = before ++ rest := by
  rcases yields_operation_bind_iff.mp run with ⟨error, h, -⟩ | ⟨a, before, rest, h, hrest, rfl⟩
  · exact absurd lists ((silent.of_yields h).1 exchange hmem)
  · have hbefore := (silent.of_yields h).1
    have hmem := (List.mem_append.mp hmem).resolve_left fun h => hbefore exchange h lists
    exact ⟨a, before, rest, hbefore, hrest, hmem, rfl⟩

/-- Asking for the interfaces of a server is the last thing that `createTarget` does. -/
theorem yields_listNics_iff {name server : String} {volumes : List VolumeInfo}
    {result : Except CloudError CloudMetadata} :
    Program.Yields (do
      let nics ← call (.listNics server)
      createTarget.liftExcept (metadataOf name server volumes nics)).run trace result ↔
      ∃ answer, trace = [⟨.datacenter (.listNics server), answer⟩]
        ∧ result = answer >>= metadataOf name server volumes := by
  rw [yields_operation_bind_iff]
  constructor
  · rintro (⟨error, h, rfl⟩ | ⟨nics, first, rest, h, hrest, rfl⟩)
    · exact ⟨.error error, yields_call_iff.mp h, rfl⟩
    · obtain ⟨rfl, rfl⟩ := yields_done_iff.mp hrest
      refine ⟨.ok nics, ?_, rfl⟩
      rw [yields_call_iff.mp h, List.append_nil]
  · rintro ⟨answer, rfl, rfl⟩
    cases answer with
    | error error => exact .inl ⟨error, yields_call_iff.mpr rfl, rfl⟩
    | ok nics => exact .inr ⟨nics, _, [], yields_call_iff.mpr rfl, .done _, rfl⟩

/-- **If the volumes of a new target are listed, its interfaces are listed next**, and the outcome
depends on these two answers. -/
theorem exists_of_createTarget {result : Except CloudError CloudMetadata} {server : String}
    {volumes : List VolumeInfo}
    (run : Program.Yields (provider.createTarget spec).run trace result)
    (hlisted : ⟨.datacenter (.listVolumes server), .ok volumes⟩ ∈ trace) :
    ∃ before answer, (∀ exchange ∈ before, ¬exchange.1.Lists)
      ∧ trace = before ++ [⟨.datacenter (.listVolumes server), .ok volumes⟩,
        ⟨.datacenter (.listNics server), answer⟩]
      ∧ result = answer >>= metadataOf spec.name server volumes := by
  obtain ⟨accepted, create, rest, hcreate, created, hrest, rfl⟩ :=
    exists_of_silent run hlisted trivial (silent_call fun h => h)
  obtain ⟨status, wait, last, hwait, waited, hlast, rfl⟩ :=
    exists_of_silent created hrest trivial (silent_awaitRequest _ _ _)
  have hbefore : ∀ exchange ∈ create ++ wait, ¬exchange.1.Lists := fun exchange hmem =>
    (List.mem_append.mp hmem).elim (hcreate exchange) (hwait exchange)
  rcases yields_operation_bind_iff.mp waited with
    ⟨error, h, -⟩ | ⟨found, first, second, hfirst, hsecond, rfl⟩
  · rw [yields_call_iff.mp h] at hlast
    cases List.mem_singleton.mp hlast
  obtain ⟨answer, rfl, rfl⟩ := yields_listNics_iff.mp hsecond
  rw [yields_call_iff.mp hfirst] at hlast ⊢
  -- Of the two listings the first one is that of the volumes.
  rcases List.mem_append.mp hlast with hsame | hsame
  · cases List.mem_singleton.mp hsame
    exact ⟨create ++ wait, answer, hbefore, by simp, rfl⟩
  · cases List.mem_singleton.mp hsame

/-- **A target whose volumes are listed is created if its interfaces are listed too and both
bootstrap ones are there.** -/
theorem createTarget_ok_iff {result : Except CloudError CloudMetadata} {server : String}
    {volumes : List VolumeInfo} {metadata : CloudMetadata}
    (run : Program.Yields (provider.createTarget spec).run trace result)
    (hlisted : ⟨.datacenter (.listVolumes server), .ok volumes⟩ ∈ trace) :
    result = .ok metadata ↔ ∃ nics, ⟨.datacenter (.listNics server), .ok nics⟩ ∈ trace
      ∧ metadataOf spec.name server volumes nics = .ok metadata := by
  obtain ⟨before, answer, hbefore, rfl, rfl⟩ := exists_of_createTarget run hlisted
  rw [bind_eq_ok_iff]
  refine exists_congr fun nics => and_congr_left fun _ => ⟨?_, fun hmem => ?_⟩
  · rintro rfl
    exact List.mem_append_right _ (List.mem_cons_of_mem _ List.mem_cons_self)
  · have hmem := (List.mem_append.mp hmem).resolve_left fun h => hbefore _ h trivial
    rcases List.mem_cons.mp hmem with hsame | hmem
    · cases hsame
    · cases List.mem_singleton.mp hmem
      rfl

/-- A created server is recorded if its bootstrap volume and its bootstrap interface are there. -/
theorem metadataOf_eq_ok_iff {name server : String} {volumes : List VolumeInfo}
    {nics : List NicInfo} {metadata : CloudMetadata} :
    metadataOf name server volumes nics = .ok metadata ↔
      ∃ volume nic, volumes.find? (·.name = bootstrapName name) = some volume
        ∧ nics.find? (·.name = bootstrapName name) = some nic
        ∧ metadata = ⟨server, volume.id, nic.id, volumes, nics⟩ := by
  rw [metadataOf]
  cases volumes.find? (·.name = bootstrapName name) with
  | none =>
    constructor
    · intro h
      cases h
    · rintro ⟨_, _, h, -⟩
      cases h
  | some volume =>
    cases nics.find? (·.name = bootstrapName name) with
    | none =>
      constructor
      · intro h
        cases h
      · rintro ⟨_, _, -, h, -⟩
        cases h
    | some nic =>
      constructor
      · intro h
        cases h
        exact ⟨volume, nic, rfl, rfl, rfl⟩
      · rintro ⟨_, _, hvolume, hnic, rfl⟩
        cases hvolume
        cases hnic
        rfl

end Provider

end ServerMigration
