import ServerMigration.Proofs.Cloud.Attachment
import ServerMigration.Proofs.Mapping.Coverage
import ServerMigration.Proofs.Migration.Inventories

/-!
# Creating the target again and again

The creation of a target is attempted until it succeeds, and may be attempted afterwards too.  In
between it may fail in many ways: the inventory of the source may lack something, the provider may
refuse something or may not assign an address.  No target that the provider has returned is lost or
created twice, and none is sized by half an inventory.

## Main definitions

* `Source.Attempted` : what comes of an attempt.
* `Attempts` : attempts on a source, one after the other.

## Main results

* `MigrationStep.attempted_of_yields` : what comes of every attempt.
* `Attempts.created_once` : what comes of any number of attempts.
-/

namespace ServerMigration

open Program

variable {provider : Provider} {trace : SiteTrace}

/-! ### One attempt -/

namespace Source

/-- The inventory of a source is as it was, or it was not there and has been collected in full at
the beginning of this trace. -/
inductive InventoriedIn (s : Source) : SiteTrace → Source → Prop
  | kept (trace : SiteTrace) : s.InventoriedIn trace s
  | taken {asked : SiteTrace} {info : SystemInfo} (unknown : s.systemInfo = none)
      (collected : info.CollectedIn s.remoteHost s.target.blueprint.commands.listBlockDevices asked)
      (rest : SiteTrace) : s.InventoriedIn (asked ++ rest) (s.withInventory info)

theorem InventoriedIn.append {s middle : Source} (inventory : s.InventoriedIn trace middle)
    (rest : SiteTrace) : s.InventoriedIn (trace ++ rest) middle := by
  cases inventory with
  | kept => exact .kept _
  | taken unknown collected more =>
    rw [List.append_assoc]
    exact .taken unknown collected (more ++ rest)

theorem InventoriedIn.target_eq {s middle : Source} (inventory : s.InventoriedIn trace middle) :
    middle.target = s.target := by
  cases inventory <;> rfl

/-- What an attempt to create a target says if the target is there without an address. -/
def unaddressed : CommandError :=
  .precondition "CreateTarget" "target exists but its bootstrap NIC has no address"

/-- What comes of an attempt to create the target of a source. -/
inductive Attempted (provider : Provider) (s : Source) : SiteTrace → CommandRun Source → Prop
  /-- The target is there, and nothing is done. -/
  | there {outcome : Except CommandError (Option Signal)} (provisioned : s.target.isProvisioned)
      (idle : outcome = .ok none ∨ outcome = .error unaddressed) :
      Attempted provider s [] ⟨s, [], outcome⟩
  /-- Nothing has been returned by the provider. -/
  | failed {trace : SiteTrace} {middle : Source} {errors : StepErrors} {error : CommandError}
      (bare : s.target.isProvisioned = false) (inventory : s.InventoriedIn trace middle)
      (unreturned : ∀ metadata, ¬provider.Returned trace metadata) :
      Attempted provider s trace ⟨middle, errors, .error error⟩
  /-- The target is recorded as the provider has returned it. -/
  | created {trace : SiteTrace} {middle : Source} {errors : StepErrors} {metadata : CloudMetadata}
      {id : Uuid} (bare : s.target.isProvisioned = false) (inventory : s.InventoriedIn trace middle)
      (returned : ∀ other, provider.Returned trace other ↔ metadata = other) :
      Attempted provider s trace ⟨middle.withTarget metadata id, errors, .ok none⟩

end Source

namespace Work

variable {s : Source} {before after : Progress}

/-- The collected failures end the step. -/
theorem runs_failOnErrors {command : String} {result : Except CommandError Unit}
    (h : Runs (failOnErrors command) before trace result after) :
    trace = [] ∧ after.source = before.source ∧ (result = .ok () → before.errors = []) := by
  obtain ⟨rfl, rfl, rfl⟩ := runs_ofExcept_iff.mp h
  refine ⟨rfl, rfl, fun h => ?_⟩
  rw [StepErrors.toExcept] at h
  split at h
  · next hempty => simpa using hempty
  · cases h

/-- While the source is sized no server is requested, and a full inventory is all that is stored. -/
theorem runs_ensureSourceInventory {result : Except CommandError SystemInfo}
    (h : Runs ensureSourceInventory ⟨s, []⟩ trace result after) :
    RequestsNoServer trace ∧ s.InventoriedIn trace after.source := by
  rw [ensureSourceInventory, runs_source_bind_iff] at h
  dsimp only at h
  split at h
  · obtain ⟨rfl, -, rfl⟩ := runs_pure_iff.mp h
    exact ⟨requestsNoServer_nil, .kept []⟩
  · next unknown =>
    rcases runs_bind_iff.mp h with
      ⟨error, htaken, -⟩ | ⟨info, middle, first, second, htaken, hrest, rfl⟩
    · obtain ⟨silent, hsame, -⟩ := runs_takeInventory htaken
      rw [hsame]
      exact ⟨silent, .kept trace⟩
    · obtain ⟨silent, hsame, hinfo⟩ := runs_takeInventory htaken
      obtain ⟨told, htold, collected⟩ := hinfo info rfl
      rcases runs_bind_iff.mp hrest with
        ⟨error, hfail, -⟩ | ⟨_, middle', third, fourth, hfail, hstored, rfl⟩
      · obtain ⟨rfl, hkept, -⟩ := runs_failOnErrors hfail
        rw [hkept, hsame, List.append_nil]
        exact ⟨silent, .kept first⟩
      · obtain ⟨rfl, hkept, hnone⟩ := runs_failOnErrors hfail
        rw [runs_modifySource_bind_iff, hkept, hsame] at hstored
        obtain ⟨rfl, -, rfl⟩ := runs_pure_iff.mp hstored
        rw [hnone rfl] at htold
        have hcomplete := collected (List.append_eq_nil_iff.mp htold.symm).2
        refine ⟨silent.append requestsNoServer_nil, ?_⟩
        exact .taken unknown hcomplete []

/-- An inventory that is reported in full is stored. -/
theorem runs_ensureSourceInventory_of_collectedIn {info : SystemInfo}
    (unknown : s.systemInfo = none)
    (collected : info.CollectedIn s.remoteHost s.target.blueprint.commands.listBlockDevices trace) :
    Runs ensureSourceInventory ⟨s, []⟩ trace (.ok info) ⟨s.withInventory info, []⟩ := by
  rw [ensureSourceInventory, runs_source_bind_iff, unknown, ← List.append_nil trace]
  exact (runs_takeInventory_of_collectedIn collected).bind (.done _)

/-- Records a target that the provider has returned. -/
def recordTarget (metadata : CloudMetadata) : Work (Option Signal) := do
  if bootstrapAddress metadata = "" then
    record "bootstrap NIC" "provider assigned no address"
  let id ← action Action.freshId
  modifySource fun s => s.withTarget metadata id
  return none

/-- It is recorded under a fresh identifier. -/
theorem runs_recordTarget {metadata : CloudMetadata} {outcome : Except CommandError (Option Signal)}
    (h : Runs (recordTarget metadata) before trace outcome after) :
    ∃ id, trace = [⟨.freshId, id⟩] ∧ outcome = .ok none
      ∧ after.source = before.source.withTarget metadata id := by
  -- A missing address is collected, and the target is recorded all the same.
  have hrecorded : ∃ errors, Runs (action Action.freshId >>= fun id =>
      modifySource (·.withTarget metadata id) >>= fun _ => pure none) ⟨before.source, errors⟩
      trace outcome after := by
    rw [recordTarget] at h
    dsimp only at h
    split at h
    · exact ⟨_, runs_record_bind_iff.mp h⟩
    · exact ⟨_, h⟩
  obtain ⟨errors, hrecorded⟩ := hrecorded
  obtain ⟨id, first, second, hid, hrest, rfl⟩ := runs_action_bind_iff.mp hrecorded
  rw [runs_modifySource_bind_iff] at hrest
  obtain ⟨rfl, rfl, rfl⟩ := runs_pure_iff.mp hrest
  rw [yields_request_iff.mp hid]
  exact ⟨id, rfl, rfl, rfl⟩

/-- What is done if the target is not there: its server is sized, created and recorded. -/
theorem runs_createTarget_iff {errors : StepErrors} {outcome : Except CommandError (Option Signal)}
    (bare : s.target.isProvisioned = false) :
    Runs (createTarget provider) ⟨s, errors⟩ trace outcome after ↔
      Runs (ensureSourceInventory >>= fun inventory => source >>= fun sized =>
        ofExcept (specFor sized inventory) >>= fun spec => cloud (provider.createTarget spec)
          >>= recordTarget) ⟨s, errors⟩ trace outcome after := by
  rw [createTarget, runs_source_bind_iff, if_neg (by rw [bare]; exact Bool.false_ne_true)]
  rfl

/-- A target that is returned by the provider is recorded. -/
theorem runs_createTarget_of_returned {sized : Source} {inventory : SystemInfo} {spec : TargetSpec}
    {metadata : CloudMetadata} {asked creation recorded : SiteTrace}
    {outcome : Except CommandError (Option Signal)} (bare : s.target.isProvisioned = false)
    (hinventory : Runs ensureSourceInventory ⟨s, []⟩ asked (.ok inventory) ⟨sized, []⟩)
    (hspec : specFor sized inventory = .ok spec)
    (hcreated : (provider.createTarget spec).run.Yields creation (.ok metadata))
    (hrecorded : Runs (recordTarget metadata) ⟨sized, []⟩ recorded outcome after) :
    Runs (createTarget provider) ⟨s, []⟩ (asked ++ (creation ++ recorded)) outcome after := by
  refine (runs_createTarget_iff bare).mpr (hinventory.bind ?_)
  rw [runs_source_bind_iff, hspec, runs_look_iff]
  exact (runs_cloud_iff.mpr ⟨_, hcreated, rfl, rfl⟩).bind hrecorded

/-- A target that is there is left alone. -/
theorem runs_createTarget_of_isProvisioned {errors : StepErrors}
    {outcome : Except CommandError (Option Signal)} (provisioned : s.target.isProvisioned)
    (h : Runs (createTarget provider) ⟨s, errors⟩ trace outcome after) :
    trace = [] ∧ after = ⟨s, errors⟩
      ∧ (outcome = .ok none ∨ outcome = .error Source.unaddressed) := by
  obtain ⟨host, metadata, hhost, -⟩ := exists_host_of_isProvisioned provisioned
  rw [createTarget, runs_source_bind_iff, if_pos provisioned, runs_source_bind_iff,
    targetHost_eq_ok_iff.mpr hhost, runs_look_iff] at h
  split at h
  · obtain ⟨rfl, rfl, rfl⟩ := runs_throw_bind_iff.mp h
    exact ⟨rfl, rfl, .inr rfl⟩
  · obtain ⟨rfl, rfl, rfl⟩ := runs_pure_iff.mp h
    exact ⟨rfl, rfl, .inl rfl⟩

/-- The rest of an attempt, behind questions that request no server. -/
theorem attempted_of_sized {asked : SiteTrace} {inventory : SystemInfo}
    {outcome : Except CommandError (Option Signal)} (bare : s.target.isProvisioned = false)
    (silent : RequestsNoServer asked) (inventoried : s.InventoriedIn asked before.source)
    (h : Runs (source >>= fun sized => ofExcept (specFor sized inventory) >>= fun spec =>
      cloud (provider.createTarget spec) >>= recordTarget) before trace outcome after) :
    s.Attempted provider (asked ++ trace) ⟨after.source, after.errors, outcome⟩ := by
  rw [runs_source_bind_iff] at h
  cases hspec : specFor before.source inventory with
  | error error =>
    rw [hspec] at h
    obtain ⟨rfl, rfl, rfl⟩ := runs_throw_bind_iff.mp h
    rw [List.append_nil]
    exact .failed bare inventoried fun _ => Provider.not_returned silent
  | ok spec =>
    rw [hspec, runs_look_iff] at h
    rcases runs_bind_iff.mp h with
      ⟨error, hcreated, rfl⟩ | ⟨metadata, middle, creation, last, hcreated, hrecorded, rfl⟩
    · obtain ⟨answer, hcreation, hresult, rfl⟩ := runs_cloud_iff.mp hcreated
      refine .failed bare (inventoried.append trace) fun metadata returned => ?_
      -- What has been returned is the answer, and the answer is an error.
      rw [← List.append_nil (asked ++ trace),
        Provider.returned_append_iff silent requestsNoServer_nil hcreation] at returned
      rw [returned] at hresult
      cases hresult
    · obtain ⟨answer, hcreation, hresult, rfl⟩ := runs_cloud_iff.mp hcreated
      obtain rfl : answer = .ok metadata := mapError_eq_ok_iff.mp hresult.symm
      obtain ⟨id, rfl, rfl, hafter⟩ := runs_recordTarget hrecorded
      have hid : RequestsNoServer [⟨.freshId, id⟩] := by simp
      rw [hafter, ← List.append_assoc]
      refine .created bare ((inventoried.append creation).append _) fun other => ?_
      rw [Provider.returned_append_iff silent hid hcreation, Except.ok.injEq]

/-- **What comes of an attempt.** -/
theorem runs_createTarget {outcome : Except CommandError (Option Signal)}
    (h : Runs (createTarget provider) ⟨s, []⟩ trace outcome after) :
    s.Attempted provider trace ⟨after.source, after.errors, outcome⟩ := by
  cases bare : s.target.isProvisioned with
  | true =>
    obtain ⟨rfl, rfl, idle⟩ := runs_createTarget_of_isProvisioned bare h
    exact .there bare idle
  | false =>
    rcases runs_bind_iff.mp ((runs_createTarget_iff bare).mp h) with
      ⟨error, hsized, rfl⟩ | ⟨inventory, middle, asked, rest, hsized, hrest, rfl⟩
    · obtain ⟨silent, inventoried⟩ := runs_ensureSourceInventory hsized
      exact .failed bare inventoried fun _ => Provider.not_returned silent
    · obtain ⟨silent, inventoried⟩ := runs_ensureSourceInventory hsized
      exact attempted_of_sized bare silent inventoried hrest

end Work

theorem MigrationStep.attempted_of_yields {s : Source} {run : CommandRun Source}
    (h : (MigrationStep.createTarget.perform provider s).Yields trace run) :
    s.Attempted provider trace run :=
  Work.runs_createTarget (MigrationStep.runs_of_yields_perform h)

namespace Source.Attempted

variable {s : Source} {run : CommandRun Source} {metadata : CloudMetadata}

/-- Nothing becomes of the target unless the provider returns one. -/
theorem target_eq (attempted : s.Attempted provider trace run)
    (unreturned : ∀ metadata, ¬provider.Returned trace metadata) :
    run.entity.target = s.target := by
  cases attempted with
  | there => rfl
  | failed _ inventory => exact inventory.target_eq
  | created _ _ returned => exact absurd ((returned _).mpr rfl) (unreturned _)

/-- A target that the provider returns is recorded. -/
theorem of_returned (attempted : s.Attempted provider trace run)
    (returned : provider.Returned trace metadata) :
    s.target.isProvisioned = false ∧ run.outcome = .ok none
      ∧ ∃ id, run.entity.target.remoteHost = some (createdHost s metadata id) := by
  cases attempted with
  | there => exact absurd returned (Provider.not_returned requestsNoServer_nil)
  | failed _ _ unreturned => exact absurd returned (unreturned metadata)
  | @created _ _ _ other id bare inventory only =>
    obtain rfl := (only metadata).mp returned
    refine ⟨bare, rfl, id, ?_⟩
    cases inventory <;> rfl

/-- Nothing is done about a target that is there. -/
theorem of_isProvisioned (attempted : s.Attempted provider trace run)
    (provisioned : s.target.isProvisioned) :
    trace = [] ∧ run.entity = s ∧ run.errors = []
      ∧ (run.outcome = .ok none ∨ run.outcome = .error unaddressed) := by
  cases attempted with
  | there _ idle => exact ⟨rfl, rfl, rfl, idle⟩
  | failed bare | created bare => exact absurd provisioned (by rw [bare]; exact Bool.false_ne_true)

theorem inventoriedIn (attempted : s.Attempted provider trace run) :
    ∃ middle, s.InventoriedIn trace middle ∧ run.entity.systemInfo = middle.systemInfo := by
  cases attempted with
  | there => exact ⟨s, .kept [], rfl⟩
  | failed _ inventory => exact ⟨_, inventory, rfl⟩
  | created _ inventory => exact ⟨_, inventory, rfl⟩

/-- An inventory that is stored was not there before, and has been collected in full. -/
theorem collected (attempted : s.Attempted provider trace run)
    (stored : run.entity.systemInfo ≠ s.systemInfo) :
    s.systemInfo = none ∧ ∃ info asked rest, run.entity.systemInfo = some info
      ∧ trace = asked ++ rest
      ∧ info.CollectedIn s.remoteHost s.target.blueprint.commands.listBlockDevices asked := by
  obtain ⟨middle, inventory, hmiddle⟩ := attempted.inventoriedIn
  cases inventory with
  | kept => exact absurd hmiddle stored
  | @taken asked info unknown collected rest =>
    exact ⟨unknown, info, asked, rest, hmiddle, rfl, collected⟩

end Source.Attempted

/-! ### Any number of attempts -/

/-- An attempt to create the target of a source. -/
structure Attempt where
  /-- The source before it. -/
  before : Source
  /-- What was asked and answered. -/
  trace : SiteTrace
  /-- What came of it. -/
  run : CommandRun Source

/-- The attempt finds this source, asks nothing and leaves it as it is; it succeeds, or misses the
address of the target. -/
structure Attempt.Idle (attempt : Attempt) (source : Source) : Prop where
  found : attempt.before = source
  silent : attempt.trace = []
  kept : attempt.run.entity = source
  clean : attempt.run.errors = []
  outcome : attempt.run.outcome = .ok none ∨ attempt.run.outcome = .error Source.unaddressed

/-- These attempts, made one after the other with any answers, lead from one source to another. -/
inductive Attempts (provider : Provider) : Source → List Attempt → Source → Prop
  | nil (source : Source) : Attempts provider source [] source
  | cons {source after : Source} {trace : SiteTrace} {run : CommandRun Source}
      {attempts : List Attempt}
      (performed : (MigrationStep.createTarget.perform provider source).Yields trace run)
      (rest : Attempts provider run.entity attempts after) :
      Attempts provider source (⟨source, trace, run⟩ :: attempts) after

namespace Attempts

variable {source after : Source} {attempts earlier later : List Attempt} {attempt : Attempt}

/-- Attempts can be taken apart at any of them. -/
theorem split (made : Attempts provider source (earlier ++ attempt :: later) after) :
    Attempts provider source earlier attempt.before
      ∧ attempt.before.Attempted provider attempt.trace attempt.run
      ∧ Attempts provider attempt.run.entity later after := by
  induction earlier generalizing source with
  | nil =>
    cases made with
    | cons performed rest => exact ⟨.nil _, MigrationStep.attempted_of_yields performed, rest⟩
  | cons _ earlier ih =>
    cases made with
    | cons performed rest =>
      obtain ⟨hearlier, attempted, hlater⟩ := ih rest
      exact ⟨.cons performed hearlier, attempted, hlater⟩

/-- As long as the provider returns nothing, nothing becomes of the target. -/
theorem target_eq (made : Attempts provider source attempts after)
    (unreturned : ∀ attempt ∈ attempts, ∀ metadata, ¬provider.Returned attempt.trace metadata) :
    after.target = source.target := by
  induction made with
  | nil => rfl
  | cons performed _ ih =>
    have attempted := MigrationStep.attempted_of_yields performed
    rw [ih fun attempt h => unreturned attempt (List.mem_cons_of_mem _ h)]
    exact attempted.target_eq (unreturned _ List.mem_cons_self)

/-- Once the target is there, nothing is done any more. -/
theorem idle (made : Attempts provider source attempts after)
    (provisioned : source.target.isProvisioned) :
    after = source ∧ ∀ attempt ∈ attempts, attempt.Idle source := by
  induction made with
  | nil => exact ⟨rfl, fun _ h => nomatch h⟩
  | cons performed _ ih =>
    have attempted := MigrationStep.attempted_of_yields performed
    obtain ⟨hsilent, hkept, hclean, houtcome⟩ := attempted.of_isProvisioned provisioned
    rw [hkept] at ih
    obtain ⟨hafter, hidle⟩ := ih provisioned
    refine ⟨hafter, fun attempt h => ?_⟩
    rcases List.mem_cons.mp h with rfl | h
    · exact ⟨rfl, hsilent, hkept, hclean, houtcome⟩
    · exact hidle attempt h

/-- **However often the creation of a target is attempted, with whatever answers**: a target is
recorded by the attempt in which the provider returns it, and by no other one; after that attempt
nothing is asked or changed any more; until then every attempt that fails leaves the target as it
was in the beginning; and an inventory of the source is stored only by an attempt that has collected
all parts of it. -/
theorem created_once (made : Attempts provider source (earlier ++ attempt :: later) after) :
    ((∀ metadata, ¬provider.Returned attempt.trace metadata) →
        attempt.run.entity.target = attempt.before.target)
      ∧ (∀ metadata, provider.Returned attempt.trace metadata →
        attempt.before.target.isProvisioned = false ∧ attempt.run.outcome = .ok none
          ∧ (∃ id, attempt.run.entity.target.remoteHost
            = some (createdHost attempt.before metadata id))
          ∧ after = attempt.run.entity ∧ ∀ next ∈ later, next.Idle attempt.run.entity)
      ∧ ((∀ prior ∈ earlier, ∀ metadata, ¬provider.Returned prior.trace metadata) →
        (∃ error, attempt.run.outcome = .error error) →
        attempt.run.entity.target = source.target)
      ∧ (attempt.run.entity.systemInfo ≠ attempt.before.systemInfo →
        attempt.before.systemInfo = none ∧ ∃ info asked rest,
          attempt.run.entity.systemInfo = some info ∧ attempt.trace = asked ++ rest
            ∧ info.CollectedIn attempt.before.remoteHost
              attempt.before.target.blueprint.commands.listBlockDevices asked) := by
  obtain ⟨hearlier, attempted, hlater⟩ := made.split
  refine ⟨attempted.target_eq, fun metadata returned => ?_, fun unreturned failed => ?_,
    attempted.collected⟩
  · obtain ⟨bare, houtcome, id, hhost⟩ := attempted.of_returned returned
    have provisioned : attempt.run.entity.target.isProvisioned := by
      rw [Target.isProvisioned, hhost]
      rfl
    obtain ⟨hafter, hidle⟩ := hlater.idle provisioned
    exact ⟨bare, houtcome, ⟨id, hhost⟩, hafter, hidle⟩
  · obtain ⟨error, herror⟩ := failed
    rw [← hearlier.target_eq unreturned]
    refine attempted.target_eq fun metadata returned => ?_
    obtain ⟨-, hok, -⟩ := attempted.of_returned returned
    cases herror.symm.trans hok

/-! ### A target without an address -/

/-- The disks of a source, two processors and four GiB of memory. -/
def volumeInventory : SystemInfo where
  blockDevices := MountTable.volumeDevices
  hardware := ⟨2, 4096⟩

/-- The target that fits them. -/
def volumeSpec : TargetSpec :=
  { webSpec with diskSizesGib := [30] }

/-- The reports of a source; that of its addresses varies. -/
def volumeReports (addresses : Except RemoteError String) : SiteTrace :=
  [⟨.remote webSource.remoteHost webSource.target.blueprint.commands.listBlockDevices {},
      .ok MountTable.volumeReport⟩,
    ⟨.remote webSource.remoteHost ipAddrCommand {}, addresses⟩,
    ⟨.remote webSource.remoteHost ipRouteCommand .lenient, .ok ""⟩,
    ⟨.remote webSource.remoteHost hardwareCommand {}, .ok "2\n4194304\n"⟩]

/-- The creation of a target whose bootstrap interface gets no address. -/
def volumeCreation : SiteTrace :=
  [⟨.datacenter (.createServer (Provider.serverRequest {} volumeSpec)), .ok ⟨"web", "request"⟩⟩,
    ⟨.elapsed, ⟨0⟩⟩, ⟨.datacenter (.requestStatus "request"), .ok ⟨"DONE", none⟩⟩,
    ⟨.datacenter (.listVolumes "web"), .ok [⟨"a", "web-bootstrap", 10, some 1⟩]⟩,
    ⟨.datacenter (.listNics "web"), .ok [⟨"e", "web-bootstrap", 1, [], none⟩]⟩]

theorem hardware_volumeReports :
    Hardware.ofReport "2\n4194304\n" = some volumeInventory.hardware := by
  cbv

theorem collectedIn_volumeReports : volumeInventory.CollectedIn webSource.remoteHost
    webSource.target.blueprint.commands.listBlockDevices (volumeReports (.ok "[]")) :=
  ⟨_, "[]", "", _, rfl, MountTable.ofLsblk_volumeReport, by cbv, hardware_volumeReports⟩

theorem specFor_volumeInventory :
    specFor (webSource.withInventory volumeInventory) volumeInventory = .ok volumeSpec := by
  with_unfolding_all rfl

/-- If the addresses are not reported, nothing is stored. -/
theorem yields_unreported (error : RemoteError) :
    (MigrationStep.createTarget.perform {} webSource).Yields (volumeReports (.error error))
      ⟨webSource, [], .error
        (.failed "CreateTarget" 1 (StepErrors.report [s!"ip addr: {error.message}"]))⟩ := by
  have hnetwork : Runs (Work.collectNetwork webSource.remoteHost) ⟨webSource, []⟩
      [⟨.remote webSource.remoteHost ipAddrCommand {}, .error error⟩,
        ⟨.remote webSource.remoteHost ipRouteCommand .lenient, .ok ""⟩] (.ok [])
      ⟨webSource, [s!"ip addr: {error.message}"]⟩ :=
    Yields.ask _ (.ask _ (.done _))
  have hinventory : Runs (Work.takeInventory webSource.remoteHost
      webSource.target.blueprint.commands.listBlockDevices) ⟨webSource, []⟩
      (volumeReports (.error error)) (.ok volumeInventory)
      ⟨webSource, [s!"ip addr: {error.message}"]⟩ :=
    (Work.runs_collectDisks_of_ok MountTable.ofLsblk_volumeReport).bind (hnetwork.bind
      ((Work.runs_collectHardware_of_ok hardware_volumeReports).bind (.done _)))
  have hstopped : Runs Work.ensureSourceInventory ⟨webSource, []⟩ (volumeReports (.error error))
      (.error (.failed "CreateTarget" 1 (StepErrors.report [s!"ip addr: {error.message}"])))
      ⟨webSource, []⟩ :=
    hinventory.bind (runs_bind_iff.mpr (.inl ⟨_, .done _, rfl⟩))
  refine MigrationStep.yields_perform ((Work.runs_createTarget_iff rfl).mpr ?_)
  exact runs_bind_iff.mpr (.inl ⟨_, hstopped, rfl⟩)

/-- An inventory that has been collected stays if the provider refuses the target. -/
theorem yields_refused (error : CloudError) :
    (MigrationStep.createTarget.perform {} webSource).Yields (volumeReports (.ok "[]")
        ++ [⟨.datacenter (.createServer (Provider.serverRequest {} volumeSpec)), .error error⟩])
      ⟨webSource.withInventory volumeInventory, [], .error (.cloud error)⟩ := by
  have hinventory :=
    Work.runs_ensureSourceInventory_of_collectedIn (s := webSource) rfl collectedIn_volumeReports
  have hrefused : Program.Yields (Provider.createTarget {} volumeSpec).run
      [⟨.datacenter (.createServer (Provider.serverRequest {} volumeSpec)), .error error⟩]
      (.error error) :=
    .ask _ (.done _)
  refine MigrationStep.yields_perform ((Work.runs_createTarget_iff rfl).mpr (hinventory.bind ?_))
  rw [Work.runs_source_bind_iff, specFor_volumeInventory, Work.runs_look_iff]
  exact runs_bind_iff.mpr (.inl ⟨_, Work.runs_cloud_iff.mpr ⟨_, hrefused, rfl, rfl⟩, rfl⟩)

/-- The metadata of the target that is created. -/
def volumeMetadata : CloudMetadata where
  serverId := "web"
  bootstrapVolumeId := "a"
  bootstrapNicId := "e"
  volumes := [⟨"a", "web-bootstrap", 10, some 1⟩]
  nics := [⟨"e", "web-bootstrap", 1, [], none⟩]

theorem yields_volumeCreation : Program.Yields (Provider.createTarget {} volumeSpec).run
    volumeCreation (.ok volumeMetadata) :=
  .ask _ (.ask _ (.ask _ (.ask _ (.ask _ (.done _)))))

/-- The source when its target has been created. -/
def volumeSource : Source :=
  (webSource.withInventory volumeInventory).withTarget volumeMetadata default

/-- With the inventory that is there the target is created. -/
theorem yields_created :
    (MigrationStep.createTarget.perform {} (webSource.withInventory volumeInventory)).Yields
      (volumeCreation ++ [⟨.freshId, default⟩])
      ⟨volumeSource, ["bootstrap NIC: provider assigned no address"], .ok none⟩ := by
  have hinventory : Runs Work.ensureSourceInventory ⟨webSource.withInventory volumeInventory, []⟩ []
      (.ok volumeInventory) ⟨webSource.withInventory volumeInventory, []⟩ :=
    .done _
  have hrecorded : Runs (Work.recordTarget volumeMetadata)
      ⟨webSource.withInventory volumeInventory, []⟩ [⟨.freshId, default⟩] (.ok none)
      ⟨volumeSource, ["bootstrap NIC: provider assigned no address"]⟩ :=
    Yields.ask _ (.done _)
  exact MigrationStep.yields_perform (Work.runs_createTarget_of_returned rfl hinventory
    specFor_volumeInventory yields_volumeCreation hrecorded)

/-- Four attempts: the addresses are not reported, the provider refuses the target, it is created
without an address, and that is missed. -/
theorem volumeSource_created_once :
    ∃ unreported refused created missed : Attempt,
      Attempts {} webSource [unreported, refused, created, missed] volumeSource
        ∧ refused.run.entity.target = webSource.target
        ∧ (∃ info asked rest, refused.run.entity.systemInfo = some info
          ∧ refused.trace = asked ++ rest ∧ info.CollectedIn webSource.remoteHost
            webSource.target.blueprint.commands.listBlockDevices asked)
        ∧ (∃ id, created.run.entity.target.remoteHost
          = some (createdHost created.before volumeMetadata id))
        ∧ volumeSource = created.run.entity
        ∧ missed.Idle created.run.entity ∧ missed.run.outcome = .error Source.unaddressed := by
  have missing : (MigrationStep.createTarget.perform {} volumeSource).Yields []
      ⟨volumeSource, [], .error Source.unaddressed⟩ :=
    .done _
  have made := Attempts.cons (yields_unreported (.connection "web" 1 "timeout"))
    (.cons (yields_refused .http) (.cons yields_created (.cons missing (.nil _))))
  have second : Attempts {} webSource ([_] ++ _ :: _) volumeSource := made
  have third : Attempts {} webSource ([_, _] ++ _ :: _) volumeSource := made
  obtain ⟨-, -, unset, stored⟩ := second.created_once
  obtain ⟨-, recorded, -⟩ := third.created_once
  have unreturned : ∀ metadata, ¬Provider.Returned {}
      (volumeReports (.error (.connection "web" 1 "timeout"))) metadata :=
    fun _ => Provider.not_returned (by simp [volumeReports])
  obtain ⟨-, -, hhost, -, hidle⟩ := recorded volumeMetadata
    ⟨volumeSpec, [], volumeCreation, [⟨.freshId, default⟩], rfl, yields_volumeCreation⟩
  have hunset := unset (by simpa using unreturned) ⟨_, rfl⟩
  obtain ⟨-, hstored⟩ := stored (Option.some_ne_none volumeInventory)
  exact ⟨_, _, _, _, made, hunset, hstored, hhost, rfl, hidle _ List.mem_cons_self, rfl⟩

end Attempts

end ServerMigration
