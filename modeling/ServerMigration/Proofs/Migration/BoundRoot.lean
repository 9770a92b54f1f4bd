import ServerMigration.Proofs.Mapping.Resolution
import ServerMigration.Proofs.Migration.Formatting

/-!
# What is bound into the root of the migrated system

The bootloader is installed within the root of the migrated system, into which the filesystems that
belong below it are bound for that time.  Whichever commands fail, nothing is run within the root
unless everything is bound, and whatever has been bound is taken out once, the latest first.

## Main definitions

* `UntilFailure` : tasks that are done one after the other until one of them fails.
* `RootedRun` : directories are bound, tasks are done within their root, and the directories are
  taken out again.
* `FailuresTold` : every command that fails is told once.

## Main results

* `Work.bindAll_does`, `Work.runInRoot_does`, `Work.unmountAll_does` : the three parts.
* `parentsFirst_nestedMounts` : parents are bound before what is mounted below them.
* `MigrationStep.reinstallBootloader_balanced` : the run of the bootloader's installation.
-/

namespace ServerMigration

open Program MountTable

/-! ### Tasks -/

/-- A command and what it is called when it fails. -/
structure Task where
  /-- What the command is called. -/
  operation : String
  /-- The command. -/
  command : String

/-- A directory is bound at a path. -/
def bindTask (bind : BindMount) : Task := ⟨s!"bind {bind.1} at {bind.2}", bindCommand bind⟩

/-- A command is run within a root. -/
def rootedTask (root command : String) : Task := ⟨command, rootedCommand root command⟩

/-- What is bound at a path is taken out once, whether that fails or not. -/
def Unmounted (host : RemoteHost) (path : String) (trace : SiteTrace) (told : StepErrors) : Prop :=
  ∃ reply, trace = [⟨.remote host (unmountCommand path) {}, reply⟩]
    ∧ told = Work.complaint s!"unmount {path}" reply

/-- Tasks are done one after the other until one of them fails.  The second list holds the ones that
have succeeded. -/
inductive UntilFailure (host : RemoteHost) :
    List Task → List Task → SiteTrace → StepErrors → Prop
  | nil : UntilFailure host [] [] [] []
  | failed (task : Task) (tasks : List Task) (error : RemoteError) :
      UntilFailure host (task :: tasks) [] [⟨.remote host task.command {}, .error error⟩]
        (Work.complaint task.operation (.error error))
  | succeeded {tasks finished : List Task} {trace : SiteTrace} {told : StepErrors} (task : Task)
      (output : String) (rest : UntilFailure host tasks finished trace told) :
      UntilFailure host (task :: tasks) (task :: finished)
        (⟨.remote host task.command {}, .ok output⟩ :: trace) told

/-- Directories are bound, tasks are done within the root that they are bound into, and the
directories are taken out again. -/
inductive RootedRun (host : RemoteHost) (binds : List BindMount) (inside : List Task) :
    SiteTrace → StepErrors → Prop
  /-- A bind is refused.  Nothing is done within the root, and what has been bound before is taken
  out, the latest first. -/
  | refused {bound : List BindMount} {binding removal : SiteTrace}
      {toldBinding toldRemoval : StepErrors} (begins : bound <+: binds) (short : bound ≠ binds)
      (begun : UntilFailure host (binds.map bindTask) (bound.map bindTask) binding toldBinding)
      (removed : InTurn (Unmounted host) (bound.map (·.2)).reverse removal toldRemoval) :
      RootedRun host binds inside (binding ++ removal) (toldBinding ++ toldRemoval)
  /-- Everything is bound.  The tasks are done until one of them fails, and then everything is taken
  out, the latest first. -/
  | entered {finished : List Task} {binding stay removal : SiteTrace}
      {toldBinding toldStay toldRemoval : StepErrors}
      (begun : UntilFailure host (binds.map bindTask) (binds.map bindTask) binding toldBinding)
      (done : UntilFailure host inside finished stay toldStay)
      (removed : InTurn (Unmounted host) (binds.map (·.2)).reverse removal toldRemoval) :
      RootedRun host binds inside (binding ++ stay ++ removal)
        (toldBinding ++ toldStay ++ toldRemoval)

/-! ### Failures -/

/-- The failure of an exchange, if it is a command that has failed. -/
def failureOf? : Exchange Site.Ask Site.Answer → Option RemoteError
  | ⟨.remote _ _ _, .error error⟩ => some error
  | _ => none

/-- Every command that has failed is told once, in order. -/
def FailuresTold (trace : SiteTrace) (told : StepErrors) : Prop :=
  List.Forall₂ (fun error line => ∃ operation : String, line = s!"{operation}: {error.message}")
    (trace.filterMap failureOf?) told

section

variable {host : RemoteHost} {tasks finished inside : List Task} {binds : List BindMount}
  {trace first second : SiteTrace} {told toldFirst toldSecond : StepErrors}

theorem FailuresTold.append (hfirst : FailuresTold first toldFirst)
    (hsecond : FailuresTold second toldSecond) :
    FailuresTold (first ++ second) (toldFirst ++ toldSecond) := by
  rw [FailuresTold, List.filterMap_append]
  exact List.rel_append hfirst hsecond

theorem Unmounted.failuresTold {path : String} (unmounted : Unmounted host path trace told) :
    FailuresTold trace told := by
  obtain ⟨reply, rfl, rfl⟩ := unmounted
  cases reply with
  | ok output => exact .nil
  | error error => exact .cons ⟨_, rfl⟩ .nil

theorem UntilFailure.failuresTold (done : UntilFailure host tasks finished trace told) :
    FailuresTold trace told := by
  induction done with
  | nil => exact .nil
  | failed => exact .cons ⟨_, rfl⟩ .nil
  | succeeded task output _ ih => exact ih

theorem InTurn.failuresTold {paths : List String}
    (removed : InTurn (Unmounted host) paths trace told) : FailuresTold trace told := by
  induction removed with
  | nil => exact .nil
  | cons unmounted _ ih => exact unmounted.failuresTold.append ih

theorem RootedRun.failuresTold (rooted : RootedRun host binds inside trace told) :
    FailuresTold trace told := by
  cases rooted with
  | refused _ _ bound removed => exact bound.failuresTold.append removed.failuresTold
  | entered bound done removed =>
    exact (bound.failuresTold.append done.failuresTold).append removed.failuresTold

end

/-! ### The parts of the installation -/

namespace Work

theorem bindAll_does (target : RemoteHost) (mounted : List String) (binds : List BindMount) :
    (bindAll target mounted binds).Does fun result trace told => ∃ bound,
      result = ((bound.map (·.2)).reverse ++ mounted, decide (bound = binds))
        ∧ bound <+: binds
        ∧ UntilFailure target (binds.map bindTask) (bound.map bindTask) trace told := by
  induction binds generalizing mounted with
  | nil => exact does_pure ⟨[], rfl, List.prefix_rfl, .nil⟩
  | cons bind binds ih =>
    refine (does_tryRemote _ _ _).bind ?_
    rintro _ _ _ ⟨reply, rfl, rfl, rfl⟩
    cases reply with
    | error error =>
      refine does_pure ⟨[], rfl, List.nil_prefix, ?_⟩
      rw [List.append_nil, List.append_nil]
      exact .failed (bindTask bind) _ error
    | ok output =>
      refine (ih (bind.2 :: mounted)).mono ?_
      rintro _ trace told ⟨bound, rfl, begins, rest⟩
      exact ⟨bind :: bound, by simp, List.cons_prefix_cons.mpr ⟨rfl, begins⟩,
        .succeeded (bindTask bind) output rest⟩

theorem runInRoot_does (target : RemoteHost) (root : String) (commands : List String) :
    (runInRoot target root commands).Does fun _ trace told => ∃ finished,
      UntilFailure target (commands.map (rootedTask root)) finished trace told := by
  induction commands with
  | nil => exact does_pure ⟨[], .nil⟩
  | cons command commands ih =>
    refine (does_tryRemote _ _ _).bind ?_
    rintro _ _ _ ⟨reply, rfl, rfl, rfl⟩
    cases reply with
    | error error =>
      refine does_pure ⟨[], ?_⟩
      rw [List.append_nil, List.append_nil]
      exact .failed (rootedTask root command) _ error
    | ok output =>
      refine ih.mono ?_
      rintro _ trace told ⟨finished, rest⟩
      exact ⟨_, .succeeded (rootedTask root command) output rest⟩

theorem unmountAll_does (target : RemoteHost) (paths : List String) :
    (unmountAll target paths).Does fun _ => InTurn (Unmounted target) paths := by
  refine Does.forM fun path => (does_tryRemote _ _ _).bind ?_
  rintro _ _ _ ⟨reply, rfl, -, rfl⟩
  refine does_pure ?_
  rw [List.append_nil, List.append_nil]
  exact ⟨reply, rfl, rfl⟩

/-- The paths that have been bound are taken out, and nothing else is left to do. -/
theorem removal_does (target : RemoteHost) (paths : List String) :
    (do unmountAll target paths; return none : Work (Option Signal)).Does fun signal trace told =>
      signal = none ∧ InTurn (Unmounted target) paths trace told := by
  refine (unmountAll_does target paths).bind fun _ trace told removed => does_pure ?_
  rw [List.append_nil, List.append_nil]
  exact ⟨rfl, removed⟩

/-- Binds directories, does what is to be done within their root unless a bind is refused, and takes
out what has been bound. -/
def withinRoot (target : RemoteHost) (root : String) (binds : List BindMount)
    (commands : List String) : Work (Option Signal) := do
  let (mounted, bound) ← bindAll target [] binds
  if bound then
    runInRoot target root commands
  unmountAll target mounted
  return none

theorem withinRoot_does (target : RemoteHost) (root : String) (binds : List BindMount)
    (commands : List String) :
    (withinRoot target root binds commands).Does fun signal trace told => signal = none
      ∧ RootedRun target binds (commands.map (rootedTask root)) trace told := by
  refine (bindAll_does target [] binds).bind ?_
  rintro _ binding toldBinding ⟨bound, rfl, begins, begun⟩
  rw [List.append_nil]
  -- What is taken out is what has been bound, and only a whole list of binds lets anything in.
  by_cases hall : bound = binds
  · subst hall
    rw [decide_eq_true rfl]
    refine (runInRoot_does target root commands).bind ?_
    rintro _ stay toldStay ⟨finished, done⟩
    refine (removal_does target _).mono ?_
    rintro _ removal toldRemoval ⟨rfl, removed⟩
    refine ⟨rfl, ?_⟩
    rw [← List.append_assoc, ← List.append_assoc]
    exact .entered begun done removed
  · rw [decide_eq_false hall]
    refine (removal_does target _).mono ?_
    rintro _ removal toldRemoval ⟨rfl, removed⟩
    exact ⟨rfl, .refused begins hall begun removed⟩

end Work

/-! ### The order of the binds -/

section

variable {devices : Devices} {mapping : DeviceMapping} {table : MountTable} {entry : MountEntry}

/-- A filesystem of the table is mounted at an absolute path or nowhere. -/
theorem absolute_of_ofMapping (h : ofMapping devices mapping = .ok table) (hmem : entry ∈ table)
    (hmounted : entry.sourceMountpoint ≠ "") : Absolute entry.sourceMountpoint := by
  obtain ⟨disk, device, mappedDisk, mapped, -, -, rfl⟩ := exists_entryOf_of_mem h hmem
  change device.mountPath?.getD "" ≠ "" at hmounted
  change Absolute (device.mountPath?.getD "")
  cases hpath : device.mountPath? with
  | none =>
    rw [hpath] at hmounted
    exact absurd rfl hmounted
  | some path => exact (DeviceMapping.mountPath?_eq_some_iff.mp hpath).2.1

/-- **No filesystem is bound before the one that it lies in.** -/
theorem parentsFirst_nestedMounts (h : ofMapping devices mapping = .ok table) :
    (nestedMounts table).Pairwise fun earlier later =>
      LiesIn earlier.2 later.2 → earlier.2 = later.2 := by
  have hnested : ParentsFirst (table.filter fun entry => entry.sourceMountpoint ≠ "/"
      && entry.sourceMountpoint ≠ "" && entry.targetMountpoint ≠ "") := by
    refine parentsFirst_of_sorted ((sorted_of_ofMapping h).filter _) fun entry hmem => ?_
    obtain ⟨hmem, hkept⟩ := List.mem_filter.mp hmem
    simp only [Bool.and_eq_true, decide_eq_true_eq] at hkept
    exact absolute_of_ofMapping h hmem hkept.1.2
  exact List.pairwise_map.mpr (hnested.imp And.right)

end

/-! ### The installation -/

theorem MountTable.exists_bootEntry {table : MountTable} {root : MountEntry}
    (h : table.root = some root) : ∃ boot, table.bootEntry = some boot := by
  rw [bootEntry, h]
  cases table.mountedAt "/boot" with
  | none => exact ⟨root, rfl⟩
  | some boot => exact ⟨boot, rfl⟩

namespace MigrationStep

variable {provider : Provider} {s : Source} {host : RemoteHost} {table : MountTable}
  {root : MountEntry} {trace : SiteTrace} {run : CommandRun Source}

/-- **Installing the bootloader is a balanced run.**  On a target whose root filesystem is known,
the filesystems below the root are bound, parents first, and then those of the kernel, up to the
first bind that is refused.  The filesystems below the root are those of all entries of the table
that are mounted elsewhere than at `/` and have a mount directory.  The bootloader is installed and
configured if everything is bound, the latter if the former has succeeded.  Then exactly what has
been bound is taken out again, the latest first, whatever has failed.  Every command that has failed
is told once. -/
theorem reinstallBootloader_balanced (hhost : s.target.remoteHost = some host)
    (htable : Work.mountTable s "ReinstallBootloader" = .ok table) (hroot : table.root = some root)
    (h : (reinstallBootloader.perform provider s).Yields trace run) :
    ∃ boot, table.bootEntry = some boot
      ∧ nestedMounts table = (table.filter fun entry => entry.sourceMountpoint ≠ "/"
          && entry.sourceMountpoint ≠ "" && entry.targetMountpoint ≠ "").map
        (fun entry => (entry.targetMountpoint, entry.sourceMountpoint))
      ∧ (nestedMounts table).Pairwise (fun earlier later =>
        LiesIn earlier.2 later.2 → earlier.2 = later.2)
      ∧ RootedRun host
        ((nestedMounts table).map (fun mount => (mount.1, root.targetMountpoint ++ mount.2))
          ++ ["/dev", "/proc", "/sys"].map fun path => (path, root.targetMountpoint ++ path))
        ([s.remoteHost.os.installGrub s!"/dev/{boot.targetDisk}",
          s.remoteHost.os.configureGrub].map (rootedTask root.targetMountpoint))
        trace run.errors
      ∧ FailuresTold trace run.errors
      ∧ run.outcome = .ok none ∧ run.entity = s := by
  obtain ⟨boot, hboot⟩ := MountTable.exists_bootEntry hroot
  obtain ⟨info, -, hrest⟩ := bind_eq_ok_iff.mp htable
  obtain ⟨mapping, -, hmapped⟩ := bind_eq_ok_iff.mp hrest
  have hruns : Runs Work.installBootloader ⟨s, []⟩ trace run.outcome ⟨run.entity, run.errors⟩ :=
    runs_of_yields_perform h
  rw [Work.installBootloader, Work.runs_source_bind_iff, Work.targetHost_eq_ok_iff.mpr hhost,
    Work.runs_look_iff, htable, Work.runs_look_iff, hroot, hboot] at hruns
  obtain ⟨_, told, houtcome, hafter, rfl, rooted⟩ :=
    Work.withinRoot_does host root.targetMountpoint _ _ s [] trace _ _ hruns
  obtain ⟨hentity, rfl⟩ := Progress.mk.inj hafter
  exact ⟨boot, hboot, rfl, parentsFirst_nestedMounts (mapError_eq_ok_iff.mp hmapped), rooted,
    rooted.failuresTold, houtcome, hentity⟩

end MigrationStep

/-- The source of `nested`, paired with its target. -/
def nestedSource : Source := identifiedSource nested nestedMapping

theorem mountTable_nestedSource :
    Work.mountTable nestedSource "ReinstallBootloader" = .ok nestedTable := by
  have h := ofMapping_nested
  change (ofMapping nested nestedMapping).mapError CommandError.mapping = _
  rw [h]
  rfl

/-- `/var` with its directory within the root of `nested`. -/
def varBind : BindMount :=
  (mountDirectory (some "/var") false, mountDirectory (some "/") false ++ "/var")

/-- `/var/lib` with its directory within the root of `nested`. -/
def libBind : BindMount :=
  (mountDirectory (some "/var/lib") false, mountDirectory (some "/") false ++ "/var/lib")

/-- Of the three filesystems of `nested` the root itself is left out. -/
theorem nestedMounts_nestedTable : nestedMounts nestedTable
    = [(mountDirectory (some "/var") false, "/var"),
      (mountDirectory (some "/var/lib") false, "/var/lib")] := by
  decide +kernel

theorem bindsBelow_nested : bindsBelow (mountDirectory (some "/") false) (nestedMounts nestedTable)
    = varBind :: libBind :: pseudoFilesystems.map fun pseudo =>
      (pseudo, mountDirectory (some "/") false ++ pseudo) := by
  rw [bindsBelow, nestedMounts_nestedTable]
  rfl

/-- `/var` is bound and `/var/lib` is refused, and then `/var` cannot be taken out. -/
theorem runs_stuckBinds (error : RemoteError) :
    Runs Work.installBootloader ⟨nestedSource, []⟩
      [⟨.remote default (bindCommand varBind) {}, .ok ""⟩,
        ⟨.remote default (bindCommand libBind) {}, .error error⟩,
        ⟨.remote default (unmountCommand varBind.2) {}, .error error⟩]
      (.ok none) ⟨nestedSource, Work.complaint (bindTask libBind).operation (.error error)
        ++ Work.complaint s!"unmount {varBind.2}" (.error error)⟩ := by
  rw [Work.installBootloader, Work.runs_source_bind_iff,
    Work.targetHost_eq_ok_iff.mpr (rfl : nestedSource.target.remoteHost = some default),
    Work.runs_look_iff, mountTable_nestedSource, Work.runs_look_iff]
  change Runs (Work.withinRoot default (mountDirectory (some "/") false)
    (bindsBelow (mountDirectory (some "/") false) (nestedMounts nestedTable)) _) _ _ _ _
  rw [bindsBelow_nested]
  exact .ask _ (.ask _ (.ask _ (.done _)))

/-- With `/var` and `/var/lib` below the root of a target, a bind that is refused and a directory
that cannot be taken out are told.  These two are what is to be bound, without the root itself. -/
theorem nestedSource_balanced :
    ∃ trace run, nestedSource.target.remoteHost = some default
      ∧ Work.mountTable nestedSource "ReinstallBootloader" = .ok nestedTable
      ∧ MountTable.root nestedTable = some (partitionEntry "/" "vda1" "vdb1" "/")
      ∧ (MigrationStep.reinstallBootloader.perform {} nestedSource).Yields trace run
      ∧ run.errors.length = 2
      ∧ nestedMounts nestedTable = [(mountDirectory (some "/var") false, "/var"),
        (mountDirectory (some "/var/lib") false, "/var/lib")]
      ∧ ∃ boot, MountTable.bootEntry nestedTable = some boot
        ∧ nestedMounts nestedTable = (nestedTable.filter fun entry => entry.sourceMountpoint ≠ "/"
            && entry.sourceMountpoint ≠ "" && entry.targetMountpoint ≠ "").map
          (fun entry => (entry.targetMountpoint, entry.sourceMountpoint))
        ∧ (nestedMounts nestedTable).Pairwise (fun earlier later =>
          LiesIn earlier.2 later.2 → earlier.2 = later.2)
        ∧ RootedRun default
          ((nestedMounts nestedTable).map (fun mount =>
              (mount.1, mountDirectory (some "/") false ++ mount.2))
            ++ ["/dev", "/proc", "/sys"].map fun path =>
              (path, mountDirectory (some "/") false ++ path))
          ([OsFamily.debian.installGrub s!"/dev/{boot.targetDisk}",
            OsFamily.debian.configureGrub].map (rootedTask (mountDirectory (some "/") false)))
          trace run.errors
        ∧ FailuresTold trace run.errors
        ∧ run.outcome = .ok none ∧ run.entity = nestedSource := by
  have hyields : (MigrationStep.reinstallBootloader.perform {} nestedSource).Yields _ _ :=
    MigrationStep.yields_perform (runs_stuckBinds default)
  have hroot : MountTable.root nestedTable = some (partitionEntry "/" "vda1" "vdb1" "/") := rfl
  exact ⟨_, _, rfl, mountTable_nestedSource, hroot, hyields, rfl, nestedMounts_nestedTable,
    MigrationStep.reinstallBootloader_balanced rfl mountTable_nestedSource hroot hyields⟩

end ServerMigration
