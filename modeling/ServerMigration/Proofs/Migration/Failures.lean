import ServerMigration.Proofs.Migration.Confinement

/-!
# The failures that a step collects

Work that leaves the document alone may collect failures of independent parts.  What can be said of
each of them is put together from what can be said of the parts.

## Main definitions

* `Work.Collects` : work whose failures all have a property.
* `AboutFilesystem` : the failure of creating a filesystem.

## Main results

* `Work.makeFilesystems_collects` : creating the filesystems of mapped disks that stand in the
  inventory collects no other failures.
-/

namespace ServerMigration

open Program

namespace Work

variable {α β ε : Type} {document : Source} {P : String → Prop}

/-- The work spares the store, leaves this document alone, and collects failures with `P` only. -/
def Collects (work : Work α) (document : Source) (P : String → Prop) : Prop :=
  ∀ errors, work.Ends ⟨document, errors⟩ fun _ after => after.source = document
    ∧ ∀ failure ∈ after.errors, failure ∈ errors ∨ P failure

theorem collects_pure (a : α) : (pure a : Work α).Collects document P :=
  fun _ => ⟨rfl, fun _ hmem => .inl hmem⟩

theorem collects_ofExcept (result : Except CommandError α) :
    (ofExcept result).Collects document P :=
  fun _ => ⟨rfl, fun _ hmem => .inl hmem⟩

theorem collects_record {operation error : String}
    (h : ∀ failure ∈ StepErrors.record [] operation error, P failure) :
    (record operation error).Collects document P := by
  refine fun errors => ⟨rfl, fun failure hmem => ?_⟩
  exact (List.mem_append.mp hmem).imp_right fun hmem => h failure hmem

theorem collects_action {a : Action α} (h : a.SparesStore) :
    (Work.action a).Collects document P :=
  fun _ => ends_action h fun _ => ⟨rfl, fun _ hmem => .inl hmem⟩

theorem Collects.bind {work : Work α} {next : α → Work β} (hwork : work.Collects document P)
    (hnext : ∀ a, (next a).Collects document P) : (work >>= next).Collects document P := by
  intro errors
  refine (hwork errors).bind ?_ fun error middle h => h
  rintro a ⟨_, middle⟩ ⟨rfl, hmiddle⟩
  refine (hnext a middle).mono ?_
  rintro ⟨result, after⟩ ⟨hsame, hafter⟩
  refine ⟨hsame, fun failure hmem => ?_⟩
  rcases hafter failure hmem with hmem | h
  · exact hmiddle failure hmem
  · exact .inr h

theorem Collects.source {next : Source → Work β} (h : (next document).Collects document P) :
    (source >>= next).Collects document P :=
  h

/-- A look at something that may be missing. -/
theorem Collects.look {result : Except CommandError α} {next : α → Work β}
    (hnext : ∀ a, result = .ok a → (next a).Collects document P) :
    (ofExcept result >>= next).Collects document P := by
  cases result with
  | ok a => exact hnext a rfl
  | error error => exact collects_ofExcept (.error error)

theorem collects_tryRemote {operation : String} {host : RemoteHost} {command : String}
    {options : ExecOptions}
    (h : ∀ error : RemoteError, ∀ failure ∈ StepErrors.record [] operation error.message,
      P failure) :
    (tryRemote operation host command options).Collects document P := by
  refine .bind (collects_action (every_request trivial)) fun answer => ?_
  cases answer with
  | ok _ => exact collects_pure _
  | error error => exact .bind (collects_record (h error)) fun _ => collects_pure _

theorem collects_forM {elements : List α} {f : α → Work Unit}
    (h : ∀ a ∈ elements, (f a).Collects document P) : (elements.forM f).Collects document P := by
  induction elements with
  | nil => exact collects_pure _
  | cons a elements ih =>
    exact .bind (h a List.mem_cons_self) fun _ => ih fun a ha => h a (List.mem_cons_of_mem _ ha)

end Work

/-! ### Creating filesystems -/

/-- The failure is that of creating some filesystem on some device. -/
def AboutFilesystem (failure : String) : Prop :=
  ∃ what device reason : String, failure = s!"create {what} on {device}: {reason}"

namespace Work

variable {document : Source}

theorem makeFilesystem_collects (s : Source) (target : RemoteHost) (device : BlockDevice)
    (targetDevice : String) :
    (makeFilesystem s target device targetDevice).Collects document AboutFilesystem := by
  have hcreate (fs command : String) : (tryRemote s!"create {fs} on {targetDevice}" target
      command).Collects document AboutFilesystem := by
    refine collects_tryRemote fun error failure hmem => ?_
    exact ⟨fs, targetDevice, error.message, List.mem_singleton.mp hmem⟩
  rw [makeFilesystem]
  dsimp only
  split
  · exact collects_record fun failure hmem => ⟨"filesystem", targetDevice, _,
      List.mem_singleton.mp hmem⟩
  · split
    · exact .bind (collects_pure _) fun _ => .bind (hcreate _ _) fun _ => collects_pure _
    · refine .bind (collects_action (every_request trivial)) fun _ => ?_
      exact .bind (collects_pure _) fun _ => .bind (hcreate _ _) fun _ => collects_pure _

/-- **If the mapped disks stand in the inventory, creating their filesystems collects failures of
that kind only.** -/
theorem makeFilesystems_collects {s : Source} (paired : s.Paired) :
    makeFilesystems.Collects s AboutFilesystem := by
  obtain ⟨mapping, info, hmapping, hinfo, fits⟩ := paired
  refine .source (.look fun target _ => .look fun inventory hinventory => ?_)
  refine .look fun recorded hrecorded => ?_
  have hinventory : inventory = info := by
    rw [sourceInventory, hinfo] at hinventory
    exact (Except.ok.inj hinventory).symm
  have hrecorded : recorded = mapping := by
    rw [deviceMapping, Target.recordedMapping, hmapping] at hrecorded
    exact (Except.ok.inj hrecorded).symm
  subst hinventory hrecorded
  refine .bind (collects_forM fun entry hentry => ?_) fun _ => collects_pure _
  obtain ⟨disk, hdisk, -⟩ := fits entry.1 entry.2 hentry
  change (formatDisk s target inventory recorded entry.1 entry.2).Collects s AboutFilesystem
  rw [formatDisk, hdisk]
  exact collects_forM fun _ _ => makeFilesystem_collects _ _ _ _

end Work

theorem MigrationStep.every_perform_createFilesystems (provider : Provider) {source : Source}
    (paired : source.Paired) :
    (createFilesystems.perform provider source).Every Site.Ask.SparesStore fun run =>
      ∀ failure ∈ run.errors, AboutFilesystem failure := by
  refine Every.bind (Work.makeFilesystems_collects paired []) fun x h => ?_
  intro failure hmem
  exact (h.2 failure hmem).resolve_left List.not_mem_nil

end ServerMigration
