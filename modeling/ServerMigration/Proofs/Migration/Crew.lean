import ServerMigration.Proofs.Commander.Path
import ServerMigration.Proofs.Commander.Stops
import ServerMigration.Proofs.Migration.Changes

/-!
# Disciplined crews

A disciplined crew leaves the store to the commander, and so the identifier, the status and the
pause of a source.  Then the documents that are saved while it drives a source are those that the
commander saves, all of them are documents of that source, and the result tells at which status the
source is left and whether it sleeps there.  The crew of a migration is disciplined.

## Main definitions

* `documentsSaved`, `AcceptsSaves` : the documents that a run has saved, and that all of them are
  accepted.
* `Crew.Disciplined` : hooks and commands leave to the commander what is its own.

## Main results

* `migrationCrew_disciplined` : the crew of a migration is disciplined.
* `Crew.Disciplined.of_yields_drive` : what a disciplined crew brings a source to.
-/

namespace ServerMigration

open Program Commander

/-- What has been asked of the surroundings of a migration, with the answers. -/
abbrev SiteTrace : Type := List (Exchange Site.Ask Site.Answer)

/-- Every question to the surroundings of a migration has an answer. -/
theorem Site.nonempty_answer (question : Site.Ask) : Nonempty (Site.Answer question) := by
  cases question with
  | clock => exact ⟨(default : Instant)⟩
  | elapsed => exact ⟨(default : Duration)⟩
  | sleep duration => exact ⟨()⟩
  | freshId => exact ⟨(default : Uuid)⟩
  | remote host command options => exact ⟨.ok ""⟩
  | datacenter call => exact ⟨.error default⟩
  | store call => exact ⟨.error default⟩

/-- The document that a question saves. -/
def documentOf? : Exchange Site.Ask Site.Answer → Option Source
  | ⟨.store (.saveSource source), _⟩ => some source
  | _ => none

/-- The documents that have been saved, in order. -/
def documentsSaved (trace : SiteTrace) : List Source := trace.filterMap documentOf?

theorem documentsSaved_append (first second : SiteTrace) :
    documentsSaved (first ++ second) = documentsSaved first ++ documentsSaved second :=
  List.filterMap_append

/-- The store accepts every document of a source. -/
def AcceptsSaves (trace : SiteTrace) : Prop :=
  ∀ source answer,
    (⟨.store (.saveSource source), answer⟩ : Exchange Site.Ask Site.Answer) ∈ trace →
      answer = .ok ()

theorem AcceptsSaves.mono {part trace : SiteTrace} (accepts : AcceptsSaves trace)
    (hsub : part ⊆ trace) : AcceptsSaves part :=
  fun source answer hmem => accepts source answer (hsub hmem)

theorem AcceptsSaves.append {first second : SiteTrace} (hfirst : AcceptsSaves first)
    (hsecond : AcceptsSaves second) : AcceptsSaves (first ++ second) := fun source answer hmem =>
  (List.mem_append.mp hmem).elim (hfirst source answer) (hsecond source answer)

theorem acceptsSaves_of_forall {trace : SiteTrace}
    (h : ∀ exchange ∈ trace, AcceptsSaves [exchange]) : AcceptsSaves trace :=
  fun source answer hmem => h _ hmem source answer List.mem_cons_self

/-- Every question has an answer with which a document is accepted if it is saved. -/
theorem Site.exists_accepting (question : Site.Ask) :
    ∃ answer, AcceptsSaves [⟨question, answer⟩] := by
  by_cases hsaves : ∃ source, question = .store (.saveSource source)
  · obtain ⟨source, rfl⟩ := hsaves
    refine ⟨.ok (), fun source answer hmem => ?_⟩
    cases List.mem_singleton.mp hmem
    rfl
  · obtain ⟨answer⟩ := Site.nonempty_answer question
    refine ⟨answer, fun source answer hmem => ?_⟩
    cases List.mem_singleton.mp hmem
    exact absurd ⟨source, rfl⟩ hsaves

theorem documentsSaved_eq_nil {trace : SiteTrace}
    (h : ∀ exchange ∈ trace, exchange.1.SparesStore) : documentsSaved trace = [] := by
  refine List.filterMap_eq_nil_iff.mpr fun exchange hmem => ?_
  have hspares := h exchange hmem
  match exchange with
  | ⟨.store call, answer⟩ => exact absurd hspares (by simp [Site.Ask.SparesStore])
  | ⟨.clock, _⟩ | ⟨.elapsed, _⟩ | ⟨.sleep _, _⟩ | ⟨.freshId, _⟩ | ⟨.remote .., _⟩
  | ⟨.datacenter _, _⟩ => rfl

theorem yields_savedBy {refused : (entity reason : String) → PersistenceError} {source : Source}
    {trace : SiteTrace} {answer : Except PersistenceError Unit}
    (h : (savedBy refused source).Yields trace answer) :
    documentsSaved trace = [source] ∧ (AcceptsSaves trace → answer = .ok ()) := by
  obtain ⟨saved, rest, rfl, hrest⟩ := yields_ask_iff.mp h
  cases saved with
  | ok _ =>
    obtain ⟨rfl, rfl⟩ := yields_done_iff.mp hrest
    exact ⟨rfl, fun _ => rfl⟩
  | error error =>
    obtain ⟨rfl, rfl⟩ := yields_done_iff.mp hrest
    refine ⟨rfl, fun accepts => ?_⟩
    cases accepts source (.error error) List.mem_cons_self

/-- A document that the store accepts. -/
theorem yields_savedBy_accepted (refused : (entity reason : String) → PersistenceError)
    (source : Source) :
    (savedBy refused source).Yields [⟨.store (.saveSource source), .ok ()⟩] (.ok ()) :=
  .ask _ (.done _)

theorem yields_clock (time : Instant) : Action.clock.Yields [⟨.clock, time⟩] time :=
  .ask _ (.done _)

namespace Crew

variable {C : Type} {crew : Crew C}

/-- Hooks and commands spare the store, and commands leave the identifier, the status and the pause
of a source alone. -/
structure Disciplined (crew : Crew C) : Prop where
  hooks : ∀ phase status source, (crew.hooks phase status source).SparesStore
  commands : ∀ command source, (crew.perform command source).Every Site.Ask.SparesStore fun run =>
    run.entity.id = source.id ∧ run.entity.status = source.status
      ∧ run.entity.paused = source.paused

namespace Disciplined

variable {outer : Trace SourceStatus C Source Instant} {inner : SiteTrace}

/-- The documents that the surroundings save for a question of the commander are those that the
question is to save. -/
theorem documentsSaved_of_yields (disciplined : crew.Disciplined) {q : Ask SourceStatus C Source}
    {answer : Commander.Answer Instant q} {part : SiteTrace}
    (h : (crew.answer q).Yields part answer) :
    documentsSaved part = (savedBy? ⟨q, answer⟩).toList := by
  cases q with
  | clock => exact documentsSaved_eq_nil ((every_request trivial).of_yields h).1
  | hooks phase status source =>
    exact documentsSaved_eq_nil ((disciplined.hooks phase status source).of_yields h).1
  | run command source =>
    exact documentsSaved_eq_nil ((disciplined.commands command source).of_yields h).1
  | checkpoint source => exact (yields_savedBy h).1
  | transition old new source => exact (yields_savedBy h).1

theorem documentsSaved_of_expands (disciplined : crew.Disciplined)
    (expands : Expands crew.answer outer inner) : documentsSaved inner = saves outer := by
  induction expands with
  | nil => rfl
  | cons head _ ih =>
    rw [documentsSaved_append, disciplined.documentsSaved_of_yields head, ih, saves_cons]

theorem kept_of_expands (disciplined : crew.Disciplined)
    (expands : Expands crew.answer outer inner) {command : C} {source : Source}
    {run : CommandRun Source}
    (hmem : (⟨.run command source, run⟩ : Exchange _ (Commander.Answer Instant)) ∈ outer) :
    run.entity.id = source.id ∧ run.entity.status = source.status
      ∧ run.entity.paused = source.paused := by
  obtain ⟨part, hpart, -⟩ := expands.exists_of_mem hmem
  exact ((disciplined.commands command source).of_yields hpart).2

theorem keepsStage_of_expands (disciplined : crew.Disciplined)
    (expands : Expands crew.answer outer inner) : KeepsStage outer :=
  fun _ _ _ hmem => (disciplined.kept_of_expands expands hmem).2

end Disciplined

theorem saveAccepted_of_expands {outer : Trace SourceStatus C Source Instant} {inner : SiteTrace}
    (expands : Expands crew.answer outer inner) (accepts : AcceptsSaves inner) :
    ∀ exchange ∈ outer, SaveAccepted exchange := by
  rintro ⟨q, answer⟩ hmem
  obtain ⟨part, hpart, hsub⟩ := expands.exists_of_mem hmem
  cases q with
  | checkpoint source => exact (yields_savedBy hpart).2 (accepts.mono hsub)
  | transition old new source => exact (yields_savedBy hpart).2 (accepts.mono hsub)
  | clock | hooks phase status source | run command source => trivial

/-- Every status is one of the lifecycle's. -/
theorem mem_lifecycle (status : SourceStatus) : status ∈ SourceStatus.lifecycle.statuses := by
  cases status <;> decide

/-- **While a disciplined crew drives a source, all documents that are saved are documents of that
source; and if they are accepted, the result tells at which status the source is left and whether it
sleeps there.** -/
theorem Disciplined.of_yields_drive [ToString C] (disciplined : crew.Disciplined) {resume : Resume}
    {source after : Source} {trace : SiteTrace}
    {result : Except CommanderError (Outcome SourceStatus)}
    (h : (crew.drive resume source).Yields trace (result, after)) :
    after.id = source.id ∧ (∀ saved ∈ documentsSaved trace, saved.id = source.id)
      ∧ (AcceptsSaves trace →
        (resume = .advance → ∃ new, SourceStatus.lifecycle.next source.status = .ok new) →
        StageTold crew.commander result after) := by
  obtain ⟨outer, houter, expands⟩ := yields_reinterpret_iff.mp h
  -- The identifier is kept all along the path of the document, and so in all that is saved on it.
  obtain ⟨hafter, hsaves⟩ := (path_of_runs_drive houter).invariant
    (P := fun document : Source => document.id = source.id) (fun _ _ _ hid => hid)
    (fun _ _ _ hid => hid)
    (fun _ _ _ hmem hid => (disciplined.kept_of_expands expands hmem).1.trans hid) rfl
  refine ⟨hafter, ?_, fun accepts onward => ?_⟩
  · rwa [disciplined.documentsSaved_of_expands expands]
  · exact stageTold_of_runs_drive (mem_lifecycle source.status) onward
      (disciplined.keepsStage_of_expands expands) (saveAccepted_of_expands expands accepts) houter

end Crew

/-- **The crew of a migration is disciplined.** -/
theorem migrationCrew_disciplined (provider : Provider) : (migrationCrew provider).Disciplined where
  hooks phase status source := sparesStore_runScripts source phase status
  commands step source := by
    refine (step.every_perform provider source).mono fun run ended => ?_
    rw [ended.changed.sameButHosts]
    exact ⟨rfl, rfl, rfl⟩

end ServerMigration
