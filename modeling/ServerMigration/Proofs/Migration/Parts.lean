import Mathlib.Data.List.Forall2
import ServerMigration.Proofs.Migration.Crew

/-!
# Work whose parts are done in turn

Some work cannot fail as a whole: it collects the failures of its parts and goes on.  Every run of
such work goes through all of its parts, whatever the answers are.

## Main definitions

* `commandsRun` : the commands that a run has given to hosts.
* `Work.Does` : how all runs of some work ask and what they collect.
* `InTurn` : what is asked and collected if the parts of some work are done in turn.

## Main results

* `Work.Does.forM` : a loop does its parts in turn.
* `InTurn.flatMap` : parts that are made of parts.
* `InTurn.forall₂_commandsRun` : the commands of parts that run at most one command each.
-/

namespace ServerMigration

open Program

variable {trace first second : SiteTrace}
  {told toldFirst toldSecond : StepErrors}

/-! ### Commands -/

/-- The host and the command of a question, if it is one of that kind. -/
def commandOf? : Exchange Site.Ask Site.Answer → Option (RemoteHost × String)
  | ⟨.remote host command _, _⟩ => some (host, command)
  | _ => none

/-- The commands that have been run on hosts, in order. -/
def commandsRun (trace : SiteTrace) : List (RemoteHost × String) :=
  trace.filterMap commandOf?

@[simp] theorem commandsRun_nil : commandsRun [] = [] := rfl

@[simp] theorem commandsRun_append :
    commandsRun (first ++ second) = commandsRun first ++ commandsRun second :=
  List.filterMap_append

/-! ### Parts in turn -/

section

variable {α β : Type} {Part : α → SiteTrace → StepErrors → Prop}
  {elements : List α}

/-- What is asked and what is collected consists of the parts for the elements, one after the
other. -/
inductive InTurn (Part : α → SiteTrace → StepErrors → Prop) :
    List α → SiteTrace → StepErrors → Prop
  | nil : InTurn Part [] [] []
  | cons {a : α} {elements : List α} {first second : SiteTrace}
      {toldFirst toldSecond : StepErrors} (part : Part a first toldFirst)
      (rest : InTurn Part elements second toldSecond) :
      InTurn Part (a :: elements) (first ++ second) (toldFirst ++ toldSecond)

namespace InTurn

theorem append {others : List α} (inTurn : InTurn Part elements first toldFirst)
    (inTurn' : InTurn Part others second toldSecond) :
    InTurn Part (elements ++ others) (first ++ second) (toldFirst ++ toldSecond) := by
  induction inTurn with
  | nil => exact inTurn'
  | cons part _ ih =>
    rw [List.cons_append, List.append_assoc, List.append_assoc]
    exact .cons part ih

/-- Parts for elements that are done in turn, each made of parts that are done in turn. -/
theorem flatMap {inner : α → List β}
    {Inner : β → SiteTrace → StepErrors → Prop}
    (made : ∀ a ∈ elements, ∀ first told, Part a first told → InTurn Inner (inner a) first told)
    (inTurn : InTurn Part elements trace told) :
    InTurn Inner (elements.flatMap inner) trace told := by
  induction inTurn with
  | nil => exact .nil
  | cons part _ ih =>
    rw [List.flatMap_cons]
    exact (made _ List.mem_cons_self _ _ part).append
      (ih fun a ha => made a (List.mem_cons_of_mem _ ha))

/-- Every command belongs to the part of an element. -/
theorem exists_of_mem_commandsRun (inTurn : InTurn Part elements trace told)
    {command : RemoteHost × String} (h : command ∈ commandsRun trace) :
    ∃ a ∈ elements, ∃ first told, Part a first told ∧ command ∈ commandsRun first := by
  induction inTurn with
  | nil => exact absurd h List.not_mem_nil
  | @cons a _ first _ toldFirst _ part _ ih =>
    rw [commandsRun_append] at h
    rcases List.mem_append.mp h with h | h
    · exact ⟨a, List.mem_cons_self, first, toldFirst, part, h⟩
    · obtain ⟨a, ha, hpart⟩ := ih h
      exact ⟨a, List.mem_cons_of_mem _ ha, hpart⟩

/-- The part of every element is done. -/
theorem exists_of_mem (inTurn : InTurn Part elements trace told) {a : α} (h : a ∈ elements) :
    ∃ first toldFirst, Part a first toldFirst ∧ commandsRun first ⊆ commandsRun trace
      ∧ toldFirst ⊆ told := by
  induction inTurn with
  | nil => exact absurd h List.not_mem_nil
  | @cons _ _ first second toldFirst toldSecond part _ ih =>
    rw [commandsRun_append]
    rcases List.mem_cons.mp h with rfl | h
    · exact ⟨first, toldFirst, part, List.subset_append_left _ _, List.subset_append_left _ _⟩
    · obtain ⟨first', told', hpart, hcommands, htold⟩ := ih h
      exact ⟨first', told', hpart, fun _ h => List.mem_append_right _ (hcommands h),
        fun _ h => List.mem_append_right _ (htold h)⟩

/-- **If the parts run at most one command each, the commands are those of the parts that run
one.** -/
theorem forall₂_commandsRun {runsOne : α → Bool} {R : α → RemoteHost × String → Prop}
    (inTurn : InTurn Part elements trace told)
    (one : ∀ a ∈ elements, ∀ first told, Part a first told → runsOne a →
      ∃ command, commandsRun first = [command] ∧ R a command)
    (no : ∀ a ∈ elements, ∀ first told, Part a first told → runsOne a = false →
      commandsRun first = []) :
    List.Forall₂ R (elements.filter runsOne) (commandsRun trace) := by
  induction inTurn with
  | nil => exact .nil
  | @cons a elements first _ toldFirst _ part _ ih =>
    have hrest := ih (fun a ha => one a (List.mem_cons_of_mem _ ha))
      fun a ha => no a (List.mem_cons_of_mem _ ha)
    rw [commandsRun_append]
    cases hone : runsOne a with
    | true =>
      obtain ⟨command, hcommand, hrelated⟩ :=
        one a List.mem_cons_self first toldFirst part hone
      rw [List.filter_cons_of_pos hone, hcommand]
      exact .cons hrelated hrest
    | false =>
      rw [List.filter_cons_of_neg (by rw [hone]; exact Bool.false_ne_true),
        no a List.mem_cons_self first toldFirst part hone]
      exact hrest

end InTurn

end

namespace Work

variable {α β : Type} {work : Work α}

/-- Every run of the work ends with a result and leaves the document alone; its result, what it
asks and the failures that it collects are as `Q` says. -/
def Does (work : Work α)
    (Q : α → SiteTrace → StepErrors → Prop) : Prop :=
  ∀ document errors trace result after, Runs work ⟨document, errors⟩ trace result after →
    ∃ a told, result = .ok a ∧ after = ⟨document, errors ++ told⟩ ∧ Q a trace told

theorem does_pure {Q : α → SiteTrace → StepErrors → Prop} {a : α}
    (h : Q a [] []) : (pure a : Work α).Does Q := by
  intro document errors trace result after hruns
  obtain ⟨rfl, rfl, rfl⟩ := runs_pure_iff.mp hruns
  exact ⟨a, [], rfl, by rw [List.append_nil], h⟩

theorem does_record (operation error : String) :
    (record operation error).Does fun _ trace told =>
      trace = [] ∧ told = [s!"{operation}: {error}"] := by
  intro document errors trace result after hruns
  obtain ⟨rfl, hsame⟩ := yields_done_iff.mp hruns
  cases hsame
  exact ⟨(), _, rfl, rfl, rfl, rfl⟩

theorem does_request (q : Site.Ask) :
    (action (request q)).Does fun answer trace told => trace = [⟨q, answer⟩] ∧ told = [] := by
  intro document errors trace result after hruns
  obtain ⟨answer, rest, rfl, hrest⟩ := yields_ask_iff.mp hruns
  obtain ⟨rfl, hsame⟩ := yields_done_iff.mp hrest
  cases hsame
  exact ⟨answer, [], rfl, by rw [List.append_nil], rfl, rfl⟩

theorem Does.mono {Q R : α → SiteTrace → StepErrors → Prop}
    (does : work.Does Q) (h : ∀ a trace told, Q a trace told → R a trace told) : work.Does R := by
  intro document errors trace result after hruns
  obtain ⟨a, told, hresult, hafter, hQ⟩ := does document errors trace result after hruns
  exact ⟨a, told, hresult, hafter, h a trace told hQ⟩

theorem Does.bind {next : α → Work β}
    {Q : α → SiteTrace → StepErrors → Prop}
    {R : β → SiteTrace → StepErrors → Prop} (does : work.Does Q)
    (hnext : ∀ a first toldFirst, Q a first toldFirst →
      (next a).Does fun b second toldSecond => R b (first ++ second) (toldFirst ++ toldSecond)) :
    (work >>= next).Does R := by
  intro document errors trace result after hruns
  rcases runs_bind_iff.mp hruns with ⟨error, hwork, -⟩ |
    ⟨a, middle, first, second, hwork, hrest, rfl⟩
  · obtain ⟨a, told, hresult, -⟩ := does document errors trace _ after hwork
    cases hresult
  · obtain ⟨a', toldFirst, hresult, rfl, hQ⟩ := does document errors first _ middle hwork
    cases hresult
    obtain ⟨b, toldSecond, rfl, rfl, hR⟩ :=
      hnext a first toldFirst hQ document _ second result after hrest
    exact ⟨b, toldFirst ++ toldSecond, rfl, by rw [List.append_assoc], hR⟩

/-- **A loop does its parts in turn.** -/
theorem Does.forM {elements : List α} {f : α → Work Unit}
    {Part : α → SiteTrace → StepErrors → Prop}
    (does : ∀ a, (f a).Does fun _ => Part a) :
    (elements.forM f).Does fun _ => InTurn Part elements := by
  induction elements with
  | nil => exact does_pure .nil
  | cons a elements ih =>
    exact (does a).bind fun _ first toldFirst part => ih.mono fun _ second toldSecond rest =>
      .cons part rest

/-- What is collected of the answer of a host. -/
def complaint (operation : String) : Except RemoteError String → StepErrors
  | .ok _ => []
  | .error error => [s!"{operation}: {error.message}"]

theorem complaint_eq_nil_iff {operation : String} {reply : Except RemoteError String} :
    complaint operation reply = [] ↔ ∃ output, reply = .ok output := by
  cases reply <;> simp [complaint]

/-- A command is run once, and its failure is collected. -/
theorem does_tryRemote (operation : String) (host : RemoteHost) (command : String)
    (options : ExecOptions := {}) :
    (tryRemote operation host command options).Does fun output trace told =>
      ∃ reply, trace = [⟨.remote host command options, reply⟩] ∧ output = reply.toOption
        ∧ told = complaint operation reply := by
  refine (does_request _).bind ?_
  rintro reply first toldFirst ⟨rfl, rfl⟩
  cases reply with
  | ok output => exact does_pure ⟨.ok output, rfl, rfl, rfl⟩
  | error error =>
    refine (does_record _ _).bind ?_
    rintro _ _ _ ⟨rfl, rfl⟩
    exact does_pure ⟨.error error, rfl, rfl, rfl⟩

/-! ### Work that goes on -/

/-- An action cannot fail, and what it asks is asked first. -/
theorem runs_action_bind_iff {before after : Progress} {result : Except CommandError β}
    {a : Action α} {next : α → Work β} :
    Runs (action a >>= next) before trace result after ↔
      ∃ answer first second, a.Yields first answer
        ∧ Runs (next answer) before second result after ∧ trace = first ++ second := by
  change (((a >>= fun answer => done (answer, before)) >>= fun x => done (Except.ok x.1, x.2))
    >>= fun x => (ExceptT.bindCont next x.1).run x.2).Yields _ _ ↔ _
  rw [Program.bind_assoc, Program.bind_assoc]
  exact yields_bind_iff

theorem runs_ofExcept_iff {before after : Progress} {result looked : Except CommandError α} :
    Runs (ofExcept looked) before trace result after ↔
      trace = [] ∧ result = looked ∧ after = before := by
  rw [← Prod.mk.injEq]
  exact yields_done_iff

/-- An action whose failure ends the work. -/
theorem runs_answered_iff {ε : Type} {before after : Progress} {result : Except CommandError α}
    {a : Action (Except ε α)} {f : ε → CommandError} :
    Runs (action a >>= fun answer => ofExcept (answer.mapError f)) before trace result after ↔
      ∃ answer, a.Yields trace answer ∧ result = answer.mapError f ∧ after = before := by
  rw [runs_action_bind_iff]
  constructor
  · rintro ⟨answer, first, second, hanswer, hrest, rfl⟩
    obtain ⟨rfl, rfl, rfl⟩ := runs_ofExcept_iff.mp hrest
    rw [List.append_nil]
    exact ⟨answer, hanswer, rfl, rfl⟩
  · rintro ⟨answer, hanswer, rfl, rfl⟩
    exact ⟨answer, trace, [], hanswer, runs_ofExcept_iff.mpr ⟨rfl, rfl, rfl⟩,
      (List.append_nil _).symm⟩

theorem runs_cloud_iff {before after : Progress} {result : Except CommandError α}
    {operation : Provider.Operation α} :
    Runs (cloud operation) before trace result after ↔
      ∃ answer, Program.Yields operation.run trace answer ∧ result = answer.mapError .cloud
        ∧ after = before :=
  runs_answered_iff

theorem runs_remote_iff {before after : Progress} {result : Except CommandError String}
    {host : RemoteHost} {command : String} :
    Runs (remote host command) before trace result after ↔
      ∃ reply, trace = [⟨.remote host command {}, reply⟩] ∧ result = reply.mapError .remote
        ∧ after = before :=
  runs_answered_iff.trans (exists_congr fun _ => and_congr_left' yields_request_iff)

/-! ### Looking something up first -/

@[simp] theorem runs_source_bind_iff {before after : Progress} {result : Except CommandError β}
    {next : Source → Work β} :
    Runs (source >>= next) before trace result after ↔
      Runs (next before.source) before trace result after :=
  Iff.rfl

@[simp] theorem runs_look_iff {before after : Progress} {result : Except CommandError β} {a : α}
    {next : α → Work β} :
    Runs (ofExcept (.ok a) >>= next) before trace result after ↔
      Runs (next a) before trace result after :=
  Iff.rfl

@[simp] theorem runs_modifySource_bind_iff {before after : Progress}
    {result : Except CommandError β} {f : Source → Source} {next : Unit → Work β} :
    Runs (modifySource f >>= next) before trace result after ↔
      Runs (next ()) { before with source := f before.source } trace result after :=
  Iff.rfl

@[simp] theorem runs_record_bind_iff {before after : Progress} {result : Except CommandError β}
    {operation error : String} {next : Unit → Work β} :
    Runs (record operation error >>= next) before trace result after ↔
      Runs (next ()) { before with errors := before.errors.record operation error } trace result
        after :=
  Iff.rfl

/-- Work that misses something at once asks nothing. -/
theorem trace_eq_nil_of_runs_missing {before after : Progress} {result : Except CommandError β}
    {error : CommandError} {next : α → Work β}
    (h : Runs (ofExcept (.error error) >>= next) before trace result after) : trace = [] :=
  (yields_done_iff.mp h).1

end Work

/-- A step is performed by a run of its work. -/
theorem MigrationStep.runs_of_yields_perform {provider : Provider} {step : MigrationStep}
    {s : Source} {run : CommandRun Source} (h : (step.perform provider s).Yields trace run) :
    Runs (step.work provider) ⟨s, []⟩ trace run.outcome ⟨run.entity, run.errors⟩ := by
  obtain ⟨⟨outcome, progress⟩, first, second, hfirst, hsecond, rfl⟩ := yields_bind_iff.mp h
  obtain ⟨rfl, rfl⟩ := yields_done_iff.mp hsecond
  rw [List.append_nil]
  exact hfirst

theorem MigrationStep.yields_perform {provider : Provider} {step : MigrationStep} {s after : Source}
    {errors : StepErrors} {outcome : Except CommandError (Option Signal)}
    (h : Runs (step.work provider) ⟨s, []⟩ trace outcome ⟨after, errors⟩) :
    (step.perform provider s).Yields trace ⟨after, errors, outcome⟩ := by
  rw [← List.append_nil trace]
  exact Yields.bind h (.done _)

end ServerMigration
