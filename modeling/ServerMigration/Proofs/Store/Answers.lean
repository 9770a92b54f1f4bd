import ServerMigration.Proofs.StableSort
import ServerMigration.Store.Basic

/-!
# What the answers of a store should be

The right answer to a call is told by the calls before it: a load gives the document that was saved
last under the identifier, and a list of a run has exactly the documents that are of this run, in
ascending order of their names.  No call has two right answers, so two stores that answer rightly
answer alike.

## Main definitions

* `lastSaved` : what was saved last under an identifier.
* `StoreCall.Answers` : the right answer to a call after earlier ones.
* `answersTo`, `AllAnswered` : the answers of a store to a series of calls, and the right ones.

## Main results

* `StoreCall.Answers.unique`, `AllAnswered.unique` : there is one right answer.
* `Listed.orderedByName` : documents whose names differ are listed rightly when they are sorted.
* `allAnswered_answersTo` : a store that answers every call rightly answers every series so.
-/

namespace ServerMigration

open StoreCall (saveSource loadSource sourcesOfRun saveRun loadRun)

/-! ### The documents that were saved last -/

variable {earlier : List StoreCall} {call : StoreCall} {id runId : Uuid}

/-- The source that a call saves. -/
def StoreCall.savedSource? : StoreCall → Option Source
  | saveSource source => some source
  | _ => none

theorem StoreCall.savedSource?_eq_some_iff {call : StoreCall} {source : Source} :
    call.savedSource? = some source ↔ call = saveSource source := by
  cases call <;> simp [savedSource?]

/-- The run that a call saves. -/
def StoreCall.savedRun? : StoreCall → Option MigrationRun
  | saveRun run => some run
  | _ => none

theorem StoreCall.savedRun?_eq_some_iff {call : StoreCall} {run : MigrationRun} :
    call.savedRun? = some run ↔ call = saveRun run := by
  cases call <;> simp [savedRun?]

section

variable {α : Type} (saved? : StoreCall → Option α) (key : α → Uuid)

/-- The document that was saved last under an identifier. -/
def lastSaved (earlier : List StoreCall) (id : Uuid) : Option α :=
  (earlier.filterMap saved?).reverse.find? (key · = id)

variable {saved? key}

theorem lastSaved_append_of_none (h : saved? call = none) :
    lastSaved saved? key (earlier ++ [call]) id = lastSaved saved? key earlier id := by
  rw [lastSaved, List.filterMap_append, List.filterMap_cons_none h, List.filterMap_nil,
    List.append_nil, lastSaved]

theorem lastSaved_append_of_some {document : α} (h : saved? call = some document) :
    lastSaved saved? key (earlier ++ [call]) id
      = if key document = id then some document else lastSaved saved? key earlier id := by
  rw [lastSaved, List.filterMap_append, List.filterMap_cons_some h, List.filterMap_nil,
    List.reverse_append, List.reverse_singleton, List.singleton_append, List.find?_cons, lastSaved]
  by_cases hid : key document = id <;> simp [hid]

theorem key_of_lastSaved {document : α} (h : lastSaved saved? key earlier id = some document) :
    key document = id := by
  simpa using List.find?_some h

theorem exists_of_lastSaved {document : α} (h : lastSaved saved? key earlier id = some document) :
    ∃ call ∈ earlier, saved? call = some document :=
  List.mem_filterMap.mp (List.mem_reverse.mp (List.mem_of_find?_eq_some h))

end

/-- The source that was saved last under an identifier. -/
abbrev lastSource : List StoreCall → Uuid → Option Source :=
  lastSaved StoreCall.savedSource? Source.id

/-- The run that was saved last under an identifier. -/
abbrev lastRun : List StoreCall → Uuid → Option MigrationRun :=
  lastSaved StoreCall.savedRun? MigrationRun.id

theorem mem_of_lastSource {source : Source} (h : lastSource earlier id = some source) :
    saveSource source ∈ earlier := by
  obtain ⟨call, hcall, hsaved⟩ := exists_of_lastSaved h
  exact StoreCall.savedSource?_eq_some_iff.mp hsaved ▸ hcall

theorem mem_of_lastRun {run : MigrationRun} (h : lastRun earlier id = some run) :
    saveRun run ∈ earlier := by
  obtain ⟨call, hcall, hsaved⟩ := exists_of_lastSaved h
  exact StoreCall.savedRun?_eq_some_iff.mp hsaved ▸ hcall

theorem lastSource_saveSource (earlier : List StoreCall) (source : Source) (id : Uuid) :
    lastSource (earlier ++ [saveSource source]) id
      = if source.id = id then some source else lastSource earlier id :=
  lastSaved_append_of_some rfl

theorem lastRun_saveRun (earlier : List StoreCall) (run : MigrationRun) (id : Uuid) :
    lastRun (earlier ++ [saveRun run]) id = if run.id = id then some run else lastRun earlier id :=
  lastSaved_append_of_some rfl

/-! ### The documents of a run -/

/-- The documents of a run as they should be listed. -/
structure Listed (earlier : List StoreCall) (runId : Uuid) (sources : List Source) : Prop where
  /-- Every document of the run is listed in its last version, and nothing else. -/
  mem_iff : ∀ source, source ∈ sources
    ↔ lastSource earlier source.id = some source ∧ source.runId = runId
  /-- The names ascend. -/
  ascending : sources.Pairwise fun a b => a.name < b.name

theorem Listed.unique {sources sources' : List Source} (h : Listed earlier runId sources)
    (h' : Listed earlier runId sources') : sources = sources' := by
  have hnodup {listed : List Source} (h : Listed earlier runId listed) : listed.Nodup := by
    refine List.Pairwise.imp (fun {a b} hlt => ?_) h.ascending
    rintro rfl
    exact String.lt_irrefl _ hlt
  refine eq_of_perm_of_pairwise_lt h.ascending h'.ascending ?_
  refine (List.perm_ext_iff_of_nodup (hnodup h) (hnodup h')).mpr fun source => ?_
  rw [h.mem_iff, h'.mem_iff]

/-- No two sources of one run have the same name, as far as their last versions go. -/
def NamesApart (earlier : List StoreCall) : Prop :=
  ∀ a b : Source, lastSource earlier a.id = some a → lastSource earlier b.id = some b →
    a.id ≠ b.id → a.runId = b.runId → a.name ≠ b.name

/-- **The documents that a store keeps are listed rightly when they are sorted by name.** -/
theorem Listed.orderedByName {kept : List Source} (apart : NamesApart earlier)
    (distinct : (kept.map (·.id)).Nodup)
    (hkept : ∀ source, source ∈ kept ↔ lastSource earlier source.id = some source) :
    Listed earlier runId (orderedByName (kept.filter (·.runId = runId))) where
  mem_iff source := by
    rw [ServerMigration.orderedByName, (stableSort_perm _ _).mem_iff, List.mem_filter, hkept,
      decide_eq_true_eq]
  ascending := by
    refine @stableSort_pairwise_lt _ Source.name _ ?_
    have hids := (List.pairwise_map.mp distinct).sublist
      (List.filter_sublist (p := fun source => decide (source.runId = runId)))
    refine List.pairwise_map.mpr (hids.imp_of_mem fun ha hb hne => ?_)
    obtain ⟨ha, harun⟩ := List.mem_filter.mp ha
    obtain ⟨hb, hbrun⟩ := List.mem_filter.mp hb
    refine apart _ _ ((hkept _).mp ha) ((hkept _).mp hb) hne ?_
    rw [of_decide_eq_true harun, of_decide_eq_true hbrun]

/-! ### Right answers -/

/-- The right answer to a call after earlier ones. -/
def StoreCall.Answers (earlier : List StoreCall) :
    (call : StoreCall) → Except StoreError call.Reply → Prop
  | saveSource _, reply => reply = .ok ()
  | loadSource id, reply =>
    reply = (lastSource earlier id).elim (.error (.notFound "source" id)) .ok
  | sourcesOfRun runId, reply => ∃ sources, reply = .ok sources ∧ Listed earlier runId sources
  | saveRun _, reply => reply = .ok ()
  | loadRun id, reply => reply = (lastRun earlier id).elim (.error (.notFound "run" id)) .ok

theorem StoreCall.Answers.unique {reply reply' : Except StoreError call.Reply}
    (h : call.Answers earlier reply) (h' : call.Answers earlier reply') : reply = reply' := by
  cases call with
  | sourcesOfRun runId =>
    obtain ⟨sources, rfl, hlisted⟩ := h
    obtain ⟨sources', rfl, hlisted'⟩ := h'
    rw [hlisted.unique hlisted']
  | _ => exact Eq.trans h (Eq.symm h')

/-- A call with its answer. -/
abbrev AnsweredCall : Type := (call : StoreCall) × Except StoreError call.Reply

/-- The answers of a store to calls, one after another. -/
def answersTo {σ : Type} (answer : (call : StoreCall) → StateM σ (Except StoreError call.Reply)) :
    List StoreCall → σ → List AnsweredCall
  | [], _ => []
  | call :: calls, state =>
    let (reply, state) := (answer call).run state
    ⟨call, reply⟩ :: answersTo answer calls state

/-- All calls of a series are answered rightly. -/
inductive AllAnswered : List StoreCall → List AnsweredCall → Prop
  | nil (earlier : List StoreCall) : AllAnswered earlier []
  | cons {earlier : List StoreCall} {call : StoreCall} {reply : Except StoreError call.Reply}
    {answered : List AnsweredCall} (h : call.Answers earlier reply)
    (later : AllAnswered (earlier ++ [call]) answered) :
    AllAnswered earlier (⟨call, reply⟩ :: answered)

theorem AllAnswered.unique {answered answered' : List AnsweredCall}
    (h : AllAnswered earlier answered) (h' : AllAnswered earlier answered')
    (hcalls : answered.map (·.1) = answered'.map (·.1)) : answered = answered' := by
  induction h generalizing answered' with
  | nil earlier => exact (List.map_eq_nil_iff.mp hcalls.symm).symm
  | cons h _ ih =>
    cases h' with
    | nil => cases hcalls
    | cons h' later' =>
      obtain ⟨hcall, hrest⟩ := List.cons.inj hcalls
      cases hcall
      rw [h.unique h', ih later' hrest]

section

variable {σ : Type} {answer : (call : StoreCall) → StateM σ (Except StoreError call.Reply)}

theorem map_fst_answersTo (calls : List StoreCall) (state : σ) :
    (answersTo answer calls state).map (·.1) = calls := by
  induction calls generalizing state with
  | nil => rfl
  | cons call calls ih => exact congrArg (call :: ·) (ih _)

/-- **A store that answers every call rightly answers every series of calls so.**  `Holds` says
how its state stands for the calls so far, and `Allowed` which calls may come after them. -/
theorem allAnswered_answersTo (Holds : σ → List StoreCall → Prop)
    (Allowed : List StoreCall → StoreCall → Prop)
    (step : ∀ {state earlier call}, Holds state earlier → Allowed earlier call →
      call.Answers earlier ((answer call).run state).1
        ∧ Holds ((answer call).run state).2 (earlier ++ [call]))
    {calls : List StoreCall} {state : σ} (holds : Holds state earlier)
    (allowed : ∀ before call after, calls = before ++ call :: after →
      Allowed (earlier ++ before) call) :
    AllAnswered earlier (answersTo answer calls state) := by
  induction calls generalizing state earlier with
  | nil => exact .nil earlier
  | cons call calls ih =>
    have hcall : Allowed earlier call := by simpa using allowed [] call calls rfl
    obtain ⟨hanswer, hnext⟩ := step holds hcall
    refine .cons hanswer (ih hnext fun before later after hcut => ?_)
    rw [List.append_assoc]
    exact allowed (call :: before) later after (congrArg (call :: ·) hcut)

end

end ServerMigration
