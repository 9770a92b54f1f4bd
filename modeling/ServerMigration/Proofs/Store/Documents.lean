import ServerMigration.Proofs.StableSort
import ServerMigration.Store.Basic

/-!
# What a store keeps

A store gives back what was saved last under an identifier, and lists what it keeps of a run.
Nothing else is asked of a store here, and a store in memory is one.

## Main definitions

* `DocumentStore` : a store of documents of sources.
* `DocumentStore.saveAll` : the store after some saves.
* `RunStore` : a store that also lists the documents of a run.
* `MemoryStore.documents`, `MemoryStore.ofRuns` : the store in memory, as either of them.

## Main results

* `DocumentStore.load_saveAll` : what is loaded after some saves of one document.
-/

namespace ServerMigration

/-- A store that accepts every document: the document saved last under an identifier is what is
loaded under it. -/
structure DocumentStore where
  /-- What the store keeps. -/
  State : Type
  /-- Saves a document. -/
  save : Source → State → State
  /-- Loads the document of an identifier. -/
  load : Uuid → State → Except StoreError Source
  /-- What is loaded after a save. -/
  load_save : ∀ source id state,
    load id (save source state) = if source.id = id then .ok source else load id state

namespace DocumentStore

variable (store : DocumentStore)

/-- The store when some documents have been saved, in order. -/
def saveAll (state : store.State) (documents : List Source) : store.State :=
  documents.foldl (fun state document => store.save document state) state

theorem saveAll_append (state : store.State) (first second : List Source) :
    store.saveAll state (first ++ second) = store.saveAll (store.saveAll state first) second :=
  List.foldl_append

variable {store}

/-- **After some saves under one identifier the last of them is loaded.** -/
theorem load_saveAll {state : store.State} {documents : List Source} {id : Uuid}
    (h : ∀ document ∈ documents, document.id = id) :
    store.load id (store.saveAll state documents) =
      match documents.getLast? with
      | some document => .ok document
      | none => store.load id state := by
  rcases List.eq_nil_or_concat documents with rfl | ⟨earlier, document, rfl⟩
  · rfl
  · have hid : document.id = id := h document (by simp)
    rw [List.concat_eq_append, saveAll_append, List.getLast?_concat]
    exact (store.load_save document id _).trans (if_pos hid)

end DocumentStore

/-- A store that also lists the documents of a run: each document of the run that can be loaded,
once.  The list may fail, and then says nothing. -/
structure RunStore extends DocumentStore where
  /-- Lists the documents of a run. -/
  list : Uuid → State → Except StoreError (List Source)
  /-- The documents that are listed. -/
  mem_list : ∀ {runId : Uuid} {state : State} {sources : List Source},
    list runId state = .ok sources →
      ∀ source, source ∈ sources ↔ load source.id state = .ok source ∧ source.runId = runId
  /-- None is listed twice. -/
  nodup_list : ∀ {runId : Uuid} {state : State} {sources : List Source},
    list runId state = .ok sources → (sources.map (·.id)).Nodup

namespace MemoryStore

theorem find?_upsert {α : Type} (key : α → Uuid) (x : α) (id : Uuid) (xs : List α) :
    (upsert key x xs).find? (key · = id)
      = if key x = id then some x else xs.find? (key · = id) := by
  induction xs with
  | nil => by_cases h : key x = id <;> simp [upsert, h]
  | cons y ys ih =>
    rw [upsert]
    -- The first element with the key is replaced, those before it are kept.
    by_cases hsame : key y = key x
    · rw [if_pos hsame]
      by_cases h : key x = id
      · simp [h]
      · have hy : key y ≠ id := fun hy => h (hsame ▸ hy)
        simp [h, hy]
    · rw [if_neg hsame]
      by_cases hy : key y = id
      · have h : key x ≠ id := fun h => hsame (hy.trans h.symm)
        simp [hy, h]
      · simpa [hy] using ih

theorem run_loadSource (id : Uuid) (state : MemoryStore) : (answer (.loadSource id)).run state =
    ((state.sources.find? (·.id = id)).elim (.error (.notFound "source" id)) .ok, state) := by
  cases h : state.sources.find? (·.id = id)
  all_goals
    simp only [answer, StateT.run_bind, StateT.run_get, pure_bind, h]
    rfl

theorem run_loadRun (id : Uuid) (state : MemoryStore) : (answer (.loadRun id)).run state =
    ((state.runs.find? (·.id = id)).elim (.error (.notFound "run" id)) .ok, state) := by
  cases h : state.runs.find? (·.id = id)
  all_goals
    simp only [answer, StateT.run_bind, StateT.run_get, pure_bind, h]
    rfl

theorem load_eq (id : Uuid) (state : MemoryStore) :
    ((answer (.loadSource id)).run state).1 =
      (state.sources.find? (·.id = id)).elim (.error (.notFound "source" id)) .ok := by
  rw [run_loadSource]

/-- The store in memory. -/
def documents : DocumentStore where
  State := MemoryStore
  save source state := ((answer (.saveSource source)).run state).2
  load id state := ((answer (.loadSource id)).run state).1
  load_save source id state := by
    rw [load_eq, load_eq]
    change ((upsert (·.id) source state.sources).find? (·.id = id)).elim _ _ = _
    rw [find?_upsert]
    split <;> rfl

/-! ### Documents that are kept once -/

theorem map_upsert {α : Type} (key : α → Uuid) (x : α) (xs : List α) :
    (upsert key x xs).map key
      = if key x ∈ xs.map key then xs.map key else xs.map key ++ [key x] := by
  induction xs with
  | nil => simp [upsert]
  | cons y ys ih =>
    rw [upsert]
    by_cases hsame : key y = key x
    · simp [hsame]
    · rw [if_neg hsame, List.map_cons, ih]
      by_cases hmem : key x ∈ ys.map key <;> simp [hmem, Ne.symm hsame]

/-- No document is kept twice. -/
abbrev Distinct (store : MemoryStore) : Prop := (store.sources.map (·.id)).Nodup

theorem Distinct.save {state : MemoryStore} (distinct : state.Distinct) (source : Source) :
    (documents.save source state).Distinct := by
  change ((upsert (·.id) source state.sources).map (·.id)).Nodup
  rw [map_upsert]
  split
  · exact distinct
  · next hnew => exact List.nodup_append.mpr ⟨distinct, by simp, by grind⟩

theorem find?_id_eq_some_iff {sources : List Source} (distinct : (sources.map (·.id)).Nodup)
    {id : Uuid} {source : Source} :
    sources.find? (·.id = id) = some source ↔ source ∈ sources ∧ source.id = id := by
  constructor
  · intro h
    exact ⟨List.mem_of_find?_eq_some h, by simpa using List.find?_some h⟩
  · rintro ⟨hmem, rfl⟩
    induction sources with
    | nil => cases hmem
    | cons other sources ih =>
      obtain ⟨hother, distinct⟩ := List.nodup_cons.mp distinct
      rcases List.mem_cons.mp hmem with rfl | hmem
      · simp
      · have hne : other.id ≠ source.id := fun h => hother (List.mem_map.mpr ⟨source, hmem, h.symm⟩)
        rw [List.find?_cons_of_neg (by simpa using hne)]
        exact ih distinct hmem

theorem load_eq_ok_iff {state : MemoryStore} (distinct : state.Distinct) {id : Uuid}
    {source : Source} :
    documents.load id state = .ok source ↔ source ∈ state.sources ∧ source.id = id := by
  rw [← find?_id_eq_some_iff distinct]
  change ((answer (.loadSource id)).run state).1 = .ok source ↔ _
  rw [load_eq]
  cases state.sources.find? (·.id = id) <;> simp

theorem perm_of_sourcesOfRun {state : MemoryStore} {runId : Uuid} {sources : List Source}
    (h : ((answer (.sourcesOfRun runId)).run state).1 = .ok sources) :
    sources.Perm (state.sources.filter (·.runId = runId)) :=
  Except.ok.inj h ▸ stableSort_perm _ _

/-- The store in memory, which keeps no document twice, with its lists. -/
def ofRuns : RunStore where
  State := { state : MemoryStore // state.Distinct }
  save source state := ⟨documents.save source state.1, state.2.save source⟩
  load id state := documents.load id state.1
  load_save source id state := documents.load_save source id state.1
  list runId state := ((answer (.sourcesOfRun runId)).run state.1).1
  mem_list {runId state sources} h source := by
    rw [(perm_of_sourcesOfRun h).mem_iff, List.mem_filter, load_eq_ok_iff state.2]
    simp
  nodup_list {runId state sources} h := by
    rw [((perm_of_sourcesOfRun h).map _).nodup_iff]
    exact state.2.sublist (List.filter_sublist.map _)

end MemoryStore

end ServerMigration
