import ServerMigration.Proofs.Documents.Faithful
import ServerMigration.Proofs.Store.Answers
import ServerMigration.Proofs.Store.Documents
import ServerMigration.Proofs.Store.Files

/-!
# Stores that agree

A store in memory and a store in files give the same answers to the same calls, the right ones.
The store in memory keeps values and the other one their texts, so this rests on documents being
read back as they were written.

## Main definitions

* `MemoryStore.Holds`, `FileTree.Holds` : a store's state stands for the calls so far.
* `StoreCall.Storable` : a call saves only what can be read back.

## Main results

* `MemoryStore.Holds.step`, `FileTree.Holds.step` : a call is answered rightly, and the state
  stands for it as well.
* `stores_agree` : both stores answer rightly, and so alike.
-/

namespace ServerMigration

open StoreCall (saveSource loadSource sourcesOfRun saveRun loadRun)

variable {earlier : List StoreCall} {call : StoreCall}

/-! ### The store in memory -/

/-- The store keeps the last version of every document. -/
structure MemoryStore.Holds (store : MemoryStore) (earlier : List StoreCall) : Prop where
  /-- No source is kept twice. -/
  distinct : store.Distinct
  /-- Every source is kept in its last version. -/
  source : ∀ id, store.sources.find? (·.id = id) = lastSource earlier id
  /-- Every run is kept in its last version. -/
  run : ∀ id, store.runs.find? (·.id = id) = lastRun earlier id

namespace MemoryStore

theorem holds_empty : Holds {} [] where
  distinct := List.nodup_nil
  source _ := rfl
  run _ := rfl

/-- **A call is answered rightly, and the store goes on to keep the last versions.** -/
theorem Holds.step {store : MemoryStore} (holds : store.Holds earlier)
    (apart : NamesApart earlier) : call.Answers earlier ((answer call).run store).1
      ∧ Holds ((answer call).run store).2 (earlier ++ [call]) := by
  have hunchanged (hsource : call.savedSource? = none) (hrun : call.savedRun? = none) :
      store.Holds (earlier ++ [call]) :=
    ⟨holds.distinct, fun id => by rw [holds.source, lastSource, lastSaved_append_of_none hsource],
      fun id => by rw [holds.run, lastRun, lastSaved_append_of_none hrun]⟩
  have hkept : ∀ source, source ∈ store.sources ↔ lastSource earlier source.id = some source :=
    fun source => by
      rw [← holds.source, find?_id_eq_some_iff holds.distinct, and_iff_left rfl]
  cases call with
  | saveSource source =>
    refine ⟨rfl, holds.distinct.save source, fun id => ?_, fun id => ?_⟩
    · show (upsert (·.id) source store.sources).find? (·.id = id) = _
      rw [find?_upsert, holds.source, lastSource_saveSource]
    · exact (holds.run id).trans (lastSaved_append_of_none rfl).symm
  | loadSource id =>
    rw [run_loadSource, holds.source]
    exact ⟨rfl, hunchanged rfl rfl⟩
  | sourcesOfRun runId =>
    exact ⟨⟨_, rfl, Listed.orderedByName apart holds.distinct hkept⟩, hunchanged rfl rfl⟩
  | saveRun run =>
    refine ⟨rfl, holds.distinct, fun id => ?_, fun id => ?_⟩
    · exact (holds.source id).trans (lastSaved_append_of_none rfl).symm
    · show (upsert (·.id) run store.runs).find? (·.id = id) = _
      rw [find?_upsert, holds.run, lastRun_saveRun]
  | loadRun id =>
    rw [run_loadRun, holds.run]
    exact ⟨rfl, hunchanged rfl rfl⟩

end MemoryStore

/-! ### The store in files -/

/-- A call saves only what can be read back: a document with proper values that does not nest too
deeply.  A run cannot do so. -/
def StoreCall.Storable : StoreCall → Prop
  | saveSource source =>
    Source.format.Proper source ∧ (encode source).depth ≤ Json.Reader.maxDepth
  | saveRun run => MigrationRun.format.Proper run
  | _ => True

/-- The texts of the documents that were saved last. -/
def textsAfter (earlier : List StoreCall) (kind : String) (id : Uuid) : Option String :=
  if kind = "sources" then (lastSource earlier id).map fun source => (encode source).indented
  else if kind = "runs" then (lastRun earlier id).map fun run => (encode run).indented
  else none

theorem textsAfter_saveSource (earlier : List StoreCall) (source : Source) :
    textsAfter (earlier ++ [saveSource source])
      = savedText "sources" source.id (encode source).indented (textsAfter earlier) := by
  funext kind id
  rw [textsAfter, savedText, textsAfter, lastSource_saveSource, lastRun,
    lastSaved_append_of_none rfl]
  by_cases hkind : kind = "sources"
  · by_cases hid : source.id = id
    · simp [hkind, hid]
    · simp [hkind, hid, Ne.symm hid]
  · simp [hkind]

theorem textsAfter_saveRun (earlier : List StoreCall) (run : MigrationRun) :
    textsAfter (earlier ++ [saveRun run])
      = savedText "runs" run.id (encode run).indented (textsAfter earlier) := by
  funext kind id
  rw [textsAfter, savedText, textsAfter, lastRun_saveRun, lastSource, lastSaved_append_of_none rfl]
  by_cases hkind : kind = "runs"
  · by_cases hid : run.id = id
    · simp [hkind, hid]
    · simp [hkind, hid, Ne.symm hid]
  · simp [hkind]

theorem textsAfter_of_none (hsource : call.savedSource? = none) (hrun : call.savedRun? = none) :
    textsAfter (earlier ++ [call]) = textsAfter earlier := by
  funext kind id
  rw [textsAfter, textsAfter, lastSource, lastRun, lastSaved_append_of_none hsource,
    lastSaved_append_of_none hrun]

theorem textsAfter_nil : textsAfter [] = fun _ _ => none := by
  funext kind id
  simp [textsAfter, lastSaved]

/-- The tree keeps the last version of every document, each of which can be read back. -/
structure FileTree.Holds (tree : FileTree) (earlier : List StoreCall) : Prop where
  /-- The tree keeps the texts of the last versions. -/
  keeps : tree.Keeps (textsAfter earlier)
  /-- Everything that was saved can be read back. -/
  storable : ∀ call ∈ earlier, call.Storable

/-- A document is read back from its file. -/
theorem Format.Lawful.parseDocument {α : Type} {F : Format α} (lawful : F.Lawful) {v : α}
    (proper : F.Proper v) (h : (F.encode v).depth ≤ Json.Reader.maxDepth) :
    @FileStore.parseDocument α F.toJsonCodec (F.encode v).indented = .ok v := by
  have htext := lawful.faithful.decode_text v proper h _
    (List.mem_cons_of_mem _ (List.mem_singleton_self _))
  rw [@FileStore.parseDocument.eq_def α F.toJsonCodec, htext]

namespace FileTree

variable {store : FileStore} {tree : FileTree} {id runId : Uuid}

theorem holds_empty : Holds {} [] where
  keeps := by
    rw [textsAfter_nil]
    exact keeps_empty
  storable _ h := absurd h List.not_mem_nil

namespace Holds

/-- The last version of a source can be read back. -/
theorem parse_source (holds : tree.Holds earlier) {source : Source}
    (h : lastSource earlier id = some source) :
    FileStore.parseDocument (encode source).indented = .ok source := by
  obtain ⟨proper, hdepth⟩ := holds.storable _ (mem_of_lastSource h)
  exact Source.lawful.parseDocument proper hdepth

/-- The last version of a run can be read back. -/
theorem parse_run (holds : tree.Holds earlier) {run : MigrationRun}
    (h : lastRun earlier id = some run) :
    FileStore.parseDocument (encode run).indented = .ok run :=
  MigrationRun.lawful.parseDocument (holds.storable _ (mem_of_lastRun h)) (MigrationRun.within _)

/-- The documents of a run are listed as they should be. -/
theorem listed (holds : tree.Holds earlier) (apart : NamesApart earlier) :
    ∃ sources, store.sourcesOfRun tree runId = .ok sources ∧ Listed earlier runId sources := by
  have htext : ∀ id, textsAfter earlier "sources" id
      = (lastSource earlier id).map fun source => (encode source).indented := fun id => if_pos rfl
  obtain ⟨hchildren, hempty⟩ | ⟨ids, hchildren, distinct, hids⟩ :=
    FileStore.children_of_keeps "sources" holds.keeps
  · refine ⟨[], by simp only [FileStore.sourcesOfRun, hchildren], ⟨fun source => ?_, .nil⟩⟩
    have hnone := hempty source.id
    rw [htext, Option.map_eq_none_iff] at hnone
    simp [hnone]
  · simp only [htext, Option.isSome_map] at hids
    have hread : store.readSources tree (ids.map Uuid.fileName)
        = .ok (ids.filterMap (lastSource earlier)) :=
      FileStore.readSources_of_keeps holds.keeps htext (fun _ _ h => holds.parse_source h)
        fun id hid => (hids id).mp hid
    refine ⟨_, by simp only [FileStore.sourcesOfRun, hchildren, hread]; rfl,
      Listed.orderedByName apart ?_ fun source => ?_⟩
    · rw [List.map_filterMap]
      refine distinct.filterMap fun id id' source h h' => ?_
      obtain ⟨document, hdocument, rfl⟩ := Option.map_eq_some_iff.mp h
      obtain ⟨document', hdocument', hsame⟩ := Option.map_eq_some_iff.mp h'
      rw [← key_of_lastSaved hdocument, ← key_of_lastSaved hdocument', hsame]
    · rw [List.mem_filterMap]
      constructor
      · rintro ⟨id, -, h⟩
        rwa [key_of_lastSaved h]
      · intro h
        exact ⟨source.id, (hids _).mpr (Option.isSome_of_eq_some h), h⟩

/-- **A call is answered rightly, and the tree goes on to keep the last versions.** -/
theorem step (holds : tree.Holds earlier) (storable : call.Storable)
    (apart : NamesApart earlier) : call.Answers earlier ((store.answer call).run tree).1
      ∧ Holds ((store.answer call).run tree).2 (earlier ++ [call]) := by
  have hstorable : ∀ other ∈ earlier ++ [call], other.Storable :=
    List.forall_mem_append.mpr ⟨holds.storable, List.forall_mem_singleton.mpr storable⟩
  have hunchanged (hsource : call.savedSource? = none) (hrun : call.savedRun? = none) :
      tree.Holds (earlier ++ [call]) :=
    ⟨by rw [textsAfter_of_none hsource hrun]; exact holds.keeps, hstorable⟩
  cases call with
  | saveSource source =>
    obtain ⟨tree', hrun, hkeeps⟩ := FileStore.run_putDocument source holds.keeps
    rw [show (store.answer (saveSource source)).run tree = _ from hrun]
    exact ⟨rfl, by rw [textsAfter_saveSource]; exact hkeeps, hstorable⟩
  | loadSource id =>
    refine ⟨?_, hunchanged rfl rfl⟩
    exact FileStore.fetchDocument_of_keeps holds.keeps (if_pos rfl)
      fun source h => holds.parse_source h
  | sourcesOfRun runId => exact ⟨holds.listed apart, hunchanged rfl rfl⟩
  | saveRun run =>
    obtain ⟨tree', hrun, hkeeps⟩ := FileStore.run_putDocument run holds.keeps
    rw [show (store.answer (saveRun run)).run tree = _ from hrun]
    exact ⟨rfl, by rw [textsAfter_saveRun]; exact hkeeps, hstorable⟩
  | loadRun id =>
    refine ⟨?_, hunchanged rfl rfl⟩
    exact FileStore.fetchDocument_of_keeps holds.keeps (if_neg (by decide) |>.trans (if_pos rfl))
      fun run h => holds.parse_run h

end Holds

end FileTree

/-! ### Agreement -/

/-- **A store in files that starts empty and a fresh store in memory give the same answers, the
right ones**, as long as everything that is saved can be read back and no two sources of a run
have the same name at a time. -/
theorem stores_agree (store : FileStore) {calls : List StoreCall}
    (storable : ∀ call ∈ calls, call.Storable)
    (apart : ∀ earlier, earlier <+: calls → NamesApart earlier) :
    answersTo store.answer calls {} = answersTo MemoryStore.answer calls {}
      ∧ AllAnswered [] (answersTo store.answer calls {}) := by
  have hallowed : ∀ before call after, calls = before ++ call :: after →
      call.Storable ∧ NamesApart ([] ++ before) := fun before call after hcut =>
    ⟨storable call (by simp [hcut]), apart before ⟨call :: after, hcut.symm⟩⟩
  have hfiles : AllAnswered [] (answersTo store.answer calls {}) :=
    allAnswered_answersTo FileTree.Holds (fun earlier call => call.Storable ∧ NamesApart earlier)
      (fun holds allowed => holds.step allowed.1 allowed.2) FileTree.holds_empty hallowed
  have hmemory : AllAnswered [] (answersTo MemoryStore.answer calls {}) :=
    allAnswered_answersTo MemoryStore.Holds (fun earlier call => call.Storable ∧ NamesApart earlier)
      (fun holds allowed => holds.step allowed.2) MemoryStore.holds_empty hallowed
  refine ⟨hfiles.unique hmemory ?_, hfiles⟩
  rw [map_fst_answersTo, map_fst_answersTo]

/-- A source with a number and a name, asleep or not. -/
def numberedSource (number : Nat) (name : String) (paused : Bool) : Source :=
  { (default : Source) with id := ⟨.ofNat 128 number⟩, name, paused }

theorem storable_numberedSource (number : Nat) (name : String) (paused : Bool) :
    (saveSource (numberedSource number name paused)).Storable := by
  have hinstant : Instant.Proper default := ⟨by decide, by decide, by decide⟩
  have hhost : RemoteHost.format.Proper default := RemoteHost.proper_iff.mpr nofun
  have htarget : Target.format.Proper default :=
    Target.proper_iff.mpr ⟨Blueprint.proper_iff.mpr (Dict.sorted_ofList _), nofun, nofun⟩
  exact ⟨Source.proper_iff.mpr ⟨hhost, htarget, hinstant, hinstant⟩,
    Nat.le_of_ble_eq_true rfl⟩

/-- Two sources are saved, the first one twice, and then looked up. -/
def webAndDatabase : List StoreCall :=
  [saveSource (numberedSource 1 "web" false), saveSource (numberedSource 2 "database" false),
    saveSource (numberedSource 1 "web" true), sourcesOfRun ⟨0⟩, loadSource ⟨1⟩, loadRun ⟨0⟩]

theorem webAndDatabase_agree :
    answersTo (FileStore.answer ⟨"/srv/migrations"⟩) webAndDatabase {}
        = answersTo MemoryStore.answer webAndDatabase {}
      ∧ AllAnswered [] (answersTo (FileStore.answer ⟨"/srv/migrations"⟩) webAndDatabase {}) := by
  refine stores_agree _ ?_ fun earlier hearlier a b ha hb hid _ => ?_
  · simp only [webAndDatabase, List.forall_mem_cons, List.not_mem_nil, false_implies,
      implies_true, and_true]
    exact ⟨storable_numberedSource _ _ _, storable_numberedSource _ _ _,
      storable_numberedSource _ _ _, trivial, trivial, trivial⟩
  · -- Every source that was saved is one of the two.
    have hsaved : ∀ {source : Source}, lastSource earlier source.id = some source →
        source.id = ⟨1⟩ ∧ source.name = "web" ∨ source.id = ⟨2⟩ ∧ source.name = "database" := by
      intro source h
      have hmem := hearlier.subset (mem_of_lastSource h)
      simp only [webAndDatabase, List.mem_cons, StoreCall.saveSource.injEq, reduceCtorEq,
        List.not_mem_nil, or_false] at hmem
      rcases hmem with rfl | rfl | rfl
      · exact .inl ⟨rfl, rfl⟩
      · exact .inr ⟨rfl, rfl⟩
      · exact .inl ⟨rfl, rfl⟩
    rcases hsaved ha with ⟨hid₁, hname⟩ | ⟨hid₁, hname⟩ <;>
      rcases hsaved hb with ⟨hid₂, hname'⟩ | ⟨hid₂, hname'⟩
    · exact absurd (hid₁.trans hid₂.symm) hid
    · rw [hname, hname']
      decide
    · rw [hname, hname']
      decide
    · exact absurd (hid₁.trans hid₂.symm) hid

end ServerMigration
