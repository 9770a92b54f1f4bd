import Mathlib.Data.Set.List
import ServerMigration.Proofs.Identifiers
import ServerMigration.Proofs.Store.FileTrees
import ServerMigration.Store.FileStore

/-!
# What a store in files keeps

The tree of a store holds its documents and nothing else: a directory for each kind of document
that was ever saved, and in it one file for each document.  A save takes the document's place from
any tree of this form to another, since the file that is written first is gone when it has taken
its place.

## Main definitions

* `FileTree.Keeps` : a tree keeps these texts of documents, and nothing else.

## Main results

* `FileStore.run_putDocument` : a save keeps the document in place of the one before.
* `FileStore.readFile_pathOf` : the text of a document is read.
* `FileStore.children_of_keeps` : what a directory of documents lists.
-/

namespace ServerMigration

open FileStore (pathOf stagingPath isDocumentName)

/-- The name of the file of a document. -/
abbrev Uuid.fileName (id : Uuid) : String := id.text ++ ".json"

theorem Uuid.fileName_injective {a b : Uuid} (h : a.fileName = b.fileName) : a = b :=
  text_injective ((String.append_left_inj _).mp h)

/-- No document stands under the name of a file that is written first. -/
theorem Uuid.fileName_ne_staging (a b : Uuid) : a.fileName ≠ b.text ++ ".json.tmp" := by
  intro h
  have hlast := congrArg (fun name : String => name.toList.getLast?) h
  have hn : ".json".toList.getLast? = some 'n' := by decide
  have hp : ".json.tmp".toList.getLast? = some 'p' := by decide
  simp only [String.toList_append, List.getLast?_append, hn, hp] at hlast
  exact absurd (Option.some.inj hlast) (by decide)

/-- A tree keeps these texts of documents, by kind and identifier, and nothing else. -/
structure FileTree.Keeps (tree : FileTree) (texts : String → Uuid → Option String) : Prop where
  /-- No path occurs twice. -/
  distinct : tree.Distinct
  /-- The directory of a kind is there, if any document of that kind is. -/
  directory : ∀ kind, tree.entryAt [kind] = some .directory
    ∨ tree.entryAt [kind] = none ∧ ∀ id, texts kind id = none
  /-- Every document is a file with its text. -/
  document : ∀ kind id, tree.entryAt (pathOf kind id) = (texts kind id).map .file
  /-- There are no other files. -/
  only : ∀ kind name, (tree.entryAt [kind, name]).isSome → ∃ id : Uuid, name = id.fileName

/-- An empty tree keeps no document. -/
theorem FileTree.keeps_empty : FileTree.Keeps {} fun _ _ => none where
  distinct := List.nodup_nil
  directory _ := .inr ⟨rfl, fun _ => rfl⟩
  document _ _ := rfl
  only _ _ h := nomatch h

/-- The texts of documents when one was saved. -/
def savedText (kind : String) (id : Uuid) (text : String) (texts : String → Uuid → Option String) :
    String → Uuid → Option String :=
  fun kind' id' => if kind' = kind ∧ id' = id then some text else texts kind' id'

namespace FileStore

variable {store : FileStore} {tree tree' : FileTree} {texts : String → Uuid → Option String}
  {kind name : String} {id : Uuid}

theorem run_bind {α β : Type} {first : ExceptT StoreError (StateM FileTree) α}
    {next : α → ExceptT StoreError (StateM FileTree) β} {a : α}
    (h : first.run.run tree = (.ok a, tree')) :
    (first >>= next).run.run tree = (next a).run.run tree' := by
  rw [ExceptT.run_bind, StateT.run_bind, h]
  rfl

theorem run_change {path : List String} {operation : FileTree → Except FileError FileTree}
    (h : operation tree = .ok tree') :
    (store.change path operation).run.run tree = (.ok (), tree') := by
  have hget :
      (get : ExceptT StoreError (StateM FileTree) FileTree).run.run tree = (.ok tree, tree) := rfl
  rw [change, run_bind hget, h]
  rfl

/-! ### Saving -/

/-- **A save keeps the document in place of the one before.** -/
theorem run_putDocument {α : Type} [JsonCodec α] (document : α) (keeps : tree.Keeps texts) :
    ∃ tree', (store.putDocument kind id document).run.run tree = (.ok (), tree')
      ∧ tree'.Keeps (savedText kind id (encode document).indented texts) := by
  obtain ⟨made, hmade, hmadeAt, hmadeOnce⟩ :=
    FileTree.makeDirectory_one ((keeps.directory kind).imp_right And.left)
  have hkind : made.entryAt [kind] = some .directory := by rw [hmadeAt, if_pos rfl]
  have hsame : ∀ name, made.entryAt [kind, name] = tree.entryAt [kind, name] := fun name => by
    rw [hmadeAt, if_neg (by simp)]
  have hfree : made.entryAt [kind, id.text ++ ".json.tmp"] = none := by
    rw [hsame, Option.eq_none_iff_forall_ne_some]
    intro entry hentry
    obtain ⟨other, hother⟩ := keeps.only kind _ (Option.isSome_of_eq_some hentry)
    exact Uuid.fileName_ne_staging other id hother.symm
  have hplace : made.entryAt [kind, id.fileName] ≠ some .directory := by
    rw [hsame, show tree.entryAt [kind, id.fileName] = _ from keeps.document kind id]
    cases texts kind id <;> nofun
  obtain ⟨staged, tree', hwrite, hrename, hentries, honce⟩ :=
    FileTree.exists_replaced (encode document).indented hkind hfree hplace
      (Uuid.fileName_ne_staging id id)
  refine ⟨tree', ?_, ⟨honce (hmadeOnce keeps.distinct), fun kind' => ?_, fun kind' id' => ?_,
    fun kind' name h => ?_⟩⟩
  · rw [putDocument, run_bind (run_change hmade), run_bind (run_change hwrite),
      run_change hrename]
  · rw [hentries, if_neg (by simp), hmadeAt]
    by_cases hkind' : kind' = kind
    · exact .inl (if_pos (by rw [hkind']))
    · rw [if_neg (by simpa using hkind')]
      exact (keeps.directory kind').imp_right fun ⟨hnone, hempty⟩ =>
        ⟨hnone, fun id' => (if_neg fun h => hkind' h.1).trans (hempty id')⟩
  · rw [hentries, hmadeAt, savedText]
    have hpath : pathOf kind' id' = [kind, id.fileName] ↔ kind' = kind ∧ id' = id :=
      ⟨fun h => ⟨(List.cons.inj h).1,
        Uuid.fileName_injective (List.cons.inj (List.cons.inj h).2).1⟩, fun ⟨hk, hi⟩ => by
          rw [hk, hi]; rfl⟩
    by_cases h : kind' = kind ∧ id' = id
    · rw [if_pos (hpath.mpr h), if_pos h]
      rfl
    · rw [if_neg fun heq => h (hpath.mp heq), if_neg (by simp [pathOf]), if_neg h,
        keeps.document]
  · rw [hentries] at h
    split at h
    · next hpath => exact ⟨id, (List.cons.inj (List.cons.inj hpath).2).1⟩
    · rw [hmadeAt, if_neg (by simp)] at h
      exact keeps.only kind' name h

/-! ### Reading -/

/-- The file of a document is one that is listed. -/
theorem isDocumentName_fileName (id : Uuid) : isDocumentName id.fileName = true := by
  have hreverse : id.fileName.toList.reverse
      = ".json".toList.reverse ++ id.text.toList.reverse := by
    rw [String.toList_append, List.reverse_append]
  rw [isDocumentName, hreverse, Text.afterPrefix_append]
  cases htext : id.text.toList.reverse with
  | cons c rest => rfl
  | nil =>
    rw [Uuid.text, String.toList_ofList] at htext
    simp at htext

/-- The text of a document is read. -/
theorem readFile_pathOf (keeps : tree.Keeps texts) :
    tree.readFile (pathOf kind id) = (texts kind id).elim (.error .notFound) .ok := by
  have hdocument := keeps.document kind id
  have hlook : tree.look (pathOf kind id)
      = ((texts kind id).map .file).elim (.error .notFound) .ok := by
    rcases keeps.directory kind with hkind | ⟨hkind, hempty⟩
    · rw [pathOf, FileTree.look_two hkind, ← hdocument]
      rfl
    · rw [pathOf, FileTree.look_two_of_none hkind, hempty id]
      rfl
  rw [FileTree.readFile, hlook]
  cases texts kind id <;> rfl

/-- A document is read if its text can be, and it is missing if there is no text. -/
theorem fetchDocument_of_keeps {α : Type} [JsonCodec α] {document? : Option α}
    (keeps : tree.Keeps texts)
    (htext : texts kind id = document?.map fun document => (encode document).indented)
    (hparse : ∀ document ∈ document?, parseDocument (encode document).indented = .ok document) :
    store.fetchDocument tree kind name id
      = document?.elim (.error (.notFound name id)) .ok := by
  rw [fetchDocument]
  simp only [readFile_pathOf keeps, htext]
  cases document? with
  | none => rfl
  | some document => exact hparse document rfl

/-- The documents of a kind that are listed: each one that is kept, once. -/
theorem children_of_keeps (kind : String) (keeps : tree.Keeps texts) :
    (tree.children [kind] = .error .notFound ∧ ∀ id, texts kind id = none)
    ∨ ∃ ids : List Uuid, tree.children [kind] = .ok (ids.map Uuid.fileName) ∧ ids.Nodup
      ∧ ∀ id, id ∈ ids ↔ (texts kind id).isSome := by
  rcases keeps.directory kind with hkind | ⟨hkind, hempty⟩
  · obtain ⟨names, hnames, distinct, hmem⟩ := FileTree.children_eq_ok keeps.distinct hkind
    obtain ⟨ids, rfl⟩ : names ∈ Set.range (List.map Uuid.fileName) := by
      rw [Set.range_list_map]
      intro name hname
      obtain ⟨id, hid⟩ := keeps.only kind name ((hmem name).mp hname)
      exact ⟨id, hid.symm⟩
    refine .inr ⟨ids, hnames, distinct.of_map _, fun id => ?_⟩
    have hdocument : tree.entryAt [kind, id.fileName] = _ := keeps.document kind id
    rw [← List.mem_map_of_injective fun _ _ => Uuid.fileName_injective, hmem, hdocument,
      Option.isSome_map]
  · refine .inl ⟨?_, hempty⟩
    rw [FileTree.children, FileTree.look_one, hkind]
    rfl

/-- The documents of the files with these names are read if their texts can be. -/
theorem readSources_of_keeps {ids : List Uuid} {document? : Uuid → Option Source}
    (keeps : tree.Keeps texts)
    (htext : ∀ id, texts "sources" id
      = (document? id).map fun document => (encode document).indented)
    (hparse : ∀ id, ∀ document ∈ document? id,
      parseDocument (encode document).indented = .ok document)
    (hids : ∀ id ∈ ids, (document? id).isSome) :
    store.readSources tree (ids.map Uuid.fileName) = .ok (ids.filterMap document?) := by
  induction ids with
  | nil => rfl
  | cons id ids ih =>
    obtain ⟨hid, hids⟩ := List.forall_mem_cons.mp hids
    obtain ⟨document, hdocument⟩ := Option.isSome_iff_exists.mp hid
    have hread : tree.readFile ["sources", id.fileName] = .ok (encode document).indented := by
      rw [show tree.readFile ["sources", id.fileName] = _ from readFile_pathOf keeps, htext,
        hdocument]
      rfl
    rw [List.map_cons, readSources, if_pos (isDocumentName_fileName id),
      List.filterMap_cons_some hdocument]
    simp only [hread, hparse id document hdocument, ih hids]
    rfl

end FileStore

end ServerMigration
