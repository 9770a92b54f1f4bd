import Mathlib.Data.List.Nodup
import ServerMigration.Proofs.Results
import ServerMigration.Store.FileTree

/-!
# What operations do to a file tree

An operation is told by the entries that it leaves: every path has what was put there last.  In a
tree where no path occurs twice a directory lists the names of the entries below it, each once.

## Main results

* `FileTree.entryAt_put`, `FileTree.entryAt_remove` : the entries after a change.
* `FileTree.exists_replaced` : a file written under another name takes the place of a file.
* `FileTree.children_eq_ok` : what a directory lists.
-/

namespace ServerMigration.FileTree

variable {tree : FileTree} {path other : List String} {entry : FileEntry} {name kind : String}

@[simp] theorem entryAt_cons (tree : FileTree) (name : String) (rest : List String) :
    tree.entryAt (name :: rest) = tree.entries.lookup (name :: rest) := rfl

theorem entryAt_of_ne_nil (tree : FileTree) (h : path ≠ []) :
    tree.entryAt path = tree.entries.lookup path := by
  rw [entryAt, if_neg (by simpa using h)]

theorem lookup_putEntry (entries : List (List String × FileEntry)) :
    (putEntry path entry entries).lookup other
      = if other = path then some entry else entries.lookup other := by
  induction entries with
  | nil =>
    rw [putEntry, List.lookup_cons]
    by_cases h : other = path
    · simp [h]
    · simp [h, beq_false_of_ne h]
  | cons first entries ih =>
    obtain ⟨place, old⟩ := first
    rw [putEntry]
    by_cases hplace : place = path
    · rw [if_pos hplace, List.lookup_cons, List.lookup_cons, hplace]
      by_cases h : other = path
      · simp [h]
      · simp [h, beq_false_of_ne h]
    · rw [if_neg hplace, List.lookup_cons, List.lookup_cons, ih]
      by_cases h : other = place
      · simp [h, hplace]
      · simp [beq_false_of_ne h]

theorem lookup_filter_ne (entries : List (List String × FileEntry)) :
    (entries.filter (·.1 ≠ path)).lookup other
      = if other = path then none else entries.lookup other := by
  induction entries with
  | nil => simp
  | cons first entries ih =>
    obtain ⟨place, old⟩ := first
    rw [List.lookup_cons]
    by_cases hplace : place = path
    · rw [List.filter_cons_of_neg (by simpa using hplace), ih]
      by_cases h : other = path
      · simp [h]
      · have hne : other ≠ place := fun heq => h (heq.trans hplace)
        simp [beq_false_of_ne hne]
    · rw [List.filter_cons_of_pos (by simpa using hplace), List.lookup_cons, ih]
      by_cases h : other = place
      · simp [h, hplace]
      · simp [beq_false_of_ne h]

/-- What is put at a path is there; all other entries stay. -/
theorem entryAt_put (hpath : path ≠ []) :
    (tree.put path entry).entryAt other
      = if other = path then some entry else tree.entryAt other := by
  by_cases hother : other = []
  · subst hother
    rw [if_neg hpath.symm]
    rfl
  · rw [entryAt_of_ne_nil _ hother, entryAt_of_ne_nil _ hother, put, lookup_putEntry]

/-- What is removed is gone; all other entries stay. -/
theorem entryAt_remove (hpath : path ≠ []) :
    (tree.remove path).entryAt other = if other = path then none else tree.entryAt other := by
  by_cases hother : other = []
  · subst hother
    rw [if_neg hpath.symm]
    rfl
  · rw [entryAt_of_ne_nil _ hother, entryAt_of_ne_nil _ hother, remove, lookup_filter_ne]

/-! ### Paths that occur once -/

/-- No path occurs twice. -/
abbrev Distinct (tree : FileTree) : Prop := (tree.entries.map (·.1)).Nodup

theorem Distinct.put (distinct : tree.Distinct) (path : List String) (entry : FileEntry) :
    (tree.put path entry).Distinct := by
  have hpaths : ∀ entries : List (List String × FileEntry),
      (putEntry path entry entries).map (·.1) = if path ∈ entries.map (·.1)
        then entries.map (·.1) else entries.map (·.1) ++ [path] := by
    intro entries
    induction entries with
    | nil => simp [putEntry]
    | cons first entries ih =>
      rw [putEntry]
      by_cases hsame : first.1 = path
      · simp [hsame]
      · rw [if_neg hsame, List.map_cons, ih]
        by_cases hmem : path ∈ entries.map (·.1) <;> simp [hmem, Ne.symm hsame]
  show ((putEntry path entry tree.entries).map (·.1)).Nodup
  rw [hpaths]
  split
  · exact distinct
  · next hnew => exact List.nodup_append.mpr ⟨distinct, by simp, by grind⟩

theorem Distinct.remove (distinct : tree.Distinct) (path : List String) :
    (tree.remove path).Distinct :=
  distinct.sublist (List.filter_sublist.map _)

/-! ### Operations one and two names below the root -/

theorem look_one : tree.look [kind] = (tree.entryAt [kind]).elim (.error .notFound) .ok := by
  show tree.lookFrom [kind] [] = _
  rw [lookFrom]
  cases tree.entryAt [kind] <;> rfl

theorem look_two (h : tree.entryAt [kind] = some .directory) :
    tree.look [kind, name] = (tree.entryAt [kind, name]).elim (.error .notFound) .ok := by
  show tree.lookFrom [kind] [name] = _
  rw [lookFrom, h]
  show tree.lookFrom [kind, name] [] = _
  rw [lookFrom]
  cases tree.entryAt [kind, name] <;> rfl

theorem look_two_of_none (h : tree.entryAt [kind] = none) :
    tree.look [kind, name] = .error .notFound := by
  show tree.lookFrom [kind] [name] = _
  rw [lookFrom, h]

/-- A directory is there after it was made, and nothing else has changed. -/
theorem makeDirectory_one (h : tree.entryAt [kind] = some .directory ∨ tree.entryAt [kind] = none) :
    ∃ tree', tree.makeDirectory [kind] = .ok tree'
      ∧ (∀ path, tree'.entryAt path = if path = [kind] then some .directory else tree.entryAt path)
      ∧ (tree.Distinct → tree'.Distinct) := by
  rw [makeDirectory, makeDirectoryFrom, List.nil_append]
  rcases h with h | h
  · rw [h]
    refine ⟨tree, rfl, fun path => ?_, id⟩
    split
    · next hpath => rw [hpath, h]
    · rfl
  · rw [h]
    exact ⟨_, rfl, fun path => entryAt_put (by simp), fun distinct => distinct.put _ _⟩

/-- A file can be written into a directory that is there, in the place of no other directory. -/
theorem write_two {text : String} (hkind : tree.entryAt [kind] = some .directory)
    (h : tree.entryAt [kind, name] ≠ some .directory) :
    tree.write [kind, name] text = .ok (tree.put [kind, name] (.file text)) := by
  rw [write, look_two hkind]
  cases hentry : tree.entryAt [kind, name] with
  | none =>
    have hlook : tree.look [kind, name].dropLast = .ok .directory := by
      rw [List.dropLast_cons_cons, List.dropLast_singleton, look_one, hkind]
      rfl
    simp only [Option.elim_none, hlook]
  | some entry =>
    cases entry with
    | file => rfl
    | directory => exact absurd hentry h

/-- A file that is moved within its directory takes the place of the file that is there. -/
theorem rename_two {text : String} {source target : String}
    (hkind : tree.entryAt [kind] = some .directory)
    (hsource : tree.entryAt [kind, source] = some (.file text))
    (htarget : tree.entryAt [kind, target] ≠ some .directory) :
    tree.rename [kind, source] [kind, target]
      = .ok ((tree.remove [kind, source]).put [kind, target] (.file text)) := by
  have hread : tree.readFile [kind, source] = .ok text := by
    rw [readFile, look_two hkind, hsource]
    rfl
  have hrename : tree.rename [kind, source] [kind, target]
      = (tree.remove [kind, source]).write [kind, target] text := by
    rw [rename, hread]
    rfl
  rw [hrename]
  refine write_two ?_ ?_
  · rw [entryAt_remove (by simp), if_neg (by simp), hkind]
  · rw [entryAt_remove (by simp)]
    split
    · nofun
    · exact htarget

/-- **A file that is written under another name and then moved takes its place, and leaves nothing
behind.** -/
theorem exists_replaced {staging : String} (text : String)
    (hkind : tree.entryAt [kind] = some .directory) (hfree : tree.entryAt [kind, staging] = none)
    (hname : tree.entryAt [kind, name] ≠ some .directory) (hne : name ≠ staging) :
    ∃ staged tree', tree.write [kind, staging] text = .ok staged
      ∧ staged.rename [kind, staging] [kind, name] = .ok tree'
      ∧ (∀ path, tree'.entryAt path
        = if path = [kind, name] then some (.file text) else tree.entryAt path)
      ∧ (tree.Distinct → tree'.Distinct) := by
  have hwrite : tree.write [kind, staging] text = .ok _ :=
    write_two hkind fun h => nomatch hfree.symm.trans h
  have hstaged : ∀ path, (tree.put [kind, staging] (.file text)).entryAt path
      = if path = [kind, staging] then some (.file text) else tree.entryAt path :=
    fun path => entryAt_put (by simp)
  have hrename : (tree.put [kind, staging] (.file text)).rename [kind, staging] [kind, name]
      = .ok (((tree.put [kind, staging] (.file text)).remove [kind, staging]).put [kind, name]
        (.file text)) := by
    refine rename_two ?_ ((hstaged _).trans (if_pos rfl)) ?_
    · rw [hstaged, if_neg (by simp), hkind]
    · rw [hstaged, if_neg (by simpa using hne)]
      exact hname
  refine ⟨_, _, hwrite, hrename, fun path => ?_, fun distinct => ?_⟩
  · rw [entryAt_put (by simp), entryAt_remove (by simp), hstaged]
    split
    · rfl
    · split
      · next hpath => rw [hpath, hfree]
      · rfl
  · exact ((distinct.put _ _).remove _).put _ _

/-- **A directory lists the names of the entries below it, each once.** -/
theorem children_eq_ok (distinct : tree.Distinct) (hkind : tree.entryAt [kind] = some .directory) :
    ∃ names, tree.children [kind] = .ok names ∧ names.Nodup
      ∧ ∀ name, name ∈ names ↔ (tree.entryAt [kind, name]).isSome := by
  have hchildren : tree.children [kind] = .ok ((tree.entries.map (·.1)).filterMap fun path =>
      if path.dropLast = [kind] then path.getLast? else none) := by
    rw [children, look_one, hkind, List.filterMap_map]
    rfl
  have hname : ∀ {path : List String} {name : String},
      name ∈ (if path.dropLast = [kind] then path.getLast? else none) ↔ path = [kind, name] := by
    intro path name
    constructor
    · intro h
      split at h
      · next hkind =>
        have hcut := List.dropLast_append_getLast? name h
        rw [hkind] at hcut
        exact hcut.symm
      · cases h
    · rintro rfl
      simp
  refine ⟨_, hchildren, distinct.filterMap fun path path' name h h' => ?_, fun name => ?_⟩
  · rw [hname.mp h, hname.mp h']
  · rw [entryAt_cons, List.mem_filterMap]
    constructor
    · rintro ⟨path, hpath, h⟩
      obtain rfl := hname.mp h
      exact Option.isSome_iff_ne_none.mpr fun hnone => by
        obtain ⟨entry, hentry, heq⟩ := List.mem_map.mp hpath
        have hne := List.lookup_eq_none_iff.mp hnone entry hentry
        rw [heq] at hne
        simp at hne
    · intro h
      refine ⟨[kind, name], Classical.byContradiction fun hpath => ?_, hname.mpr rfl⟩
      refine Option.isSome_iff_ne_none.mp h (List.lookup_eq_none_iff.mpr fun entry hentry => ?_)
      exact bne_iff_ne.mpr fun heq => hpath (heq ▸ List.mem_map_of_mem hentry)

end ServerMigration.FileTree
