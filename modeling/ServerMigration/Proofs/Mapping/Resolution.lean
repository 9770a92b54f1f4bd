import Mathlib
import ServerMigration.Proofs.Mapping.Counterparts
import ServerMigration.Proofs.Mapping.Coverage
import ServerMigration.Proofs.Text.Splitting

/-!
# Where the mount table locates a path

A path belongs to the filesystem with the longest mountpoint that it lies in, where a mountpoint
contains what follows it behind a slash: `/variable` does not lie in `/var`.  The path is located in
the mount directory of that filesystem.  As the directories of different mountpoints have different
names of one length, different paths are located at different places.

## Main definitions

* `MountTable.LiesIn` : a path stands in a directory.
* `MountTable.ParentsFirst` : the table lists parents before what is mounted below them.
* `MountTable.Innermost` : the entry with the longest mountpoint that a path lies in.
* `MountTable.Locates` : the mount directory of an entry followed by the rest of a path.
* `MountTable.Normalized` : a path without empty components.

## Main results

* `MountTable.resolve_eq_ok_iff` : where the table locates a path.
* `MountTable.located_by_longest_mountpoint` : the table of a pairing is there, lists parents first
  and locates a path by the longest mountpoint.
* `MountTable.resolve_injOn` : it locates different normalized paths at different places.
-/

namespace ServerMigration

namespace MountTable

open DeviceMapping

variable {devices target : Devices} {mapping : DeviceMapping} {table : MountTable}
  {entry other : MountEntry} {path directory rest location : String}

/-! ### Paths and directories -/

/-- The components of a path. -/
def components (path : String) : List (List Char) :=
  (Text.splitOn '/' path.toList).filter (!·.isEmpty)

/-- A path lies in a directory if it is that directory or stands below it.  Every path lies in
`/`. -/
def LiesIn (path directory : String) : Prop :=
  directory = "/" ∨ path = directory ∨ ∃ rest, path = directory ++ "/" ++ rest

/-- The components of one path are the first ones of another. -/
def IsAncestor (ancestor path : String) : Prop :=
  components ancestor <+: components path ∧ components ancestor ≠ components path

theorem depth_eq (path : String) : depth path = (components path).length := rfl

theorem components_append (directory rest : String) :
    components (directory ++ "/" ++ rest) = components directory ++ components rest := by
  have hchars : (directory ++ "/" ++ rest).toList = directory.toList ++ '/' :: rest.toList := by
    simp
  rw [components, hchars, Text.splitOn_append_cons, List.filter_append]
  rfl

theorem depth_lt_of_isAncestor (h : IsAncestor directory path) : depth directory < depth path := by
  obtain ⟨⟨below, hbelow⟩, hne⟩ := h
  rw [depth_eq, depth_eq, ← hbelow, List.length_append]
  have hsome : below ≠ [] := by
    rintro rfl
    exact hne (by rw [← hbelow, List.append_nil])
  have hlength : 0 < below.length := List.length_pos_iff.mpr hsome
  omega

/-! ### The order of the table -/

theorem mountOrder_eq :
    mountOrder = compareLex (compareOn fun entry => depth entry.sourceMountpoint)
      (compareOn fun entry => entry.sourceMountpoint) := rfl

instance : Std.TransCmp mountOrder := by
  rw [mountOrder_eq]
  infer_instance

theorem isLE_mountOrder (h : (mountOrder entry other).isLE) :
    depth entry.sourceMountpoint ≤ depth other.sourceMountpoint
      ∧ (depth entry.sourceMountpoint = depth other.sourceMountpoint →
        entry.sourceMountpoint < other.sourceMountpoint
          ∨ entry.sourceMountpoint = other.sourceMountpoint) := by
  rw [mountOrder, Ordering.isLE_then_iff_and] at h
  obtain ⟨hdepth, htext⟩ := h
  refine ⟨Nat.isLE_compare.mp hdepth, fun hsame => ?_⟩
  have htext := htext.resolve_left (by simp [hsame])
  exact compareStrings_isLE_iff.mp htext

/-- No text stands before its own beginning. -/
theorem not_append_lt (text rest : String) : ¬text ++ rest < text := by
  rw [String.lt_iff_toList_lt, String.toList_append]
  exact (List.prefix_append text.toList rest.toList).le

/-- Parents stand before what is mounted below them. -/
def ParentsFirst (table : MountTable) : Prop :=
  table.Pairwise fun earlier later =>
    ¬IsAncestor later.sourceMountpoint earlier.sourceMountpoint
      ∧ (LiesIn earlier.sourceMountpoint later.sourceMountpoint →
        earlier.sourceMountpoint = later.sourceMountpoint)

/-- An absolute path begins with a slash. -/
def Absolute (path : String) : Prop := path.toList.head? = some '/'

theorem exists_eq_append_of_liesIn (absolute : Absolute path) (h : LiesIn path directory) :
    ∃ rest, path = directory ++ rest := by
  rcases h with rfl | rfl | ⟨rest, rfl⟩
  · obtain ⟨rest, hrest⟩ := List.head?_eq_some_iff.mp absolute
    exact ⟨String.ofList rest, by rw [← String.toList_inj]; simpa using hrest⟩
  · exact ⟨"", (String.append_empty).symm⟩
  · exact ⟨"/" ++ rest, String.append_assoc⟩

/-- What lies in a directory is not less deep than the directory. -/
theorem depth_le_of_liesIn (h : LiesIn path directory) : depth directory ≤ depth path := by
  rcases h with rfl | rfl | ⟨rest, rfl⟩
  · have hroot : depth "/" = 0 := rfl
    omega
  · exact Nat.le_refl _
  · rw [depth_eq, depth_eq, components_append, List.length_append]
    exact Nat.le_add_right _ _

/-- A table in mount order lists parents before what is mounted below them. -/
theorem parentsFirst_of_sorted (sorted : table.Pairwise fun a b => (mountOrder a b).isLE)
    (absolute : ∀ entry ∈ table, Absolute entry.sourceMountpoint) : ParentsFirst table := by
  refine sorted.imp_of_mem fun {earlier later} hearlier _ hle => ?_
  obtain ⟨hdepth, htext⟩ := isLE_mountOrder hle
  refine ⟨fun hancestor => ?_, fun hlies => ?_⟩
  · have hlt := depth_lt_of_isAncestor hancestor
    omega
  · -- The depths agree, and then the texts decide.
    have hsame := Nat.le_antisymm hdepth (depth_le_of_liesIn hlies)
    obtain ⟨rest, hrest⟩ := exists_eq_append_of_liesIn (absolute earlier hearlier) hlies
    refine (htext hsame).resolve_left fun hlt => ?_
    rw [hrest] at hlt
    exact not_append_lt _ _ hlt

theorem sorted_of_ofMapping (h : ofMapping devices mapping = .ok table) :
    table.Pairwise fun a b => (mountOrder a b).isLE := by
  obtain ⟨entries, -, hsame⟩ := bind_eq_ok_iff.mp h
  cases hsame
  exact stableSort_pairwise _

/-! ### The entry that a path belongs to -/

theorem remainder?_eq_some_iff {mountpoint path rest : List Char} :
    remainder? mountpoint path = some rest ↔
      (mountpoint = ['/'] ∧ rest = path) ∨
        mountpoint ≠ ['/'] ∧ path = mountpoint ++ rest ∧ (rest = [] ∨ rest.head? = some '/') := by
  by_cases hroot : mountpoint = ['/']
  · simp [remainder?, hroot, eq_comm]
  · rw [remainder?, if_neg hroot]
    constructor
    · intro h
      refine .inr ⟨hroot, ?_⟩
      split at h
      · next hafter =>
        cases h
        exact ⟨Text.eq_append_of_afterPrefix hafter, .inl rfl⟩
      · next hafter =>
        cases h
        exact ⟨Text.eq_append_of_afterPrefix hafter, .inr rfl⟩
      · cases h
    · rintro (⟨h, -⟩ | ⟨-, rfl, hrest⟩)
      · exact absurd h hroot
      · rw [Text.afterPrefix_append]
        cases rest with
        | nil => rfl
        | cons c rest =>
          obtain rfl : c = '/' := by simpa using hrest
          rfl

theorem isSome_remainder?_iff :
    (remainder? directory.toList path.toList).isSome ↔ LiesIn path directory := by
  rw [Option.isSome_iff_exists]
  constructor
  · rintro ⟨rest, hrest⟩
    rcases remainder?_eq_some_iff.mp hrest with ⟨hroot, -⟩ | ⟨-, hpath, rfl | hslash⟩
    · exact .inl (String.toList_inj.mp hroot)
    · exact .inr (.inl (String.toList_inj.mp (by simpa using hpath)))
    · obtain ⟨rest, rfl⟩ := List.head?_eq_some_iff.mp hslash
      refine .inr (.inr ⟨String.ofList rest, String.toList_inj.mp ?_⟩)
      simpa using hpath
  · intro h
    by_cases hroot : directory.toList = ['/']
    · exact ⟨_, remainder?_eq_some_iff.mpr (.inl ⟨hroot, rfl⟩)⟩
    · rcases h with rfl | rfl | ⟨rest, rfl⟩
      · exact absurd rfl hroot
      · exact ⟨[], remainder?_eq_some_iff.mpr (.inr ⟨hroot, by simp, .inl rfl⟩)⟩
      · exact ⟨'/' :: rest.toList,
          remainder?_eq_some_iff.mpr (.inr ⟨hroot, by simp, .inr rfl⟩)⟩

theorem isSome_longer (best : Option MountEntry) (entry : MountEntry) :
    (longer best entry).isSome := by
  cases best with
  | none => rfl
  | some e =>
    rw [longer]
    split <;> rfl

theorem eq_nil_of_foldl_longer {entries : List MountEntry}
    (h : entries.foldl longer none = none) : entries = [] := by
  induction entries using List.reverseRecOn with
  | nil => rfl
  | append_singleton entries last _ =>
    rw [List.foldl_concat] at h
    have hsome := isSome_longer (entries.foldl longer none) last
    rw [h] at hsome
    cases hsome

/-- The choice keeps the last one of the entries with the longest mountpoint. -/
theorem exists_cut_of_foldl_longer {entries : List MountEntry}
    (h : entries.foldl longer none = some entry) :
    ∃ before after, entries = before ++ entry :: after
      ∧ (∀ other ∈ before, other.sourceMountpoint.utf8ByteSize
        ≤ entry.sourceMountpoint.utf8ByteSize)
      ∧ ∀ other ∈ after, other.sourceMountpoint.utf8ByteSize
        < entry.sourceMountpoint.utf8ByteSize := by
  induction entries using List.reverseRecOn generalizing entry with
  | nil => cases h
  | append_singleton entries last ih =>
    rw [List.foldl_concat] at h
    cases hbest : entries.foldl longer none with
    | none =>
      rw [hbest] at h
      cases h
      rw [eq_nil_of_foldl_longer hbest]
      exact ⟨[], [], rfl, nofun, nofun⟩
    | some best =>
      rw [hbest, longer] at h
      obtain ⟨before, after, rfl, hbefore, hafter⟩ := ih hbest
      split at h
      · next hle =>
        -- The last entry takes the place of the best one before it.
        cases h
        refine ⟨before ++ best :: after, [], rfl, fun other hmem => ?_, nofun⟩
        have hother : other.sourceMountpoint.utf8ByteSize
            ≤ best.sourceMountpoint.utf8ByteSize := by
          rcases List.mem_append.mp hmem with hmem | hmem
          · exact hbefore other hmem
          · rcases List.mem_cons.mp hmem with rfl | hmem
            · exact Nat.le_refl _
            · exact Nat.le_of_lt (hafter other hmem)
        exact Nat.le_trans hother hle
      · next hlt =>
        cases h
        refine ⟨before, after ++ [last], by simp, hbefore, fun other hmem => ?_⟩
        rcases List.mem_append.mp hmem with hmem | hmem
        · exact hafter other hmem
        · rw [List.mem_singleton.mp hmem]
          omega

/-- Of two beginnings of a text the one with fewer bytes has fewer characters. -/
theorem length_le_of_utf8ByteSize_le {whole text other : String}
    (htext : text.toList <+: whole.toList) (hother : other.toList <+: whole.toList)
    (h : text.utf8ByteSize ≤ other.utf8ByteSize) : text.length ≤ other.length := by
  by_contra hlt
  rw [← String.length_toList, ← String.length_toList, Nat.not_le] at hlt
  obtain ⟨rest, hrest⟩ := List.prefix_of_prefix_length_le hother htext (Nat.le_of_lt hlt)
  have htext : text = other ++ String.ofList rest := by
    rw [← String.toList_inj, String.toList_append, String.toList_ofList, hrest]
  have hempty : (String.ofList rest).utf8ByteSize = 0 := by
    rw [htext, String.utf8ByteSize_append] at h
    omega
  rw [String.utf8ByteSize_eq_zero_iff] at hempty
  rw [htext, hempty, String.append_empty] at hlt
  exact Nat.lt_irrefl _ hlt

/-- The entry with the longest mountpoint that a path lies in. -/
structure Innermost (table : MountTable) (path : String) (entry : MountEntry) : Prop where
  listed : entry ∈ table
  contains : LiesIn path entry.sourceMountpoint
  longest : ∀ other ∈ table, LiesIn path other.sourceMountpoint →
    other.sourceMountpoint.length ≤ entry.sourceMountpoint.length

/-- The filesystems whose mountpoints a path lies in. -/
theorem mem_filter_remainder?_iff :
    entry ∈ table.filter (fun entry =>
      (remainder? entry.sourceMountpoint.toList path.toList).isSome) ↔
      entry ∈ table ∧ LiesIn path entry.sourceMountpoint := by
  rw [List.mem_filter, isSome_remainder?_iff]

theorem exists_containing_iff :
    (∃ entry, containing table path.toList = some entry) ↔
      ∃ entry ∈ table, LiesIn path entry.sourceMountpoint := by
  constructor
  · rintro ⟨entry, h⟩
    obtain ⟨before, after, hcut, -, -⟩ := exists_cut_of_foldl_longer h
    have hmem : entry ∈ before ++ entry :: after := List.mem_append_right _ List.mem_cons_self
    rw [← hcut] at hmem
    exact ⟨entry, mem_filter_remainder?_iff.mp hmem⟩
  · rintro ⟨entry, hentry⟩
    cases hchosen : containing table path.toList with
    | some chosen => exact ⟨chosen, rfl⟩
    | none =>
      have hmem := mem_filter_remainder?_iff.mpr hentry
      rw [eq_nil_of_foldl_longer hchosen] at hmem
      exact absurd hmem List.not_mem_nil

theorem prefix_of_liesIn (absolute : Absolute path) (h : LiesIn path directory) :
    directory.toList <+: path.toList := by
  obtain ⟨rest, rfl⟩ := exists_eq_append_of_liesIn absolute h
  rw [String.toList_append]
  exact List.prefix_append _ _

theorem innermost_of_containing (absolute : Absolute path)
    (h : containing table path.toList = some entry) : Innermost table path entry := by
  obtain ⟨before, after, hcut, hbefore, hafter⟩ := exists_cut_of_foldl_longer h
  have hmem : entry ∈ before ++ entry :: after := List.mem_append_right _ List.mem_cons_self
  rw [← hcut] at hmem
  obtain ⟨hlisted, hcontains⟩ := mem_filter_remainder?_iff.mp hmem
  refine ⟨hlisted, hcontains, fun other hother hlies => ?_⟩
  have hothers := mem_filter_remainder?_iff.mpr ⟨hother, hlies⟩
  rw [hcut] at hothers
  refine length_le_of_utf8ByteSize_le (prefix_of_liesIn absolute hlies)
    (prefix_of_liesIn absolute hcontains) ?_
  rcases List.mem_append.mp hothers with hmem | hmem
  · exact hbefore other hmem
  · rcases List.mem_cons.mp hmem with rfl | hmem
    · exact Nat.le_refl _
    · exact Nat.le_of_lt (hafter other hmem)

/-- The longest mountpoint is determined by the path. -/
theorem Innermost.sourceMountpoint_eq (absolute : Absolute path)
    (innermost : Innermost table path entry) (innermost' : Innermost table path other) :
    entry.sourceMountpoint = other.sourceMountpoint := by
  have hle := innermost.longest other innermost'.listed innermost'.contains
  have hge := innermost'.longest entry innermost.listed innermost.contains
  rw [← String.length_toList, ← String.length_toList] at hle hge
  have hbegins := List.prefix_of_prefix_length_le (prefix_of_liesIn absolute innermost.contains)
    (prefix_of_liesIn absolute innermost'.contains) hge
  exact String.toList_inj.mp (hbegins.eq_of_length (Nat.le_antisymm hge hle))

/-! ### The location of a path -/

/-- What is left of a path behind a mountpoint; behind `/` that is the whole path. -/
def Remains (mountpoint path rest : String) : Prop :=
  if mountpoint = "/" then rest = path else path = mountpoint ++ rest

/-- The location is the mount directory followed by the rest of the path.  A rest that is a mere
slash is dropped. -/
def Locates (entry : MountEntry) (path location : String) : Prop :=
  ∃ rest, Remains entry.sourceMountpoint path rest
    ∧ location = entry.targetMountpoint ++ if rest = "/" then "" else rest

theorem Remains.unique {mountpoint rest' : String} (h : Remains mountpoint path rest)
    (h' : Remains mountpoint path rest') : rest = rest' := by
  unfold Remains at h h'
  split at h
  · rw [if_pos ‹_›] at h'
    rw [h, h']
  · rw [if_neg ‹_›, h] at h'
    exact (String.append_right_inj mountpoint).mp h'

theorem remains_of_remainder? {mountpoint : String}
    (h : remainder? mountpoint.toList path.toList = some rest.toList) :
    Remains mountpoint path rest := by
  rcases remainder?_eq_some_iff.mp h with ⟨hroot, hrest⟩ | ⟨hroot, hpath, -⟩
  · rw [Remains, if_pos (String.toList_inj.mp hroot)]
    exact String.toList_inj.mp hrest
  · have hne : mountpoint ≠ "/" := fun hsame => hroot (by rw [hsame]; rfl)
    rw [Remains, if_neg hne, ← String.toList_inj, String.toList_append]
    exact hpath

theorem locates_iff {chars : List Char}
    (h : remainder? entry.sourceMountpoint.toList path.toList = some chars) :
    Locates entry path location ↔
      location = entry.targetMountpoint ++ .ofList (if chars = ['/'] then [] else chars) := by
  have hremains : Remains entry.sourceMountpoint path (.ofList chars) :=
    remains_of_remainder? (by rw [h, String.toList_ofList])
  have hrest : String.ofList (if chars = ['/'] then [] else chars)
      = if String.ofList chars = "/" then "" else String.ofList chars := by
    have hslash : String.ofList chars = "/" ↔ chars = ['/'] := by
      rw [← String.toList_inj, String.toList_ofList]
      rfl
    by_cases hchars : chars = ['/']
    · rw [if_pos hchars, if_pos (hslash.mpr hchars)]
    · rw [if_neg hchars, if_neg (mt hslash.mp hchars)]
  rw [hrest]
  constructor
  · rintro ⟨rest, hrest, rfl⟩
    rw [hremains.unique hrest]
  · rintro rfl
    exact ⟨_, hremains, rfl⟩

theorem exists_locates (h : LiesIn path entry.sourceMountpoint) :
    ∃ location, Locates entry path location := by
  obtain ⟨chars, hchars⟩ := Option.isSome_iff_exists.mp (isSome_remainder?_iff.mpr h)
  exact ⟨_, (locates_iff hchars).mpr rfl⟩

/-- **Where the table locates a path.** -/
theorem resolve_eq_ok_iff :
    table.resolve path = .ok location ↔
      Absolute path ∧ ∃ entry, containing table path.toList = some entry
        ∧ Locates entry path location := by
  by_cases absolute : path.toList.head? = some '/'
  · cases hentry : containing table path.toList with
    | none => simp [resolve, absolute, hentry]
    | some entry =>
      have hcontains := (innermost_of_containing absolute hentry).contains
      obtain ⟨chars, hchars⟩ := Option.isSome_iff_exists.mp (isSome_remainder?_iff.mpr hcontains)
      have hresolve : table.resolve path = .ok (entry.targetMountpoint
          ++ .ofList (if chars = ['/'] then [] else chars)) := by
        simp [resolve, absolute, hentry, hchars]
      rw [hresolve, Except.ok.injEq, eq_comm, ← locates_iff hchars]
      simp [Absolute, absolute]
  · simp [resolve, Absolute, absolute]

/-- A path that the table does not locate is named in the error. -/
theorem exists_reason_of_resolve {error : MappingError} (h : table.resolve path = .error error) :
    ∃ reason, error = .invalidPath path reason := by
  rw [resolve] at h
  dsimp only at h
  split at h
  · cases h
    exact ⟨_, rfl⟩
  · split at h
    · cases h
      exact ⟨_, rfl⟩
    · cases h

/-! ### The table of a pairing -/

/-- An entry of the table has the directory of its mountpoint. -/
theorem Lists.directory_eq {entries : List MountEntry} {listed : List BlockDevice}
    (lists : Lists entries listed) (h : entry ∈ entries) :
    entry.targetMountpoint = mountDirectory (some entry.sourceMountpoint) false := by
  obtain ⟨device, -, describes⟩ := lists.sound entry h
  exact describes.directory

/-- **The mount table of a pairing locates a path by the longest mountpoint that it lies in.**  The
table is there, it lists parents before what is mounted below them, and it locates exactly the
absolute paths that lie in a mountpoint. -/
theorem located_by_longest_mountpoint (orderly : devices.Orderly)
    (h : ofDevices devices target = .ok mapping) :
    ∃ table, ofMapping devices mapping = .ok table ∧ ParentsFirst table
      ∧ ∀ path, ((∃ location, table.resolve path = .ok location) ↔
          Absolute path ∧ ∃ entry ∈ table, LiesIn path entry.sourceMountpoint)
        ∧ ∀ location, table.resolve path = .ok location ↔
          Absolute path ∧ ∃ entry, Innermost table path entry ∧ Locates entry path location := by
  obtain ⟨table, htable, lists⟩ := exists_lists_surface orderly h
  have habsolute : ∀ entry ∈ table, Absolute entry.sourceMountpoint := by
    intro entry hmem
    obtain ⟨device, -, describes⟩ := lists.sound entry hmem
    exact (mountPath?_eq_some_iff.mp describes.mounted).2.1
  refine ⟨table, htable, parentsFirst_of_sorted (sorted_of_ofMapping htable) habsolute,
    fun path => ⟨?_, ?_⟩⟩
  · constructor
    · rintro ⟨location, hlocation⟩
      obtain ⟨absolute, entry, hentry, -⟩ := resolve_eq_ok_iff.mp hlocation
      exact ⟨absolute, exists_containing_iff.mp ⟨entry, hentry⟩⟩
    · rintro ⟨absolute, hentry⟩
      obtain ⟨entry, hentry⟩ := exists_containing_iff.mpr hentry
      have hcontains := (innermost_of_containing absolute hentry).contains
      obtain ⟨location, hlocates⟩ := exists_locates hcontains
      exact ⟨location, resolve_eq_ok_iff.mpr ⟨absolute, entry, hentry, hlocates⟩⟩
  · intro location
    constructor
    · intro hlocation
      obtain ⟨absolute, entry, hentry, hlocates⟩ := resolve_eq_ok_iff.mp hlocation
      exact ⟨absolute, entry, innermost_of_containing absolute hentry, hlocates⟩
    · rintro ⟨absolute, entry, innermost, hlocates⟩
      obtain ⟨chosen, hchosen⟩ :=
        exists_containing_iff.mpr ⟨entry, innermost.listed, innermost.contains⟩
      have innermost' := innermost_of_containing absolute hchosen
      -- Another entry for the longest mountpoint has the same directory.
      have hsource := innermost'.sourceMountpoint_eq absolute innermost
      have htarget : chosen.targetMountpoint = entry.targetMountpoint := by
        rw [lists.directory_eq innermost'.listed, lists.directory_eq innermost.listed, hsource]
      refine resolve_eq_ok_iff.mpr ⟨absolute, chosen, hchosen, ?_⟩
      rw [Locates, hsource, htarget]
      exact hlocates

/-- A disk with a root filesystem, and with `/var` and `/var/lib` on partitions of their own. -/
def nested : Devices :=
  [("vda", { blank "vda" 30 with children :=
    [("vda1", { blank "vda1" 10 with mountpoint := "/" }),
      ("vda2", { blank "vda2" 10 with mountpoint := "/var" }),
      ("vda3", { blank "vda3" 10 with mountpoint := "/var/lib" })] })]

/-- The counterparts of `nested` on `emptyDisk`. -/
def nestedMapping : DeviceMapping :=
  [("vda", ⟨"vdb", "", [("vda1", ⟨"vdb1", mountDirectory (some "/") false, []⟩),
    ("vda2", ⟨"vdb2", mountDirectory (some "/var") false, []⟩),
    ("vda3", ⟨"vdb3", mountDirectory (some "/var/lib") false, []⟩)]⟩)]

theorem orderly_nested : nested.Orderly := by
  refine .intro (List.pairwise_singleton _ _) (by decide) fun entry hmem => ?_
  rw [List.mem_singleton.mp hmem]
  exact .of_childless (by unfold Dict.Sorted; decide +kernel) (by decide) (by decide)

theorem ofDevices_nested : ofDevices nested emptyDisk = .ok nestedMapping := by
  with_unfolding_all rfl

/-- The paths of nested filesystems are located by the longest mountpoint. -/
theorem nested_located :
    nested.Orderly ∧ ofDevices nested emptyDisk = .ok nestedMapping
      ∧ ∃ table, ofMapping nested nestedMapping = .ok table ∧ ParentsFirst table
      ∧ ∀ path, ((∃ location, table.resolve path = .ok location) ↔
          Absolute path ∧ ∃ entry ∈ table, LiesIn path entry.sourceMountpoint)
        ∧ ∀ location, table.resolve path = .ok location ↔
          Absolute path ∧ ∃ entry, Innermost table path entry ∧ Locates entry path location :=
  ⟨orderly_nested, ofDevices_nested, located_by_longest_mountpoint orderly_nested ofDevices_nested⟩

/-! ### Locations of different paths -/

/-- A path is normalized if it is absolute and has no empty component, and so no slash at its end
unless it is `/`. -/
structure Normalized (path : String) : Prop where
  absolute : Absolute path
  plain : path = "/" ∨ [] ∉ Text.splitOn '/' path.toList.tail

/-- A normalized path that ends in a slash is `/`. -/
theorem Normalized.eq_root {text : String} (normalized : Normalized (text ++ "/")) :
    text = "" := by
  have hchars : (text ++ "/").toList = text.toList ++ ['/'] := by simp
  cases htext : text.toList with
  | nil => exact String.toList_eq_nil_iff.mp htext
  | cons c rest =>
    rw [htext] at hchars
    rcases normalized.plain with hroot | hplain
    · rw [hroot] at hchars
      simp at hchars
    · rw [hchars, List.cons_append, List.tail_cons] at hplain
      exact absurd (Text.nil_mem_splitOn_concat rest) hplain

theorem not_remains_empty {mountpoint other : String} (normalized : Normalized path)
    (absolute : Absolute other) (h : Remains mountpoint path "/") :
    ¬Remains mountpoint other "" := by
  intro h'
  have hnonempty : other ≠ "" := by
    rintro rfl
    cases absolute
  unfold Remains at h h'
  split at h
  · rw [if_pos ‹_›] at h'
    exact hnonempty h'.symm
  · rw [if_neg ‹_›, String.append_empty] at h'
    rw [h] at normalized
    exact hnonempty (h'.trans normalized.eq_root)

/-- One entry locates different normalized paths at different places. -/
theorem eq_of_locates {path' : String} (normalized : Normalized path)
    (normalized' : Normalized path') (h : Locates entry path location)
    (h' : Locates entry path' location) : path = path' := by
  obtain ⟨rest, hrest, hlocation⟩ := h
  obtain ⟨rest', hrest', hlocation'⟩ := h'
  rw [hlocation] at hlocation'
  have hsame := (String.append_right_inj _).mp hlocation'
  have hrests : rest = rest' := by
    by_cases hslash : rest = "/" <;> by_cases hslash' : rest' = "/"
    · rw [hslash, hslash']
    · rw [if_pos hslash, if_neg hslash'] at hsame
      subst hslash hsame
      exact absurd hrest' (not_remains_empty normalized normalized'.absolute hrest)
    · rw [if_neg hslash, if_pos hslash'] at hsame
      subst hslash' hsame
      exact absurd hrest (not_remains_empty normalized' normalized.absolute hrest')
    · rwa [if_neg hslash, if_neg hslash'] at hsame
  subst hrests
  unfold Remains at hrest hrest'
  split at hrest
  · rw [if_pos ‹_›] at hrest'
    exact hrest.symm.trans hrest'
  · rw [if_neg ‹_›] at hrest'
    exact hrest.trans hrest'.symm

/-- The entry that is chosen is the last one with its mountpoint. -/
theorem find?_reverse_of_containing (h : containing table path.toList = some entry) :
    table.reverse.find? (·.sourceMountpoint = entry.sourceMountpoint) = some entry := by
  obtain ⟨before, after, hcut, -, hafter⟩ := exists_cut_of_foldl_longer h
  obtain ⟨first, others, rfl, -, hothers⟩ := List.filter_eq_append_iff.mp hcut
  obtain ⟨second, later, rfl, -, hcontains, rfl⟩ := List.filter_eq_cons_iff.mp hothers
  have hlater : later.reverse.find? (·.sourceMountpoint = entry.sourceMountpoint) = none := by
    refine List.find?_eq_none.mpr fun other hmem hsame => ?_
    have hsame : other.sourceMountpoint = entry.sourceMountpoint := by simpa using hsame
    have hother := hafter other (List.mem_filter.mpr ⟨List.mem_reverse.mp hmem, hsame ▸ hcontains⟩)
    rw [hsame] at hother
    exact Nat.lt_irrefl _ hother
  simp [List.find?_append, hlater]

/-- The mount directories in a table have names of one length. -/
theorem length_targetMountpoint (h : ofDevices devices target = .ok mapping)
    (htable : ofMapping devices mapping = .ok table) (hmem : entry ∈ table) :
    entry.targetMountpoint.length = 37 := by
  obtain ⟨mapped, hmapped, hmounted, -, hdirectory⟩ := exists_mapped_of_mem htable hmem
  obtain ⟨mountpoint, isSwap, hmountpoint⟩ := (onTarget_of_mem h hmapped).directory
  have hne : mapped.mountpoint ≠ "" := of_decide_eq_true hmounted
  rw [hmountpoint] at hne hdirectory
  rw [hdirectory, length_mountDirectory hne]

/-- **The mount table of a pairing locates different normalized paths at different places**, if it
gives different mountpoints different directories.  That a directory is given to two mountpoints
means, for devices that stand under their names, that the digests of these collide. -/
theorem resolve_injOn (h : ofDevices devices target = .ok mapping)
    (htable : ofMapping devices mapping = .ok table)
    (distinct : ∀ entry ∈ table, ∀ other ∈ table,
      entry.sourceMountpoint ≠ other.sourceMountpoint →
        entry.targetMountpoint ≠ other.targetMountpoint) :
    (devices.Orderly → ∀ entry ∈ table,
        entry.targetMountpoint = mountDirectory (some entry.sourceMountpoint) false)
      ∧ Set.InjOn table.resolve {path | Normalized path} := by
  refine ⟨fun orderly entry hmem => ?_, fun path normalized path' normalized' hsame => ?_⟩
  · obtain ⟨table', htable', lists⟩ := exists_lists_surface orderly h
    cases htable.symm.trans htable'
    exact lists.directory_eq hmem
  cases hpath : table.resolve path with
  | error error =>
    have hpath' := hsame.symm.trans hpath
    obtain ⟨reason, rfl⟩ := exists_reason_of_resolve hpath
    obtain ⟨reason', hreason⟩ := exists_reason_of_resolve hpath'
    exact (MappingError.invalidPath.inj hreason).1
  | ok location =>
    have hpath' := hsame.symm.trans hpath
    obtain ⟨absolute, entry, hentry, hlocates⟩ := resolve_eq_ok_iff.mp hpath
    obtain ⟨absolute', entry', hentry', hlocates'⟩ := resolve_eq_ok_iff.mp hpath'
    by_cases hmountpoint : entry.sourceMountpoint = entry'.sourceMountpoint
    · have hlast := find?_reverse_of_containing hentry
      rw [hmountpoint, find?_reverse_of_containing hentry', Option.some.injEq] at hlast
      subst hlast
      exact eq_of_locates normalized normalized' hlocates hlocates'
    · -- The directories differ, and as their names are of one length, so do the locations.
      have innermost := innermost_of_containing absolute hentry
      have innermost' := innermost_of_containing absolute' hentry'
      obtain ⟨rest, -, hlocation⟩ := hlocates
      obtain ⟨rest', -, hlocation'⟩ := hlocates'
      rw [hlocation, ← String.toList_inj, String.toList_append, String.toList_append]
        at hlocation'
      have hlength : entry.targetMountpoint.toList.length
          = entry'.targetMountpoint.toList.length := by
        rw [String.length_toList, String.length_toList,
          length_targetMountpoint h htable innermost.listed,
          length_targetMountpoint h htable innermost'.listed]
      have hdirectory := String.toList_inj.mp (List.append_inj hlocation' hlength).1
      exact absurd hdirectory
        (distinct entry innermost.listed entry' innermost'.listed hmountpoint)

/-- The entry of a partition of `vda`, whose counterpart is mounted at the directory of a path. -/
def partitionEntry (mountpoint device counterpart path : String) : MountEntry where
  sourceDisk := "vda"
  targetDisk := "vdb"
  sourceDevice := device
  targetDevice := counterpart
  sourceMountpoint := mountpoint
  targetMountpoint := mountDirectory (some path) false
  fs := none
  uuid := none
  label := none

/-- The mount table of `nested`. -/
def nestedTable : MountTable :=
  [partitionEntry "/" "vda1" "vdb1" "/", partitionEntry "/var" "vda2" "vdb2" "/var",
    partitionEntry "/var/lib" "vda3" "vdb3" "/var/lib"]

theorem ofMapping_nested : ofMapping nested nestedMapping = .ok nestedTable := by
  with_unfolding_all rfl

/-- The digests of the mountpoints of `nested` differ. -/
theorem nodup_directories :
    (["/", "/var", "/var/lib"].map fun path => mountDirectory (some path) false).Nodup := by
  decide +kernel

/-- Paths of nested filesystems are located at different places. -/
theorem nested_injective :
    ofDevices nested emptyDisk = .ok nestedMapping
      ∧ ofMapping nested nestedMapping = .ok nestedTable
      ∧ (∀ entry ∈ nestedTable, ∀ other ∈ nestedTable,
        entry.sourceMountpoint ≠ other.sourceMountpoint →
          entry.targetMountpoint ≠ other.targetMountpoint)
      ∧ (nested.Orderly → ∀ entry ∈ nestedTable,
        entry.targetMountpoint = mountDirectory (some entry.sourceMountpoint) false)
      ∧ Set.InjOn nestedTable.resolve {path | Normalized path} := by
  have hnodup : (nestedTable.map (·.targetMountpoint)).Nodup := nodup_directories
  have distinct : ∀ entry ∈ nestedTable, ∀ other ∈ nestedTable,
      entry.sourceMountpoint ≠ other.sourceMountpoint →
        entry.targetMountpoint ≠ other.targetMountpoint := by
    intro entry hentry other hother hne hsame
    exact hne (congrArg _ (List.inj_on_of_nodup_map hnodup hentry hother hsame))
  exact ⟨ofDevices_nested, ofMapping_nested, distinct,
    resolve_injOn ofDevices_nested ofMapping_nested distinct⟩

/-- A disk with three partitions, the first two of which stand under one another's names. -/
def misfiled : Devices :=
  [("vda", { blank "vda" 30 with children :=
    [("vda1", { blank "vda2" 10 with mountpoint := "/var/lib" }),
      ("vda2", { blank "vda1" 10 with mountpoint := "/var" }),
      ("vda3", { blank "vda3" 10 with mountpoint := "/var" })] })]

/-- The counterparts of `misfiled` on `emptyDisk`. -/
def misfiledMapping : DeviceMapping :=
  [("vda", ⟨"vdb", "", [("vda1", ⟨"vdb1", mountDirectory (some "/var") false, []⟩),
    ("vda2", ⟨"vdb2", mountDirectory (some "/var/lib") false, []⟩),
    ("vda3", ⟨"vdb3", mountDirectory (some "/var") false, []⟩)]⟩)]

/-- The mount table of `misfiled`. -/
def misfiledTable : MountTable :=
  [partitionEntry "/var" "vda1" "vdb2" "/var/lib", partitionEntry "/var" "vda3" "vdb3" "/var",
    partitionEntry "/var/lib" "vda2" "vdb1" "/var"]

/-- Partitions that stand under one another's names get one another's directories, and then the
files of two filesystems can be sent to one place although no digests collide. -/
theorem misfiled_not_injective :
    ¬ ∀ (devices target : Devices) (mapping : DeviceMapping) (table : MountTable),
      ofDevices devices target = .ok mapping → ofMapping devices mapping = .ok table →
      (∀ entry ∈ table, ∀ other ∈ table, entry.sourceMountpoint ≠ other.sourceMountpoint →
        mountDirectory (some entry.sourceMountpoint) false
          ≠ mountDirectory (some other.sourceMountpoint) false) →
      Set.InjOn table.resolve {path | Normalized path} := by
  intro h
  have hmapping : ofDevices misfiled emptyDisk = .ok misfiledMapping := by with_unfolding_all rfl
  have htable : ofMapping misfiled misfiledMapping = .ok misfiledTable := by with_unfolding_all rfl
  have hdirectories : mountDirectory (some "/var") false
      ≠ mountDirectory (some "/var/lib") false :=
    (List.pairwise_cons.mp (List.pairwise_cons.mp nodup_directories).2).1 _ List.mem_cons_self
  have hplaces : ∀ entry ∈ misfiledTable,
      entry.sourceMountpoint = "/var" ∨ entry.sourceMountpoint = "/var/lib" := by decide
  have hinjective := h misfiled emptyDisk misfiledMapping misfiledTable hmapping htable
    fun entry hentry other hother hne => by
      rcases hplaces entry hentry with hparent | hnested <;>
        rcases hplaces other hother with hparent' | hnested'
      · exact absurd (hparent.trans hparent'.symm) hne
      · rw [hparent, hnested']
        exact hdirectories
      · rw [hnested, hparent']
        exact hdirectories.symm
      · exact absurd (hnested.trans hnested'.symm) hne
  have hparent : Normalized "/var/notes" := ⟨rfl, .inr (by decide)⟩
  have hnested : Normalized "/var/lib/notes" := ⟨rfl, .inr (by decide)⟩
  have hsame : misfiledTable.resolve "/var/notes" = misfiledTable.resolve "/var/lib/notes" := by
    with_unfolding_all rfl
  exact absurd (hinjective hparent hnested hsame) (by decide)

end MountTable

end ServerMigration
