import ServerMigration.Proofs.Migration.MigratedFstab
import ServerMigration.Proofs.Text.Lines

/-!
# Rewriting the table of filesystems once more

The step that rewrites the table reads it from the file that it has written before when it has to
run again.  A device without a filesystem identifier is then named by its counterpart on the
target, and that may be the name of another device of the source.  The table stays as it is only
if no such name is taken for a device of the source that is named in another way.

## Main definitions

* `PutsWords` : whatever the table puts in the place of a device is one word.
* `PutsLines` : whatever the table puts in the place of a device does not break a line.
* `Settled` : what the table puts in the place of a device is kept when it is read again.

## Main results

* `retargetFstab_twice_iff` : when rewriting the rewritten table changes nothing.
* `shifted_swap_renamed_twice` : disks that move up by one name are renamed again.
-/

namespace ServerMigration

open DeviceMapping

section

variable {devices : Devices} {mapping : DeviceMapping} {line rest : List Char} {name : String}

/-- Whatever the table puts in the place of a device is one word. -/
def PutsWords (devices : Devices) (mapping : DeviceMapping) : Prop :=
  ∀ name spec, fstabSpec devices mapping name = some spec → spec.toList.all (!Text.isBlank ·)

/-- The counterpart that the table names for a device keeps its name when the table is read as a
table of the source: it is not the name of a device that is named in another way. -/
def Settled (devices : Devices) (mapping : DeviceMapping) (name : String) : Prop :=
  ∀ id, fstabSpec devices mapping name = some ("/dev/" ++ id) →
    ∀ spec, fstabSpec devices mapping id = some spec → spec = "/dev/" ++ id

/-- The first field of a line of the table names the device. -/
def NamedIn (fstab name : String) : Prop :=
  ∃ line ∈ Text.lines fstab.toList, ∃ rest, NamesDevice line name rest

/-- What the table puts in the place of a device is the identifier of a device found under that
name, or the name of its counterpart. -/
theorem exists_of_fstabSpec {spec : String} (h : fstabSpec devices mapping name = some spec) :
    (∃ device uuid, deviceNamed? devices name = some device ∧ device.uuid = some uuid
        ∧ spec = "UUID=" ++ uuid)
      ∨ ∃ mapped, mapping.counterpart? name = some mapped ∧ spec = "/dev/" ++ mapped.id := by
  rw [fstabSpec] at h
  split at h
  · next uuid huuid =>
    obtain ⟨device, hdevice, huuid⟩ := Option.bind_eq_some_iff.mp huuid
    cases h
    exact .inl ⟨device, uuid, hdevice, huuid, rfl⟩
  · obtain ⟨mapped, hmapped, rfl⟩ := Option.map_eq_some_iff.mp h
    exact .inr ⟨mapped, hmapped, rfl⟩

private theorem all_append_word {word : String} (start : String)
    (hstart : start.toList.all (!Text.isBlank ·)) (hword : word.toList.all (!Text.isBlank ·)) :
    (start ++ word).toList.all (!Text.isBlank ·) := by
  rw [String.toList_append, List.all_append, hstart, hword]
  rfl

/-- The table puts words where no identifier and no name of a counterpart has blanks. -/
theorem putsWords_of_unbroken (orderly : devices.Orderly)
    (identifiers : ∀ device ∈ devices.tree,
      device.uuid.all fun uuid => uuid.toList.all (!Text.isBlank ·))
    (counterparts : ∀ pair ∈ mapping.namePairs, pair.2.toList.all (!Text.isBlank ·)) :
    PutsWords devices mapping := by
  intro name spec hspec
  rcases exists_of_fstabSpec hspec with ⟨device, uuid, hdevice, huuid, rfl⟩ | ⟨mapped, hmapped, rfl⟩
  · have hword := identifiers device (mem_tree_of_deviceNamed? orderly hdevice).1
    rw [huuid, Option.all_some] at hword
    exact all_append_word "UUID=" (by decide) hword
  · have hword := counterparts _ (mem_namePairs_of_counterpart? hmapped)
    exact all_append_word "/dev/" (by decide) hword

/-! ### One line -/

@[simp] theorem rewriteFstabLine_nil : rewriteFstabLine devices mapping [] = [] := rfl

/-- A line names a device, or it is kept. -/
theorem exists_namesDevice_of_ne (h : rewriteFstabLine devices mapping line ≠ line) :
    ∃ name rest, NamesDevice line name rest := by
  by_contra hnone
  refine h ?_
  unfold rewriteFstabLine
  dsimp only
  split
  · rfl
  · next name hname =>
    refine absurd ⟨String.ofList name, (Text.trimStart line).dropWhile (!Text.isBlank ·), ?_⟩ hnone
    have hspec := Text.eq_append_of_afterPrefix hname
    have hfield : ("/dev/" ++ String.ofList name).toList
        = (Text.trimStart line).takeWhile (!Text.isBlank ·) := by
      rw [hspec]
      simp
    refine ⟨?_, ?_, ?_⟩
    · rw [hfield, List.takeWhile_append_dropWhile]
    · rw [hfield]
      exact List.all_takeWhile
    · cases hrest : (Text.trimStart line).dropWhile (!Text.isBlank ·) with
      | nil => rfl
      | cons c rest =>
        have hc := List.head?_dropWhile_not (!Text.isBlank ·) (Text.trimStart line)
        rw [hrest] at hc
        simpa using hc

theorem exists_id_of_fstabSpec {spec : String} (h : fstabSpec devices mapping name = some spec) :
    (∃ uuid, spec = "UUID=" ++ uuid) ∨ ∃ id, spec = "/dev/" ++ id := by
  rcases exists_of_fstabSpec h with ⟨-, uuid, -, -, hspec⟩ | ⟨mapped, -, hspec⟩
  · exact .inl ⟨uuid, hspec⟩
  · exact .inr ⟨mapped.id, hspec⟩

/-- A line that begins with a filesystem identifier is kept. -/
theorem rewriteFstabLine_identifier (uuid rest : List Char) :
    rewriteFstabLine devices mapping ("UUID=".toList ++ uuid ++ rest)
      = "UUID=".toList ++ uuid ++ rest := by
  rfl

/-- **A line that names a device is kept when it is rewritten once more exactly if the device is
settled.** -/
theorem NamesDevice.rewrite_twice_iff (words : PutsWords devices mapping)
    (names : NamesDevice line name rest) :
    rewriteFstabLine devices mapping (rewriteFstabLine devices mapping line)
        = rewriteFstabLine devices mapping line ↔ Settled devices mapping name := by
  rw [names.rewriteFstabLine_eq]
  cases hspec : fstabSpec devices mapping name with
  | none =>
    rw [Option.elim_none, names.rewriteFstabLine_eq, hspec, Option.elim_none, Settled, hspec]
    simp
  | some spec =>
    have hword := words name spec hspec
    rw [Option.elim_some, Settled, hspec]
    rcases exists_id_of_fstabSpec hspec with ⟨uuid, rfl⟩ | ⟨id, rfl⟩
    · rw [String.toList_append, rewriteFstabLine_identifier]
      refine iff_of_true rfl fun id hid => ?_
      have hfirst : some 'U' = some '/' := by
        simpa using congrArg (·.toList.head?) (Option.some.inj hid)
      cases hfirst
    · have hstart : Text.trimStart (("/dev/" ++ id).toList ++ rest)
          = ("/dev/" ++ id).toList ++ rest := by
        rw [String.toList_append]
        rfl
      have again : NamesDevice (("/dev/" ++ id).toList ++ rest) id rest :=
        ⟨hstart, hword, names.ended⟩
      rw [again.rewriteFstabLine_eq]
      cases hagain : fstabSpec devices mapping id with
      | none => simp [hagain]
      | some spec =>
        rw [Option.elim_some, List.append_cancel_right_eq, String.toList_inj]
        constructor
        · rintro rfl id' hid spec' hspec'
          cases String.append_right_inj _ |>.mp (Option.some.inj hid)
          exact Option.some.inj (hspec'.symm.trans hagain)
        · exact fun settled => settled id rfl spec hagain

/-- A line is kept when it is rewritten once more exactly if the device that it names, if it names
one, is settled. -/
theorem rewriteFstabLine_twice_iff (words : PutsWords devices mapping) (line : List Char) :
    rewriteFstabLine devices mapping (rewriteFstabLine devices mapping line)
        = rewriteFstabLine devices mapping line ↔
      ∀ name rest, NamesDevice line name rest → Settled devices mapping name := by
  constructor
  · intro h name rest names
    exact (names.rewrite_twice_iff words).mp h
  · intro h
    by_cases hsame : rewriteFstabLine devices mapping line = line
    · rw [hsame, hsame]
    · obtain ⟨name, rest, names⟩ := exists_namesDevice_of_ne hsame
      exact (names.rewrite_twice_iff words).mpr (h name rest names)

/-! ### The ends of lines -/

/-- What the table puts in the place of a device stands in front of what follows it. -/
theorem exists_word_of_ne (words : PutsWords devices mapping)
    (h : rewriteFstabLine devices mapping line ≠ line) :
    ∃ blanks device spec rest, line = blanks ++ (device ++ rest)
      ∧ device ≠ [] ∧ device.all (!Text.isBlank ·)
      ∧ spec ≠ [] ∧ spec.all (!Text.isBlank ·) ∧ rest.head?.all Text.isBlank
      ∧ rewriteFstabLine devices mapping line = spec ++ rest := by
  obtain ⟨name, rest, names⟩ := exists_namesDevice_of_ne h
  rw [names.rewriteFstabLine_eq] at h ⊢
  cases hspec : fstabSpec devices mapping name with
  | none => exact absurd (by rw [hspec]; rfl) h
  | some spec =>
    have hne : ∀ text : List Char, "/dev/".toList ++ text ≠ [] := by simp
    refine ⟨line.takeWhile Text.isBlank, ("/dev/" ++ name).toList, spec.toList, rest, ?_,
      by rw [String.toList_append]; exact hne _, names.unbroken, ?_,
      words name spec hspec, names.ended, by rw [Option.elim_some]⟩
    · rw [← names.starts, Text.trimStart, List.takeWhile_append_dropWhile]
    · rcases exists_id_of_fstabSpec hspec with ⟨uuid, rfl⟩ | ⟨id, rfl⟩
      all_goals simp

/-- No line is broken by what the table puts in the place of a device. -/
def PutsLines (devices : Devices) (mapping : DeviceMapping) : Prop :=
  ∀ name spec, fstabSpec devices mapping name = some spec → '\n' ∉ spec.toList

theorem PutsWords.putsLines (words : PutsWords devices mapping) : PutsLines devices mapping :=
  fun name spec hspec hmem =>
    absurd (List.all_eq_true.mp (words name spec hspec) _ hmem) (by decide)

/-- Rewriting a line of a table gives one line. -/
theorem notMem_rewriteFstabLine (unbroken : PutsLines devices mapping) (h : '\n' ∉ line) :
    '\n' ∉ rewriteFstabLine devices mapping line := by
  by_cases hsame : rewriteFstabLine devices mapping line = line
  · rwa [hsame]
  · obtain ⟨name, rest, names⟩ := exists_namesDevice_of_ne hsame
    rw [names.rewriteFstabLine_eq]
    cases hspec : fstabSpec devices mapping name with
    | none => exact h
    | some spec =>
      rw [Option.elim_some]
      refine List.not_mem_append (unbroken name spec hspec) fun hmem => h ?_
      have hline : '\n' ∈ Text.trimStart line := by
        rw [names.starts]
        exact List.mem_append_right _ hmem
      exact (List.dropWhile_suffix _).subset hline

theorem getLast?_word_append {word : List Char} (hne : word ≠ [])
    (hword : word.all (!Text.isBlank ·)) (rest : List Char) :
    (word ++ rest).getLast? = some '\r' ↔ rest.getLast? = some '\r' := by
  rw [List.getLast?_append]
  cases hrest : rest.getLast? with
  | some c => simp
  | none =>
    have hc := List.getLast?_eq_some_getLast hne
    have hblank := List.all_eq_true.mp hword _ (List.getLast_mem hne)
    have hlast : word.getLast hne ≠ '\r' := by
      intro hlast
      rw [hlast] at hblank
      exact absurd hblank (by decide)
    simp [hc, hlast]

/-- Rewriting a line keeps a carriage return at its end, and puts none there. -/
theorem getLast?_rewriteFstabLine (words : PutsWords devices mapping) :
    (rewriteFstabLine devices mapping line).getLast? = some '\r' ↔ line.getLast? = some '\r' := by
  by_cases hsame : rewriteFstabLine devices mapping line = line
  · rw [hsame]
  · obtain ⟨blanks, device, spec, rest, rfl, hne, hdevice, hspecne, hspec, -, heq⟩ :=
      exists_word_of_ne words hsame
    rw [heq, getLast?_word_append hspecne hspec]
    have hfull := getLast?_word_append hne hdevice rest
    rw [List.getLast?_append]
    cases hlast : (device ++ rest).getLast? with
    | some c =>
      rw [hlast] at hfull
      rw [← hfull]
      simp
    | none => simp [hne] at hlast

/-- A line that lost a carriage return does not get it back. -/
theorem rewriteFstabLine_ne_concat (words : PutsWords devices mapping) :
    rewriteFstabLine devices mapping line ≠ line ++ ['\r'] := by
  intro h
  by_cases hsame : rewriteFstabLine devices mapping line = line
  · rw [hsame] at h
    simpa using congrArg List.length h
  · obtain ⟨blanks, device, spec, rest, rfl, -, -, -, hspec, hrest, heq⟩ :=
      exists_word_of_ne words hsame
    rw [heq, ← List.append_assoc, List.append_assoc, List.append_eq_append_iff] at h
    rcases h with ⟨more, -, hmore⟩ | ⟨more, hword, hmore⟩
    · have hlength := congrArg List.length hmore
      simp at hlength
      omega
    · -- The word would have to go on with a blank.
      cases more with
      | nil => simpa using congrArg List.length hmore
      | cons c more =>
        have hc : (rest ++ ['\r']).head? = some c := by rw [hmore]; rfl
        have hblank : Text.isBlank c := by
          cases rest with
          | nil => cases hc; decide
          | cons d rest => cases hc; exact hrest
        have hword := List.all_eq_true.mp hspec c (by simp [hword])
        simp [hblank] at hword

/-- A line in front of a newline is kept exactly if it is kept on its own and does not end with a
carriage return. -/
theorem rewriteFstabLine_ended_iff (words : PutsWords devices mapping) (line : List Char) :
    rewriteFstabLine devices mapping (Text.withoutReturn (rewriteFstabLine devices mapping line))
        = rewriteFstabLine devices mapping line ↔
      rewriteFstabLine devices mapping (rewriteFstabLine devices mapping line)
          = rewriteFstabLine devices mapping line ∧ line.getLast? ≠ some '\r' := by
  by_cases hlast : line.getLast? = some '\r'
  · refine iff_of_false (fun h => ?_) fun h => h.2 hlast
    obtain ⟨start, hstart⟩ :=
      List.getLast?_eq_some_iff.mp ((getLast?_rewriteFstabLine words).mpr hlast)
    rw [hstart, Text.withoutReturn_concat] at h
    exact rewriteFstabLine_ne_concat words h
  · have hkept := (getLast?_rewriteFstabLine words).not.mpr hlast
    rw [Text.withoutReturn_of_getLast?_ne hkept]
    exact (and_iff_left hlast).symm

/-! ### The table -/

section

variable {fstab : String} {ended : List (List Char)} {last : List Char}

/-- The table for the target, by the pieces of the table of the source. -/
theorem retargetFstab_toList (h : Text.splitOn '\n' fstab.toList = ended ++ [last]) :
    (retargetFstab fstab devices mapping).toList = Text.joinWith ['\n']
      (ended.map (fun piece => rewriteFstabLine devices mapping (Text.withoutReturn piece))
        ++ [rewriteFstabLine devices mapping last]) := by
  have hnewline := Text.getLast?_eq_newline_iff h
  unfold retargetFstab
  dsimp only
  rw [Text.lines_eq h, String.toList_ofList]
  by_cases hlast : last = []
  · rw [if_pos hlast, List.append_nil, List.map_map]
    by_cases hended : ended = []
    · rw [if_neg (by simp [hnewline, hended]), hended, hlast]
      rfl
    · rw [if_pos (hnewline.mpr ⟨hlast, hended⟩), hlast, rewriteFstabLine_nil]
      rfl
  · rw [if_neg hlast, if_neg (by simp [hnewline, hlast]), List.map_append, List.map_map]
    rfl

theorem PutsLines.splitOn_eq (unbroken : PutsLines devices mapping)
    (h : Text.splitOn '\n' fstab.toList = ended ++ [last]) :
    Text.splitOn '\n' (retargetFstab fstab devices mapping).toList =
      ended.map (fun piece => rewriteFstabLine devices mapping (Text.withoutReturn piece))
        ++ [rewriteFstabLine devices mapping last] := by
  have hpieces : ∀ piece ∈ ended ++ [last], '\n' ∉ piece := fun piece hmem =>
    Text.notMem_of_mem_splitOn (h ▸ hmem)
  rw [retargetFstab_toList h]
  refine Text.splitOn_joinWith (by simp) fun piece hmem => ?_
  rcases List.mem_append.mp hmem with hmem | hmem
  · obtain ⟨piece, hpiece, rfl⟩ := List.mem_map.mp hmem
    exact notMem_rewriteFstabLine unbroken
      (Text.notMem_withoutReturn (hpieces piece (List.mem_append_left _ hpiece)))
  · rw [List.mem_singleton.mp hmem]
    exact notMem_rewriteFstabLine unbroken (hpieces last (by simp))

theorem splitOn_retargetFstab (words : PutsWords devices mapping)
    (h : Text.splitOn '\n' fstab.toList = ended ++ [last]) :
    Text.splitOn '\n' (retargetFstab fstab devices mapping).toList =
      ended.map (fun piece => rewriteFstabLine devices mapping (Text.withoutReturn piece))
        ++ [rewriteFstabLine devices mapping last] :=
  words.putsLines.splitOn_eq h

/-- The lines of a table name settled devices exactly if its pieces do. -/
theorem forall_namedIn_iff (h : Text.splitOn '\n' fstab.toList = ended ++ [last]) :
    (∀ name, NamedIn fstab name → Settled devices mapping name) ↔
      (∀ piece ∈ ended, ∀ name rest, NamesDevice (Text.withoutReturn piece) name rest →
        Settled devices mapping name)
      ∧ ∀ name rest, NamesDevice last name rest → Settled devices mapping name := by
  have hlines : ∀ line, line ∈ Text.lines fstab.toList ↔
      (∃ piece ∈ ended, Text.withoutReturn piece = line) ∨ line ≠ [] ∧ line = last := by
    intro line
    rw [Text.lines_eq h, List.mem_append, List.mem_map]
    split
    · next hlast => simp [hlast]
    · next hlast =>
      rw [List.mem_singleton]
      exact or_congr Iff.rfl ⟨fun hline => ⟨hline ▸ hlast, hline⟩, And.right⟩
  constructor
  · refine fun settled => ⟨fun piece hpiece name rest names => ?_, fun name rest names => ?_⟩
    · exact settled name ⟨_, (hlines _).mpr (.inl ⟨piece, hpiece, rfl⟩), rest, names⟩
    · refine settled name ⟨last, (hlines _).mpr (.inr ⟨?_, rfl⟩), rest, names⟩
      rintro rfl
      have hstart : [] = ("/dev/" ++ name).toList ++ rest := names.starts
      simp at hstart
  · rintro ⟨hended, hlast⟩ name ⟨line, hline, rest, names⟩
    rcases (hlines line).mp hline with ⟨piece, hpiece, rfl⟩ | ⟨-, rfl⟩
    · exact hended piece hpiece name rest names
    · exact hlast name rest names

/-- **Rewriting the rewritten table changes nothing exactly if every device that a line names is
settled and no line keeps a carriage return in front of its newline.**  In particular a device
without a filesystem identifier must not be named by a counterpart whose name the source has for a
device that is named in another way. -/
theorem retargetFstab_twice_iff (words : PutsWords devices mapping) (fstab : String) :
    retargetFstab (retargetFstab fstab devices mapping) devices mapping
        = retargetFstab fstab devices mapping ↔
      (∀ name, NamedIn fstab name → Settled devices mapping name)
        ∧ ¬ ['\r', '\r', '\n'] <:+: fstab.toList := by
  obtain ⟨ended, last, h⟩ := Text.exists_splitOn_eq_concat '\n' fstab.toList
  have honce := splitOn_retargetFstab words h
  have htwice := splitOn_retargetFstab words honce
  have hpieces : retargetFstab (retargetFstab fstab devices mapping) devices mapping
        = retargetFstab fstab devices mapping ↔
      Text.splitOn '\n' (retargetFstab (retargetFstab fstab devices mapping) devices mapping).toList
        = Text.splitOn '\n' (retargetFstab fstab devices mapping).toList := by
    refine ⟨fun heq => by rw [heq], fun heq => String.toList_inj.mp ?_⟩
    have hjoin := congrArg (Text.joinWith ['\n']) heq
    rwa [Text.joinWith_splitOn, Text.joinWith_splitOn] at hjoin
  have hlast := rewriteFstabLine_twice_iff words last
  have hended : ∀ piece, _ ↔ _ := fun piece =>
    (rewriteFstabLine_ended_iff words (Text.withoutReturn piece)).trans
      (and_congr_left' (rewriteFstabLine_twice_iff words _))
  rw [hpieces, htwice, honce, forall_namedIn_iff h, Text.returns_infix_iff h, List.map_map]
  constructor
  · intro heq
    obtain ⟨hmap, hsame⟩ := List.append_inj' heq rfl
    have hkept := fun piece hpiece => (hended piece).mp (List.map_inj_left.mp hmap piece hpiece)
    exact ⟨⟨fun piece hpiece => (hkept piece hpiece).1, hlast.mp (List.singleton_inj.mp hsame)⟩,
      fun ⟨piece, hpiece, hreturn⟩ => (hkept piece hpiece).2 hreturn⟩
  · rintro ⟨⟨hsettled, hsame⟩, hreturns⟩
    rw [hlast.mpr hsame]
    refine congrArg (· ++ _) (List.map_inj_left.mpr fun piece hpiece => ?_)
    exact (hended piece).mpr
      ⟨hsettled piece hpiece, fun hreturn => hreturns ⟨piece, hpiece, hreturn⟩⟩

end

end

/-- Two disks whose names move up by one on the target: swap space beside the root filesystem, and
data on the second partition of the other disk. -/
def shiftedDevices : Devices :=
  [("vda", { blank "vda" 10 with children :=
    [("vda1", { blank "vda1" 8 with fs := "ext4", uuid := "0f3a", mountpoint := "/" }),
      ("vda2", { blank "vda2" 2 with fs := "swap", mountpoint := "[SWAP]" })] }),
    ("vdb", { blank "vdb" 20 with children :=
      [("vdb1", { blank "vdb1" 8 with fs := "ext4", uuid := "5c20", mountpoint := "/srv" }),
        ("vdb2", { blank "vdb2" 12 with fs := "ext4", uuid := "77aa", mountpoint := "/var" })] })]

/-- The bootstrap disk and empty disks for `shiftedDevices`. -/
def shiftedTarget : Devices :=
  [("vda", { blank "vda" 10 with fs := "ext4" }), ("vdb", blank "vdb" 10), ("vdc", blank "vdc" 20)]

/-- Counterparts of `shiftedDevices` with these mount directories. -/
def shiftedBy (root srv var : String) : DeviceMapping :=
  [("vda", ⟨"vdb", "", [("vda1", ⟨"vdb1", root, []⟩), ("vda2", ⟨"vdb2", "", []⟩)]⟩),
    ("vdb", ⟨"vdc", "", [("vdb1", ⟨"vdc1", srv, []⟩), ("vdb2", ⟨"vdc2", var, []⟩)]⟩)]

/-- The counterparts of `shiftedDevices` on `shiftedTarget`. -/
def shiftedMapping : DeviceMapping :=
  shiftedBy (mountDirectory (some "/") false) (mountDirectory (some "/srv") false)
    (mountDirectory (some "/var") false)

theorem orderly_shiftedDevices : shiftedDevices.Orderly := by
  have hsorted : ∀ entry ∈ shiftedDevices, Dict.Sorted entry.2.children := by
    unfold Dict.Sorted
    decide +kernel
  refine .intro (by unfold Dict.Sorted; decide +kernel) (by decide) fun entry hmem => ?_
  exact .of_childless (hsorted entry hmem) (by revert entry; decide) (by revert entry; decide)

theorem ofDevices_shiftedDevices : ofDevices shiftedDevices shiftedTarget = .ok shiftedMapping := by
  with_unfolding_all rfl

theorem putsWords_shiftedMapping : PutsWords shiftedDevices shiftedMapping :=
  putsWords_of_unbroken orderly_shiftedDevices (by decide +kernel) (by decide +kernel)

/-- A table that names the swap space by its device. -/
def swapFstab : String := "/dev/vda2 none swap sw 0 0\n"

/-- A table of the shifted disks is kept if it names settled devices only. -/
theorem swapFstab_twice_iff :
    ofDevices shiftedDevices shiftedTarget = .ok shiftedMapping
      ∧ PutsWords shiftedDevices shiftedMapping
      ∧ (retargetFstab (retargetFstab swapFstab shiftedDevices shiftedMapping) shiftedDevices
            shiftedMapping = retargetFstab swapFstab shiftedDevices shiftedMapping ↔
          (∀ name, NamedIn swapFstab name → Settled shiftedDevices shiftedMapping name)
            ∧ ¬ ['\r', '\r', '\n'] <:+: swapFstab.toList) :=
  ⟨ofDevices_shiftedDevices, putsWords_shiftedMapping,
    retargetFstab_twice_iff putsWords_shiftedMapping swapFstab⟩

theorem retarget_swapFstab (root srv var : String) :
    retargetFstab swapFstab shiftedDevices (shiftedBy root srv var)
        = "/dev/vdb2 none swap sw 0 0\n"
      ∧ retargetFstab "/dev/vdb2 none swap sw 0 0\n" shiftedDevices (shiftedBy root srv var)
        = "UUID=77aa none swap sw 0 0\n" :=
  ⟨by cbv, by cbv⟩

/-- The swap space of the shifted disks is named by its counterpart first, and then by the
identifier of the data that the source has under that name. -/
theorem shifted_swap_renamed_twice :
    ¬ ∀ (source target : Devices) (mapping : DeviceMapping) (fstab : String),
      ofDevices source target = .ok mapping →
      retargetFstab (retargetFstab fstab source mapping) source mapping
        = retargetFstab fstab source mapping := by
  intro h
  have hagain := h _ _ _ swapFstab ofDevices_shiftedDevices
  obtain ⟨honce, htwice⟩ := retarget_swapFstab (mountDirectory (some "/") false)
    (mountDirectory (some "/srv") false) (mountDirectory (some "/var") false)
  rw [shiftedMapping, honce, htwice] at hagain
  exact absurd hagain (by decide)

end ServerMigration
