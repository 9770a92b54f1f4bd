import ServerMigration.Migration.SystemConfig
import ServerMigration.Proofs.Migration.Substitution
import ServerMigration.Proofs.Text.Lines

/-!
# Addresses that are replaced in turn

The step that moves the interfaces to their new addresses replaces one address after another in the
files of the network configuration.  An address that one replacement puts in may be the old one of
a later replacement, which then replaces it again.

## Main definitions

* `Grouped` : texts like addresses, a number of words with a mark between two of them.
* `sharedReplacements` : the replacements made in a file that all migrated interfaces share.
* `ChainFree` : no replacement puts in an address that a later one replaces.

## Main results

* `adjustInterface_eq` : the replacements are those that the step makes.
* `sameValue_of_standsAt_of_isAddress` : addresses do not stand within other addresses.
* `sharedReplacements_in_turn` : what becomes of every address, and when that is what would become
  of it if all replacements were made together.
* `shifted_address_replaced_twice` : addresses that move up by one are replaced again.
-/

namespace ServerMigration

/-! ### Values with marks -/

/-- A value of words with marks between them. -/
structure Grouped (mark : Char) (marks : Nat) (value : List Char) : Prop where
  /-- The number of marks. -/
  count : value.count mark = marks
  /-- There is nothing but words and marks. -/
  parts : ∀ c ∈ value, isWordChar c ∨ c = mark
  /-- A word begins the value and one ends it. -/
  ends : value.head?.any isWordChar ∧ value.getLast?.any isWordChar

theorem grouped_joinWith (mark : Char) (hmark : ¬ isWordChar mark) {words : List (List Char)}
    (hne : words ≠ []) (h : ∀ word ∈ words, word ≠ [] ∧ word.all isWordChar) :
    Grouped mark (words.length - 1) (Text.joinWith [mark] words) := by
  induction words with
  | nil => exact absurd rfl hne
  | cons word words ih =>
    obtain ⟨⟨hword, hchars⟩, hwords⟩ := List.forall_mem_cons.mp h
    have hchars := List.all_eq_true.mp hchars
    have hcount : word.count mark = 0 :=
      List.count_eq_zero.mpr fun hmem => hmark (hchars mark hmem)
    have hfirst : word.head?.any isWordChar := by
      rw [List.head?_eq_some_head hword]
      exact hchars _ (List.head_mem hword)
    cases words with
    | nil =>
      rw [Text.joinWith_singleton]
      refine ⟨hcount, fun c hc => .inl (hchars c hc), hfirst, ?_⟩
      rw [List.getLast?_eq_some_getLast hword]
      exact hchars _ (List.getLast_mem hword)
    | cons next words =>
      have rest := ih (List.cons_ne_nil _ _) hwords
      rw [Text.joinWith_cons _ (List.cons_ne_nil _ _)]
      refine ⟨?_, ?_, ?_, ?_⟩
      · rw [List.count_append, List.count_cons_self, hcount, rest.count]
        simp
      · simp only [List.mem_append, List.mem_cons]
        rintro c (hc | rfl | hc)
        · exact .inl (hchars c hc)
        · exact .inr rfl
        · exact rest.parts c hc
      · rw [List.head?_append, List.head?_eq_some_head hword]
        rwa [List.head?_eq_some_head hword] at hfirst
      · have hlast := rest.ends.2
        cases hrest : (Text.joinWith [mark] (next :: words)).getLast? with
        | none => simp [hrest] at hlast
        | some c => simpa [List.getLast?_append, List.getLast?_cons, hrest] using hlast

/-- Marks are not letters. -/
theorem count_map_toLower {mark : Char} (hmark : ¬ isWordChar mark) (value : List Char) :
    (value.map Char.toLower).count mark = value.count mark := by
  rw [List.count_eq_countP, List.countP_map, List.count_eq_countP]
  refine List.countP_congr fun c _ => ?_
  simp only [Function.comp_apply, beq_iff_eq]
  constructor
  · intro h
    have hc : ¬ isWordChar c := by rwa [← isWordChar_toLower, h]
    rwa [toLower_of_not_isWordChar hc] at h
  · rintro rfl
    exact toLower_of_not_isWordChar hmark

/-- **A value that stands in another of its kind is that other.** -/
theorem Grouped.sameValue_of_standsAt {mark other : Char} {marks others : Nat}
    {value run before rest : List Char} (grouped : Grouped mark marks value)
    (surrounding : Grouped other others run) (hmark : ¬ isWordChar mark) (hmarks : marks ≠ 0)
    (hkind : mark = other → marks = others) (hrun : run = before ++ rest)
    (h : standsAt value before.getLast? rest) : SameValue run value := by
  obtain ⟨hne, hbefore, found, after, rfl, hsame, hafter⟩ := standsAt_iff.mp h
  have hfound : found.count mark = marks := by
    rw [← grouped.count, ← count_map_toLower hmark, hsame, count_map_toLower hmark]
  have hother : mark = other := by
    have hmem : mark ∈ found := List.count_pos_iff.mp (by omega)
    exact (surrounding.parts mark (by simp [hrun, hmem])).resolve_left hmark
  subst hother
  have hcount := surrounding.count
  rw [hrun, List.count_append, List.count_append, hfound, ← hkind rfl] at hcount
  -- All marks are taken, so there are only words in front of the value and behind it.
  have hwords : ∀ text : List Char, (∀ c ∈ text, c ∈ run) → text.count mark = 0 →
      ∀ c ∈ text, isWordChar c := fun text hsub hnone c hc =>
    (surrounding.parts c (hsub c hc)).resolve_right fun heq =>
      List.count_eq_zero.mp hnone (heq ▸ hc)
  have hbeforeNil : before = [] := by
    refine Decidable.byContradiction fun hne => ?_
    have hlast := hwords before (by simp +contextual [hrun]) (by omega) _ (List.getLast_mem hne)
    have hfirst : (found ++ after).head?.any isWordChar := by
      have hhead := hsame.any_head? _ isWordChar_toLower
      rw [grouped.ends.1] at hhead
      cases found with
      | nil => simp at hhead
      | cons c found => exact hhead
    rw [atBoundary, List.getLast?_eq_some_getLast hne, Option.any_some, hlast, hfirst] at hbefore
    exact absurd hbefore (by decide)
  have hafterNil : after = [] := by
    refine Decidable.byContradiction fun hne => ?_
    have hfirst := hwords after (by simp +contextual [hrun]) (by omega) _ (List.head_mem hne)
    have hlast := hsame.any_getLast? _ isWordChar_toLower
    rw [grouped.ends.2] at hlast
    rw [atBoundary, List.head?_eq_some_head hne, Option.any_some, hfirst, hlast] at hafter
    exact absurd hafter (by decide)
  rwa [hrun, hbeforeNil, hafterNil, List.nil_append, List.append_nil]

/-! ### Addresses -/

/-- A hardware address: six bytes in hexadecimal digits. -/
def isHardwareAddress (address : List Char) : Bool :=
  let parts := Text.splitOn ':' address
  parts.length = 6
    && parts.all fun part => part.length = 2 && part.all fun c => (Text.hexValue? c).isSome

theorem isWordChar_of_isDigit {c : Char} (h : c.isDigit) : isWordChar c := by
  simp [isWordChar, Char.isAlphanum, h]

theorem digits_of_isOctet {part : List Char} (h : isOctet part) :
    part ≠ [] ∧ ∀ c ∈ part, c.isDigit := by
  simp only [isOctet, Text.readDigits, Bool.and_eq_true, Option.any_eq_true] at h
  obtain ⟨-, n, hn, -⟩ := h
  split at hn
  · next hdigits => simpa using hdigits
  · cases hn

theorem grouped_of_isIpv4 {address : List Char} (h : isIpv4 address) : Grouped '.' 3 address := by
  simp only [isIpv4, Bool.and_eq_true, decide_eq_true_eq, List.all_eq_true] at h
  obtain ⟨hlength, hoctets⟩ := h
  have hgrouped := grouped_joinWith '.' (by decide) (Text.splitOn_ne_nil address)
    fun part hpart => by
      obtain ⟨hne, hdigits⟩ := digits_of_isOctet (hoctets part hpart)
      exact ⟨hne, List.all_eq_true.mpr fun c hc => isWordChar_of_isDigit (hdigits c hc)⟩
  rwa [Text.joinWith_splitOn, hlength] at hgrouped

/-- There are no letters in an IPv4 address. -/
theorem map_toLower_of_isIpv4 {address : List Char} (h : isIpv4 address) :
    address.map Char.toLower = address := by
  simp only [isIpv4, Bool.and_eq_true, List.all_eq_true] at h
  refine (List.map_congr_left fun c hc => ?_).trans (List.map_id _)
  rw [← Text.joinWith_splitOn '.' address] at hc
  refine toLower_of_not_isUpper ?_
  rcases Text.mem_joinWith hc with rfl | ⟨part, hpart, hc⟩
  · decide
  · have hdigit := (digits_of_isOctet (h.2 part hpart)).2 c hc
    simp only [Char.isDigit, Char.isUpper, Bool.and_eq_true, decide_eq_true_eq,
      UInt32.le_iff_toNat_le, ge_iff_le] at hdigit ⊢
    have h9 : '9'.val.toNat = 57 := rfl
    have hA : 'A'.val.toNat = 65 := rfl
    omega

theorem isWordChar_of_hexValue? {c : Char} (h : (Text.hexValue? c).isSome) : isWordChar c := by
  have hletter : c.isLower ∨ c.isUpper → isWordChar c := by
    rintro (h | h)
    · simp [isWordChar, Char.isAlphanum, Char.isAlpha, h]
    · simp [isWordChar, Char.isAlphanum, Char.isAlpha, h]
  unfold Text.hexValue? at h
  split at h
  · next hdigit => exact isWordChar_of_isDigit hdigit
  · split at h
    · next hlower =>
      have hz : c ≤ 'z' := Char.le_trans hlower.2 (by decide)
      exact hletter (.inl (by simpa [Char.isLower] using ⟨hlower.1, hz⟩))
    · split at h
      · next hupper =>
        have hZ : c ≤ 'Z' := Char.le_trans hupper.2 (by decide)
        exact hletter (.inr (by simpa [Char.isUpper] using ⟨hupper.1, hZ⟩))
      · cases h

theorem grouped_of_isHardwareAddress {address : List Char} (h : isHardwareAddress address) :
    Grouped ':' 5 address := by
  simp only [isHardwareAddress, Bool.and_eq_true, decide_eq_true_eq, List.all_eq_true] at h
  obtain ⟨hlength, hparts⟩ := h
  have hgrouped := grouped_joinWith ':' (by decide) (Text.splitOn_ne_nil address)
    fun part hpart => by
      obtain ⟨htwo, hdigits⟩ := hparts part hpart
      refine ⟨?_, List.all_eq_true.mpr fun c hc => isWordChar_of_hexValue? (hdigits c hc)⟩
      rintro rfl
      simp at htwo
  rwa [Text.joinWith_splitOn, hlength] at hgrouped

/-- An address of one of the two kinds. -/
def isAddress (value : List Char) : Bool := isIpv4 value || isHardwareAddress value

theorem exists_grouped_of_isAddress {value : List Char} (h : isAddress value) :
    ∃ mark marks, (mark, marks) ∈ [('.', 3), (':', 5)] ∧ Grouped mark marks value := by
  rcases Bool.or_eq_true_iff.mp h with h | h
  · exact ⟨'.', 3, by decide, grouped_of_isIpv4 h⟩
  · exact ⟨':', 5, by decide, grouped_of_isHardwareAddress h⟩

/-- **An address does not stand within another address.** -/
theorem sameValue_of_standsAt_of_isAddress {value run before rest : List Char}
    (hvalue : isAddress value) (hrun : isAddress run) (hcut : run = before ++ rest)
    (h : standsAt value before.getLast? rest) : SameValue run value := by
  obtain ⟨mark, marks, hkind, grouped⟩ := exists_grouped_of_isAddress hvalue
  obtain ⟨other, others, hother, surrounding⟩ := exists_grouped_of_isAddress hrun
  have hmark : ¬ isWordChar mark ∧ marks ≠ 0 ∧ (mark = other → marks = others) := by
    simp only [List.mem_cons, Prod.mk.injEq, List.not_mem_nil, or_false] at hkind hother
    rcases hkind with ⟨rfl, rfl⟩ | ⟨rfl, rfl⟩ <;> rcases hother with ⟨rfl, rfl⟩ | ⟨rfl, rfl⟩
    all_goals decide
  exact grouped.sameValue_of_standsAt surrounding hmark.1 hmark.2.1 hmark.2.2 hcut h

/-- Replacements of addresses by addresses. -/
theorem proper_of_isAddress {rs : List Replacement}
    (h : ∀ r ∈ rs, isAddress r.old.toList ∧ isAddress r.new.toList) : Replacement.Proper rs := by
  have solitary : ∀ value, isAddress value → Solitary rs value := by
    intro value hvalue r hr
    by_cases hsame : SameValue value r.old.toList
    · exact .inl hsame
    · exact .inr fun before rest hcut hstands =>
        hsame (sameValue_of_standsAt_of_isAddress (h r hr).1 hvalue hcut hstands)
  refine ⟨fun r hr => ?_, fun r hr => solitary _ (h r hr).1, fun r hr => solitary _ (h r hr).2⟩
  obtain ⟨_, _, -, grouped⟩ := exists_grouped_of_isAddress (h r hr).1
  exact grouped.ends

/-! ### The replacements of a shared file -/

/-- The replacements for an interface, if it has a counterpart. -/
def interfaceReplacements (nics : List NicInfo) (interface : NetworkInterface) :
    List Replacement :=
  match nics.find? (·.name = interface.name) with
  | none => []
  | some nic => addressReplacements interface.ips interface.mac nic.ips nic.mac

/-- The replacements that are made, in this order, in a file that all interfaces share. -/
def sharedReplacements (interfaces : List NetworkInterface) (nics : List NicInfo) :
    List Replacement :=
  interfaces.flatMap (interfaceReplacements nics)

/-- These are the replacements that the step makes in the files of an interface. -/
theorem adjustInterface_eq (s : Source) (target : RemoteHost) (table : MountTable)
    (nics : List NicInfo) (interface : NetworkInterface) :
    Work.adjustInterface s target table nics interface
      = if (interfaceReplacements nics interface).isEmpty then return ()
        else (s.remoteHost.os.networkFiles interface.name).forM
          (Work.adjustConfigFile target table (interfaceReplacements nics interface)) := by
  unfold Work.adjustInterface interfaceReplacements
  cases nics.find? (·.name = interface.name) with
  | none => rfl
  | some nic => rfl

/-- Hardware addresses are six bytes in hexadecimal digits. -/
def ProperMacs (interfaces : List NetworkInterface) (nics : List NicInfo) : Prop :=
  (∀ interface ∈ interfaces, interface.mac.all (isHardwareAddress ·.toList))
    ∧ ∀ nic ∈ nics, nic.mac.all (isHardwareAddress ·.toList)

theorem isIpv4_of_mem_ipv4Only {ips : List String} {ip : String} (h : ip ∈ ipv4Only ips) :
    isIpv4 ip.toList := by
  obtain ⟨address, haddress, rfl⟩ := List.mem_map.mp h
  rw [String.toList_ofList]
  exact (List.mem_filter.mp haddress).2

/-- The replacements of an interface replace addresses by other addresses. -/
theorem isAddress_of_mem_addressReplacements {sourceIps targetIps : List String}
    {sourceMac targetMac : Option String} {r : Replacement}
    (hsource : sourceMac.all (isHardwareAddress ·.toList))
    (htarget : targetMac.all (isHardwareAddress ·.toList))
    (h : r ∈ addressReplacements sourceIps sourceMac targetIps targetMac) :
    (isAddress r.old.toList ∧ isAddress r.new.toList) ∧ ¬ SameValue r.old.toList r.new.toList := by
  rw [addressReplacements, List.mem_append, List.mem_map] at h
  rcases h with ⟨⟨old, new⟩, hpair, rfl⟩ | h
  · obtain ⟨hpair, hne⟩ := List.mem_filter.mp hpair
    obtain ⟨hold, hnew⟩ := List.of_mem_zip hpair
    have hold := isIpv4_of_mem_ipv4Only hold
    have hnew := isIpv4_of_mem_ipv4Only hnew
    refine ⟨⟨by rw [isAddress, hold, Bool.true_or], by rw [isAddress, hnew, Bool.true_or]⟩, ?_⟩
    rw [SameValue, map_toLower_of_isIpv4 hold, map_toLower_of_isIpv4 hnew, String.toList_inj]
    exact of_decide_eq_true hne
  · unfold macReplacement at h
    split at h
    · next old new =>
      split at h
      · simp at h
      · next hne =>
        rw [List.mem_singleton.mp h, isAddress, isAddress, Option.all_some.symm.trans hsource,
          Option.all_some.symm.trans htarget, Bool.or_true, Bool.or_true]
        exact ⟨⟨rfl, rfl⟩, by simpa [equalIgnoringCase] using hne⟩
    · simp at h

section

variable {interfaces : List NetworkInterface} {nics : List NicInfo}

theorem isAddress_of_mem_sharedReplacements (macs : ProperMacs interfaces nics) {r : Replacement}
    (h : r ∈ sharedReplacements interfaces nics) :
    (isAddress r.old.toList ∧ isAddress r.new.toList) ∧ ¬ SameValue r.old.toList r.new.toList := by
  obtain ⟨interface, hinterface, hr⟩ := List.mem_flatMap.mp h
  unfold interfaceReplacements at hr
  split at hr
  · simp at hr
  · next nic hnic =>
    exact isAddress_of_mem_addressReplacements (macs.1 interface hinterface)
      (macs.2 nic (List.mem_of_find?_eq_some hnic)) hr

/-- No replacement puts in a value that a later one replaces. -/
def ChainFree (rs : List Replacement) : Prop :=
  rs.Pairwise fun r later => ¬ SameValue r.new.toList later.old.toList

/-- No value is replaced twice in the list. -/
def OnceEach (rs : List Replacement) : Prop :=
  rs.Pairwise fun r later => ¬ SameValue r.old.toList later.old.toList

/-- **Addresses replaced in turn.**  In a file whose addresses stand apart every address ends as
`finalValue`, where making the replacements together would make it `newValue`.  The two agree on all
such files exactly if they agree on each of the old addresses, and if no address is replaced twice
in the list, exactly if no replacement puts in an address that a later one replaces. -/
theorem sharedReplacements_in_turn (macs : ProperMacs interfaces nics) :
    let rs := sharedReplacements interfaces nics
    (∀ text, StandsApart rs text →
      replaceInTurn rs text = Text.mapRuns (Replacement.isPart rs) (finalValue rs) text
        ∧ replaceAtOnce rs text = Text.mapRuns (Replacement.isPart rs) (newValue rs) text)
    ∧ ((∀ text, StandsApart rs text → replaceInTurn rs text = replaceAtOnce rs text) ↔
        ∀ r ∈ rs, finalValue rs r.old.toList = newValue rs r.old.toList)
    ∧ (OnceEach rs → (∀ r ∈ rs, newValue rs r.old.toList = r.new.toList)
        ∧ ((∀ text, StandsApart rs text → replaceInTurn rs text = replaceAtOnce rs text) ↔
          ChainFree rs)) := by
  intro rs
  have proper : Replacement.Proper rs :=
    proper_of_isAddress fun r hr => (isAddress_of_mem_sharedReplacements macs hr).1
  have hiff := replaceInTurn_eq_replaceAtOnce_iff proper
  refine ⟨fun text apart => ?_, hiff, fun once => ⟨fun r hr => ?_, ?_⟩⟩
  · exact ⟨replaceInTurn_of_standsApart proper apart, replaceAtOnce_of_standsApart proper apart⟩
  · exact newValue_of_mem once hr
  · exact hiff.trans (forall_finalValue_eq_iff once fun r hr =>
      (isAddress_of_mem_sharedReplacements macs hr).2)

end

/-- The interfaces of a source whose addresses move up by one on the target. -/
def shiftedInterfaces : List NetworkInterface :=
  [⟨"eth0", some "02:00:00:00:00:0A", ["10.0.0.11/24", "10.0.0.12/24"], none⟩]

/-- The interfaces of the target. -/
def shiftedNics : List NicInfo :=
  [⟨"nic-1", "eth0", 1, ["10.0.0.12", "10.0.0.13"], some "02:00:00:00:00:0b"⟩]

theorem shiftedAddresses_in_turn :
    ¬ ∀ text, StandsApart (sharedReplacements shiftedInterfaces shiftedNics) text →
      replaceInTurn (sharedReplacements shiftedInterfaces shiftedNics) text
        = replaceAtOnce (sharedReplacements shiftedInterfaces shiftedNics) text := by
  have macs : ProperMacs shiftedInterfaces shiftedNics := by
    unfold ProperMacs
    decide +kernel
  intro h
  have chain := ((sharedReplacements_in_turn macs).2.2 (by unfold OnceEach; decide +kernel)).2.mp h
  unfold ChainFree at chain
  revert chain
  decide +kernel

/-- **The address that the first replacement puts in is replaced again by the second.** -/
theorem shifted_address_replaced_twice :
    let rs := sharedReplacements shiftedInterfaces shiftedNics
    let text := "address 10.0.0.11/24".toList
    replaceAtOnce rs text = "address 10.0.0.12/24".toList
      ∧ replaceInTurn rs text = "address 10.0.0.13/24".toList := by
  decide +kernel

end ServerMigration
