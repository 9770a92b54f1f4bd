import Mathlib.Data.List.Basic
import ServerMigration.Text.Template

/-!
# The placeholders of a template

Rendering goes through a template once and looks for the key of a placeholder behind each opening
brace.  What comes out does not depend on that search: a placeholder with a known key cannot overlap
another one, for no key has a brace in it, so all of them can be replaced at once.  Which characters
are replaced depends on the keys only; a value is nowhere read.

## Main definitions

* `Template.Piece` : a character that is kept, or a placeholder.
* `Template.Marks` : the pieces of a text whose slots are all occurrences of known placeholders.
* `Template.pieces` : these pieces, found in one pass.

## Main results

* `Template.renderFrom_eq_filled` : rendering fills the slots among the pieces.
* `Template.marks_pieces`, `Template.Marks.unique` : there is one way to mark a text.
* `Template.render_replaces_at_once` : rendering replaces all known placeholders at once.
-/

namespace ServerMigration.Text.Template

/-! ### Pieces of a template -/

/-- A piece of a template. -/
inductive Piece
  /-- A character that is kept. -/
  | kept (c : Char)
  /-- A placeholder that is replaced. -/
  | slot (key : String)
  deriving DecidableEq, Repr

namespace Piece

/-- A piece as it stands in the template. -/
def source : Piece → List Char
  | kept c => [c]
  | slot key => '{' :: key.toList ++ ['}']

/-- What stands for a piece in the rendered text: for a placeholder the first value of its key. -/
def filled (values : List (String × String)) : Piece → List Char
  | kept c => [c]
  | slot key => ((values.lookup key).getD "").toList

theorem source_ne_nil (piece : Piece) : piece.source ≠ [] := by
  cases piece <;> exact List.cons_ne_nil _ _

end Piece

/-- The pieces are the text, cut so that exactly the occurrences of placeholders with a known key
are slots. -/
structure Marks (keys : List String) (text : List Char) (pieces : List Piece) : Prop where
  /-- The pieces one after the other are the text. -/
  source_eq : pieces.flatMap Piece.source = text
  /-- Every slot has a known key. -/
  known : ∀ key, .slot key ∈ pieces → key ∈ keys
  /-- Wherever a placeholder with a known key occurs in the text, there is a slot. -/
  complete : ∀ key ∈ keys, ∀ before after, before ++ (Piece.slot key).source ++ after = text →
    ∃ first rest, pieces = first ++ .slot key :: rest ∧ first.flatMap Piece.source = before

/-- The known key of a placeholder whose opening brace has just been read. -/
def knownKey? (keys : List String) (text : List Char) : Option String :=
  ((placeholderKey text).map String.ofList).filter (· ∈ keys)

/-- `piecesFrom keys skip` drops the `skip` characters that a slot covers and then goes on. -/
def piecesFrom (keys : List String) : (skip : Nat) → (text : List Char) → List Piece
  | _, [] => []
  | skip + 1, _ :: text => piecesFrom keys skip text
  | 0, c :: text =>
    match if c = '{' then knownKey? keys text else none with
    | some key => .slot key :: piecesFrom keys (key.toList.length + 1) text
    | none => .kept c :: piecesFrom keys 0 text

/-- The pieces of a text, found in one pass from left to right. -/
def pieces (keys : List String) (text : List Char) : List Piece := piecesFrom keys 0 text

/-! ### Rendering by pieces -/

section

variable {values : List (String × String)} {keys : List String} {text : List Char}

/-- A key has a value if it is one of the keys. -/
theorem isSome_lookup (values : List (String × String)) (key : String) :
    (values.lookup key).isSome = decide (key ∈ values.map Prod.fst) := by
  rw [Bool.eq_iff_iff, List.lookup_isSome_iff, decide_eq_true_iff, List.mem_map]
  refine exists_congr fun pair => and_congr_right fun _ => ?_
  rw [beq_iff_eq, eq_comm]

theorem placeholder_eq (values : List (String × String)) (text : List Char) :
    placeholder values text = (knownKey? (values.map Prod.fst) text).map fun key =>
      (key.toList, ((values.lookup key).getD "").toList) := by
  rw [placeholder, knownKey?]
  cases placeholderKey text with
  | none => rfl
  | some key =>
    rw [Option.bind_eq_bind, Option.bind_some, Option.map_some, Option.filter_some, ← isSome_lookup]
    cases hvalue : values.lookup (String.ofList key) with
    | none => rfl
    | some value => simp [hvalue]

/-- **Rendering fills the slots among the pieces.** -/
theorem renderFrom_eq_filled (values : List (String × String)) (skip : Nat) (text : List Char) :
    renderFrom values skip text
      = (piecesFrom (values.map Prod.fst) skip text).flatMap (Piece.filled values) := by
  fun_induction piecesFrom (values.map Prod.fst) skip text with
  | case1 => simp [renderFrom]
  | case2 skip c text ih => rw [renderFrom, ih]
  | case3 c text key hkey ih =>
    split at hkey
    · next hc =>
      rw [renderFrom, if_pos hc, placeholder_eq, hkey]
      simpa [Piece.filled] using ih
    · cases hkey
  | case4 c text hnone ih =>
    rw [renderFrom, List.flatMap_cons, ih]
    split
    · next hc =>
      rw [if_pos hc] at hnone
      rw [placeholder_eq, hnone]
      rfl
    · rfl

theorem piecesFrom_eq_pieces_drop (keys : List String) (skip : Nat) (text : List Char) :
    piecesFrom keys skip text = pieces keys (text.drop skip) := by
  induction text generalizing skip with
  | nil => simp [pieces, piecesFrom]
  | cons c text ih =>
    cases skip with
    | zero => rfl
    | succ skip => exact ih skip

/-! ### Keys of placeholders -/

theorem splitOnce_append_cons {separator : Char} {before : List Char} (h : separator ∉ before)
    (after : List Char) :
    splitOnce separator (before ++ separator :: after) = (before, some after) := by
  induction before with
  | nil => simp [splitOnce]
  | cons c before ih =>
    obtain ⟨hc, hbefore⟩ := List.ne_and_not_mem_of_not_mem_cons h
    rw [List.cons_append, splitOnce, if_neg hc.symm, ih hbefore]

theorem eq_append_of_splitOnce {separator : Char} {before after : List Char}
    (h : splitOnce separator text = (before, some after)) :
    text = before ++ separator :: after := by
  induction text generalizing before with
  | nil => simp [splitOnce] at h
  | cons c text ih =>
    rw [splitOnce] at h
    split at h
    · next hc =>
      cases h
      rw [hc, List.nil_append]
    · obtain ⟨rfl, hafter⟩ := Prod.mk.inj h
      rw [List.cons_append, ← ih (Prod.ext rfl hafter)]

/-- A known key that is found stands in the text, with a closing brace behind it. -/
theorem exists_of_knownKey? {key : String} (h : knownKey? keys text = some key) :
    key ∈ keys ∧ ∃ after, text = key.toList ++ '}' :: after := by
  obtain ⟨hfound, hknown⟩ := Option.filter_eq_some_iff.mp h
  obtain ⟨chars, hchars, rfl⟩ := Option.map_eq_some_iff.mp hfound
  refine ⟨by simpa using hknown, ?_⟩
  rw [placeholderKey] at hchars
  split at hchars
  · next before after hsplit =>
    cases hchars
    exact ⟨after, by rw [String.toList_ofList]; exact eq_append_of_splitOnce hsplit⟩
  · cases hchars

/-- A known key with a closing brace behind it is found. -/
theorem knownKey?_append {key : String} (known : key ∈ keys) (braceless : '}' ∉ key.toList)
    (after : List Char) : knownKey? keys (key.toList ++ '}' :: after) = some key := by
  rw [knownKey?, placeholderKey, splitOnce_append_cons braceless]
  simp [known]

end

/-! ### Marking a text -/

/-- Keys without braces. -/
def Braceless (keys : List String) : Prop :=
  ∀ key ∈ keys, '{' ∉ key.toList ∧ '}' ∉ key.toList

instance (keys : List String) : Decidable (Braceless keys) :=
  inferInstanceAs (Decidable (∀ key ∈ keys, '{' ∉ key.toList ∧ '}' ∉ key.toList))

namespace Marks

variable {keys : List String} {text : List Char} {piece : Piece} {marked other : List Piece}

theorem nil (keys : List String) : Marks keys [] [] where
  source_eq := rfl
  known _ h := absurd h List.not_mem_nil
  complete key _ before after h := by simp [Piece.source] at h

/-- A character is kept if no known placeholder begins with it. -/
theorem kept {c : Char} (marks : Marks keys text marked)
    (free : ∀ key ∈ keys, ∀ after, (Piece.slot key).source ++ after ≠ c :: text) :
    Marks keys (c :: text) (.kept c :: marked) where
  source_eq := by rw [List.flatMap_cons, marks.source_eq]; rfl
  known key h := marks.known key (by simpa using h)
  complete key hkey before after h := by
    cases before with
    | nil => exact absurd h (free key hkey after)
    | cons d before =>
      obtain ⟨rfl, htext⟩ := List.cons.inj h
      obtain ⟨first, rest, rfl, hfirst⟩ := marks.complete key hkey before after htext
      exact ⟨.kept d :: first, rest, rfl, by rw [List.flatMap_cons, hfirst]; rfl⟩

/-- Between the braces of a known placeholder no other one begins. -/
theorem slot {key : String} (braceless : Braceless keys) (known : key ∈ keys)
    (marks : Marks keys text marked) :
    Marks keys ((Piece.slot key).source ++ text) (.slot key :: marked) where
  source_eq := by rw [List.flatMap_cons, marks.source_eq]
  known other h := by
    rcases List.mem_cons.mp h with hsame | h
    · cases hsame
      exact known
    · exact marks.known other h
  complete other hother before after h := by
    cases before with
    | nil =>
      -- The key ends at the same closing brace.
      have hkeys : other.toList ++ '}' :: after = key.toList ++ '}' :: text := by
        simpa [Piece.source] using h
      have hsame := congrArg (splitOnce '}') hkeys
      rw [splitOnce_append_cons (braceless other hother).2,
        splitOnce_append_cons (braceless key known).2, Prod.mk.injEq, String.toList_inj] at hsame
      rw [hsame.1]
      exact ⟨[], marked, rfl, rfl⟩
    | cons d before =>
      have htail : before ++ ((Piece.slot other).source ++ after)
          = (key.toList ++ ['}']) ++ text := by
        simpa [Piece.source] using (List.cons.inj h).2
      have hd : d = '{' := (List.cons.inj h).1
      rcases List.append_eq_append_iff.mp htail with ⟨rest, hrest, htext⟩ | ⟨rest, hrest, hinside⟩
      · cases rest with
        | nil =>
          obtain ⟨first, rest, rfl, hfirst⟩ := marks.complete other hother [] after htext
          refine ⟨.slot key :: first, rest, rfl, ?_⟩
          rw [List.flatMap_cons, hfirst, hd, List.append_nil, Piece.source, List.cons_append, hrest,
            List.append_nil]
        | cons e rest =>
          -- Its opening brace would stand in the key.
          have he : e = '{' := (List.cons.inj htext).1.symm
          have hmem : '{' ∈ key.toList ++ ['}'] := by
            rw [hrest, he]
            exact List.mem_append_right _ List.mem_cons_self
          exact absurd (by simpa using hmem) (braceless key known).1
      · obtain ⟨first, after', rfl, hfirst⟩ := marks.complete other hother rest after
          (by rw [hinside, List.append_assoc])
        refine ⟨.slot key :: first, after', rfl, ?_⟩
        rw [List.flatMap_cons, hfirst, hd, hrest]
        simp [Piece.source]

/-- What follows the first piece is marked too. -/
theorem tail (marks : Marks keys (piece.source ++ text) (piece :: marked)) :
    Marks keys text marked where
  source_eq := by
    have hsource := marks.source_eq
    rw [List.flatMap_cons] at hsource
    exact List.append_cancel_left hsource
  known key h := marks.known key (List.mem_cons_of_mem _ h)
  complete key hkey before after h := by
    obtain ⟨first, rest, hpieces, hfirst⟩ :=
      marks.complete key hkey (piece.source ++ before) after (by rw [← h]; simp)
    cases first with
    | nil =>
      have hnil : piece.source = [] := (List.append_eq_nil_iff.mp hfirst.symm).1
      exact absurd hnil piece.source_ne_nil
    | cons head first =>
      obtain ⟨rfl, rfl⟩ := List.cons.inj hpieces
      rw [List.flatMap_cons] at hfirst
      exact ⟨first, rest, rfl, List.append_cancel_left hfirst⟩

/-- If one marking begins with a slot, every marking does. -/
theorem exists_eq_slot_cons {key : String} (marks : Marks keys text (.slot key :: marked))
    (others : Marks keys text other) : ∃ rest, other = .slot key :: rest := by
  have hkey : key ∈ keys := marks.known key List.mem_cons_self
  obtain ⟨first, rest, hpieces, hfirst⟩ := others.complete key hkey [] (marked.flatMap Piece.source)
    (by rw [← marks.source_eq, List.flatMap_cons]; rfl)
  cases first with
  | nil => exact ⟨rest, hpieces⟩
  | cons head first =>
    rw [List.flatMap_cons] at hfirst
    exact absurd (List.append_eq_nil_iff.mp hfirst).1 head.source_ne_nil

/-- **There is only one way to mark a text.** -/
theorem unique (marks : Marks keys text marked) (others : Marks keys text other) :
    other = marked := by
  induction marked generalizing text other with
  | nil =>
    have htext : text = [] := marks.source_eq.symm
    cases other with
    | nil => rfl
    | cons piece other =>
      have hsource := others.source_eq
      rw [List.flatMap_cons, htext] at hsource
      exact absurd (List.append_eq_nil_iff.mp hsource).1 piece.source_ne_nil
  | cons piece marked ih =>
    have hhead : ∃ rest, other = piece :: rest := by
      cases piece with
      | slot key => exact marks.exists_eq_slot_cons others
      | kept c =>
        cases other with
        | nil =>
          have hsource := marks.source_eq.trans others.source_eq.symm
          cases hsource
        | cons head other =>
          cases head with
          | slot key =>
            obtain ⟨rest, hrest⟩ := others.exists_eq_slot_cons marks
            cases hrest
          | kept d =>
            have hsource := marks.source_eq.trans others.source_eq.symm
            cases (List.cons.inj hsource).1
            exact ⟨other, rfl⟩
    obtain ⟨rest, rfl⟩ := hhead
    have hsource : text = piece.source ++ marked.flatMap Piece.source := marks.source_eq.symm
    subst hsource
    rw [ih marks.tail others.tail]

end Marks

/-- **The pass from left to right finds all known placeholders**, if no key has a brace in it. -/
theorem marks_pieces {keys : List String} (braceless : Braceless keys) (text : List Char) :
    Marks keys text (pieces keys text) := by
  induction hlength : text.length using Nat.strongRecOn generalizing text with
  | ind length ih =>
    cases text with
    | nil => exact .nil keys
    | cons c text =>
      rw [pieces, piecesFrom]
      split
      · next key hkey =>
        split at hkey
        · next hc =>
          obtain ⟨known, after, rfl⟩ := exists_of_knownKey? hkey
          have hrest : piecesFrom keys (key.toList.length + 1) (key.toList ++ '}' :: after)
              = pieces keys after := by
            rw [piecesFrom_eq_pieces_drop, ← List.drop_drop, List.drop_left, List.drop_one,
              List.tail_cons]
          have hshorter : after.length < length := by
            simp only [List.length_cons, List.length_append] at hlength
            omega
          have htext : c :: (key.toList ++ '}' :: after) = (Piece.slot key).source ++ after := by
            simp [Piece.source, hc]
          rw [hrest, htext]
          exact .slot braceless known (ih _ hshorter after rfl)
        · cases hkey
      · next hnone =>
        refine .kept (ih _ (by simp [← hlength]) text rfl) fun key hkey after h => ?_
        obtain ⟨rfl, rfl⟩ : '{' = c ∧ key.toList ++ '}' :: after = text := by
          simpa [Piece.source] using h
        rw [if_pos rfl, knownKey?_append hkey (braceless key hkey).2] at hnone
        cases hnone

/-- **Rendering replaces all known placeholders at once.**  The text is cut in one way, which
depends on the keys alone, so that the slots are exactly the occurrences of placeholders with these
keys.  Whatever the values are, each slot is replaced by the first value of its key, and everything
else is kept in its order. -/
theorem render_replaces_at_once {keys : List String} (braceless : Braceless keys) (text : String) :
    ∃ marked, Marks keys text.toList marked
      ∧ (∀ other, Marks keys text.toList other → other = marked)
      ∧ ∀ values : List (String × String), values.map Prod.fst = keys →
        (Template.mk text values).render = .ofList (marked.flatMap (Piece.filled values)) := by
  have marks := marks_pieces braceless text.toList
  refine ⟨pieces keys text.toList, marks, fun other => marks.unique, ?_⟩
  rintro values rfl
  rw [render, renderFrom_eq_filled]
  rfl

/-- A script with braces of its own, and with placeholders next to other braces. -/
def nestedBraces : String :=
  "awk '\x7bprint $1\x7d' \x7b{path}\x7d \x7bpath {label}"

/-- Values of which the first looks like a placeholder, and the last comes too late. -/
def nestedValues : List (String × String) :=
  [("label", "{path}"), ("path", "/etc"), ("label", "x")]

/-- The first value that has been added for a key counts, and is not searched for placeholders. -/
theorem nestedBraces_replaced_at_once :
    Braceless ["label", "path", "label"]
      ∧ ∃ marked,
        (∀ other, Marks ["label", "path", "label"] nestedBraces.toList other → other = marked)
        ∧ (Template.mk nestedBraces nestedValues).render
          = .ofList (marked.flatMap (Piece.filled nestedValues))
        ∧ (Template.mk nestedBraces nestedValues).render
          = "awk '\x7bprint $1\x7d' \x7b/etc\x7d \x7bpath {path}" := by
  have braceless : Braceless ["label", "path", "label"] := by decide
  obtain ⟨marked, -, unique, replaced⟩ := render_replaces_at_once braceless nestedBraces
  exact ⟨braceless, marked, unique, replaced nestedValues rfl, by rfl⟩

end ServerMigration.Text.Template
