import ServerMigration.Proofs.Text.Splitting

/-!
# Texts line by line

A text is the pieces between its newlines, joined again.  To go through a text line by line and to
write the results under one another is to go through these pieces, except that a carriage return
in front of a newline is lost.

## Main results

* `Text.joinWith_splitOn`, `Text.splitOn_joinWith` : cutting and joining undo one another.
* `Text.lines_eq` : the lines of a text by its pieces.
* `Text.returns_infix_iff` : a line keeps a carriage return at its end if there are two of them.
-/

namespace ServerMigration.Text

variable {separator : Char}

@[simp] theorem joinWith_singleton (piece : List Char) : joinWith [separator] [piece] = piece := by
  simp [joinWith]

theorem joinWith_cons (piece : List Char) {pieces : List (List Char)} (h : pieces ≠ []) :
    joinWith [separator] (piece :: pieces) = piece ++ separator :: joinWith [separator] pieces := by
  cases pieces with
  | nil => exact absurd rfl h
  | cons next pieces => simp [joinWith, List.intersperse]

theorem joinWith_concat (pieces : List (List Char)) (last : List Char) :
    joinWith [separator] (pieces ++ [last]) = pieces.flatMap (· ++ [separator]) ++ last := by
  induction pieces with
  | nil => simp
  | cons piece pieces ih =>
    have hne : pieces ++ [last] ≠ [] := by simp
    rw [List.cons_append, joinWith_cons _ hne, ih]
    simp

theorem mem_joinWith {pieces : List (List Char)} {c : Char}
    (h : c ∈ joinWith [separator] pieces) : c = separator ∨ ∃ piece ∈ pieces, c ∈ piece := by
  induction pieces with
  | nil => simp [joinWith] at h
  | cons piece pieces ih =>
    cases pieces with
    | nil => exact .inr ⟨piece, List.mem_cons_self, by simpa using h⟩
    | cons next pieces =>
      rw [joinWith_cons _ (List.cons_ne_nil _ _), List.mem_append, List.mem_cons] at h
      rcases h with h | rfl | h
      · exact .inr ⟨piece, List.mem_cons_self, h⟩
      · exact .inl rfl
      · exact (ih h).imp_right fun ⟨other, hother, hc⟩ =>
          ⟨other, List.mem_cons_of_mem _ hother, hc⟩

theorem splitOn_of_notMem {text : List Char} (h : separator ∉ text) :
    splitOn separator text = [text] := by
  induction text with
  | nil => rfl
  | cons c text ih =>
    obtain ⟨hc, htext⟩ := List.ne_and_not_mem_of_not_mem_cons h
    rw [splitOn, if_neg hc.symm, ih htext]

/-- **Pieces without the separator are found again in the text that joins them.** -/
theorem splitOn_joinWith {pieces : List (List Char)} (hne : pieces ≠ [])
    (h : ∀ piece ∈ pieces, separator ∉ piece) :
    splitOn separator (joinWith [separator] pieces) = pieces := by
  induction pieces with
  | nil => exact absurd rfl hne
  | cons piece pieces ih =>
    obtain ⟨hpiece, hpieces⟩ := List.forall_mem_cons.mp h
    cases pieces with
    | nil => rw [joinWith_singleton, splitOn_of_notMem hpiece]
    | cons next pieces =>
      have hrest : next :: pieces ≠ [] := List.cons_ne_nil _ _
      rw [joinWith_cons piece hrest, splitOn_append_cons, splitOn_of_notMem hpiece,
        ih hrest hpieces, List.singleton_append]

/-- **A text joins its pieces.** -/
theorem joinWith_splitOn (separator : Char) (text : List Char) :
    joinWith [separator] (splitOn separator text) = text := by
  induction text with
  | nil => rfl
  | cons c text ih =>
    have hne : splitOn separator text ≠ [] := splitOn_ne_nil text
    rw [splitOn]
    split
    · next hc => rw [joinWith_cons [] hne, ih, List.nil_append, hc]
    · cases hpieces : splitOn separator text with
      | nil => exact absurd hpieces hne
      | cons piece pieces =>
        rw [hpieces] at ih
        cases pieces with
        | nil => rw [joinWith_singleton] at ih ⊢; rw [ih]
        | cons next pieces =>
          rw [joinWith_cons _ (List.cons_ne_nil _ _)] at ih ⊢
          rw [List.cons_append, ih]

theorem notMem_of_mem_splitOn {text piece : List Char} (h : piece ∈ splitOn separator text) :
    separator ∉ piece := by
  induction text generalizing piece with
  | nil =>
    rw [splitOn, List.mem_singleton] at h
    rw [h]
    exact List.not_mem_nil
  | cons c text ih =>
    rw [splitOn] at h
    split at h
    · rcases List.mem_cons.mp h with rfl | h
      · exact List.not_mem_nil
      · exact ih h
    · next hc =>
      cases hpieces : splitOn separator text with
      | nil => exact absurd hpieces (splitOn_ne_nil text)
      | cons first pieces =>
        rw [hpieces] at h ih
        rcases List.mem_cons.mp h with rfl | h
        · exact List.not_mem_cons_of_ne_of_not_mem (Ne.symm hc) (ih List.mem_cons_self)
        · exact ih (List.mem_cons_of_mem _ h)

theorem exists_splitOn_eq_concat (separator : Char) (text : List Char) :
    ∃ earlier last, splitOn separator text = earlier ++ [last] := by
  rcases List.eq_nil_or_concat (splitOn separator text) with h | ⟨earlier, last, h⟩
  · exact absurd h (splitOn_ne_nil text)
  · exact ⟨earlier, last, by rw [h, List.concat_eq_append]⟩

theorem mem_of_mem_splitOn {text piece : List Char} {c : Char} (h : piece ∈ splitOn separator text)
    (hc : c ∈ piece) : c ∈ text := by
  obtain ⟨earlier, last, hpieces⟩ := exists_splitOn_eq_concat separator text
  have htext : text = earlier.flatMap (· ++ [separator]) ++ last := by
    rw [← joinWith_concat, ← hpieces, joinWith_splitOn]
  rw [hpieces] at h
  rw [htext]
  rcases List.mem_append.mp h with h | h
  · exact List.mem_append_left _ (List.mem_flatMap.mpr ⟨piece, h, List.mem_append_left _ hc⟩)
  · exact List.mem_append_right _ (List.mem_singleton.mp h ▸ hc)

/-- What follows without a separator belongs to the last piece. -/
theorem splitOn_append_of_notMem {text last rest : List Char} {earlier : List (List Char)}
    (h : splitOn separator text = earlier ++ [last]) (hrest : separator ∉ rest) :
    splitOn separator (text ++ rest) = earlier ++ [last ++ rest] := by
  have hpieces : ∀ piece ∈ earlier ++ [last], separator ∉ piece := fun piece hmem =>
    notMem_of_mem_splitOn (h ▸ hmem)
  have htext : text ++ rest = joinWith [separator] (earlier ++ [last ++ rest]) := by
    rw [joinWith_concat, ← List.append_assoc, ← joinWith_concat, ← h, joinWith_splitOn]
  rw [htext]
  refine splitOn_joinWith (by simp) fun piece hmem => ?_
  rcases List.mem_append.mp hmem with hmem | hmem
  · exact hpieces piece (List.mem_append_left _ hmem)
  · rw [List.mem_singleton.mp hmem, List.mem_append, not_or]
    exact ⟨hpieces last (by simp), hrest⟩

/-! ### Lines -/

theorem withoutReturn_concat (line : List Char) : withoutReturn (line ++ ['\r']) = line := by
  simp [withoutReturn]

theorem withoutReturn_of_getLast?_ne {line : List Char} (h : line.getLast? ≠ some '\r') :
    withoutReturn line = line := by
  rw [withoutReturn]
  split
  · next rest hrest =>
    refine absurd ?_ h
    rw [← List.head?_reverse, hrest]
    rfl
  · rfl

/-- A line that was shortened has lost a carriage return. -/
theorem eq_concat_of_withoutReturn_ne {line : List Char} (h : withoutReturn line ≠ line) :
    line = withoutReturn line ++ ['\r'] := by
  rcases List.eq_nil_or_concat line with rfl | ⟨rest, c, rfl⟩
  · exact absurd rfl h
  · rw [List.concat_eq_append] at h ⊢
    by_cases hc : c = '\r'
    · rw [hc, withoutReturn_concat]
    · exact absurd (withoutReturn_of_getLast?_ne (by simpa using hc)) h

theorem notMem_withoutReturn {c : Char} {line : List Char} (h : c ∉ line) :
    c ∉ withoutReturn line := by
  by_cases hsame : withoutReturn line = line
  · rwa [hsame]
  · rw [eq_concat_of_withoutReturn_ne hsame, List.mem_append, not_or] at h
    exact h.1

/-- **The lines of a text are the pieces in front of its newlines, without a carriage return at
their end, and then what follows the last newline, if that is not empty.** -/
theorem lines_eq {text last : List Char} {ended : List (List Char)}
    (h : splitOn '\n' text = ended ++ [last]) :
    lines text = ended.map withoutReturn ++ (if last = [] then [] else [last]) := by
  rw [lines, h, List.reverse_concat]
  cases last with
  | nil => simp
  | cons c last => simp

theorem notMem_of_mem_lines {text line : List Char} (h : line ∈ lines text) : '\n' ∉ line := by
  obtain ⟨ended, last, hpieces⟩ := exists_splitOn_eq_concat '\n' text
  have hpiece : ∀ piece ∈ ended ++ [last], '\n' ∉ piece := fun piece hmem =>
    notMem_of_mem_splitOn (hpieces ▸ hmem)
  rw [lines_eq hpieces, List.mem_append, List.mem_map] at h
  rcases h with ⟨piece, hmem, rfl⟩ | h
  · exact notMem_withoutReturn (hpiece piece (List.mem_append_left _ hmem))
  · split at h
    · exact absurd h List.not_mem_nil
    · rw [List.mem_singleton.mp h]
      exact hpiece last (by simp)

/-- A text ends with a newline if nothing follows its last one. -/
theorem getLast?_eq_newline_iff {text last : List Char} {ended : List (List Char)}
    (h : splitOn '\n' text = ended ++ [last]) :
    text.getLast? = some '\n' ↔ last = [] ∧ ended ≠ [] := by
  have htext : text = ended.flatMap (· ++ ['\n']) ++ last := by
    rw [← joinWith_concat, ← h, joinWith_splitOn]
  have hlast : '\n' ∉ last := notMem_of_mem_splitOn (h ▸ List.mem_append_right _ List.mem_cons_self)
  rcases List.eq_nil_or_concat last with rfl | ⟨start, c, rfl⟩
  · rcases List.eq_nil_or_concat ended with rfl | ⟨earlier, piece, rfl⟩
    · simp [htext]
    · simp [htext]
  · have hc : c ≠ '\n' := by
      rintro rfl
      exact hlast (by simp)
    simp [htext, hc]

/-- A text with two carriage returns in front of a newline has a line that keeps one. -/
theorem returns_infix_iff {text last : List Char} {ended : List (List Char)}
    (h : splitOn '\n' text = ended ++ [last]) :
    ['\r', '\r', '\n'] <:+: text ↔
      ∃ piece ∈ ended, (withoutReturn piece).getLast? = some '\r' := by
  constructor
  · rintro ⟨before, after, rfl⟩
    obtain ⟨earlier, start, hbefore⟩ := exists_splitOn_eq_concat '\n' before
    obtain ⟨later, last', hafter⟩ := exists_splitOn_eq_concat '\n' after
    have htext : before ++ ['\r', '\r', '\n'] ++ after
        = (before ++ ['\r', '\r']) ++ '\n' :: after := by simp
    rw [htext, splitOn_append_cons, splitOn_append_of_notMem hbefore (by simp), hafter,
      ← List.append_assoc] at h
    obtain ⟨rfl, -⟩ := List.append_inj' h rfl
    have hstart : withoutReturn (start ++ ['\r', '\r']) = start ++ ['\r'] := by
      rw [← withoutReturn_concat (start ++ ['\r']), List.append_assoc]
      rfl
    exact ⟨start ++ ['\r', '\r'], by simp, by rw [hstart, List.getLast?_concat]⟩
  · rintro ⟨piece, hpiece, hlast⟩
    obtain ⟨start, hstart⟩ := List.getLast?_eq_some_iff.mp hlast
    have hshortened : withoutReturn piece ≠ piece := by
      intro hsame
      have hpiece : piece = start ++ ['\r'] := hsame.symm.trans hstart
      have hsame : start = start ++ ['\r'] := by
        rw [← hstart, hpiece, withoutReturn_concat]
      simpa using congrArg List.length hsame
    obtain ⟨before, after, rfl⟩ := List.append_of_mem hpiece
    have htext : text = (before ++ piece :: after).flatMap (· ++ ['\n']) ++ last := by
      rw [← joinWith_concat, ← h, joinWith_splitOn]
    rw [htext, eq_concat_of_withoutReturn_ne hshortened, hstart]
    exact ⟨before.flatMap (· ++ ['\n']) ++ start, after.flatMap (· ++ ['\n']) ++ last, by simp⟩

end ServerMigration.Text
