/-!
# The runs of a text

A text is cut into runs of characters of one kind by the other characters, as words are by blanks.

## Main definitions

* `Text.runs` : the maximal runs of such characters, empty ones between others included.
* `Text.mapRuns` : a text whose runs are changed, each by itself.

## Main results

* `Text.mapRuns_mapRuns` : runs that are changed twice.
* `Text.mapRuns_congr` : only what happens to the runs of the text counts.
-/

namespace ServerMigration.Text

variable (p : Char → Bool)

/-- The runs of a text, the first of which goes on from `run`, whose characters are in reverse. -/
def runsFrom : (run text : List Char) → List (List Char)
  | run, [] => [run.reverse]
  | run, c :: text =>
    if p c then runsFrom (c :: run) text else run.reverse :: runsFrom [] text

/-- The maximal runs of characters with a property; there is one, perhaps empty, before and behind
every other character. -/
def runs (text : List Char) : List (List Char) := runsFrom p [] text

/-- `mapRuns` for a text whose first run goes on from `run`, whose characters are in reverse. -/
def mapRunsFrom (f : List Char → List Char) : (run text : List Char) → List Char
  | run, [] => f run.reverse
  | run, c :: text =>
    if p c then mapRunsFrom f (c :: run) text else f run.reverse ++ c :: mapRunsFrom f [] text

/-- A text whose runs are changed, each by itself. -/
def mapRuns (f : List Char → List Char) (text : List Char) : List Char := mapRunsFrom p f [] text

variable {p} {f g : List Char → List Char} {run text : List Char}

theorem mapRunsFrom_append (run : List Char) {more : List Char} (h : more.all p)
    (rest : List Char) :
    mapRunsFrom p f run (more ++ rest) = mapRunsFrom p f (more.reverse ++ run) rest := by
  induction more generalizing run with
  | nil => rfl
  | cons c more ih =>
    obtain ⟨hc, hmore⟩ := by simpa using h
    rw [List.cons_append, mapRunsFrom, if_pos hc, ih (c :: run) (by simpa using hmore)]
    simp

/-- **Changing the runs twice is changing each of them twice**, as long as they stay runs. -/
theorem mapRuns_mapRuns (h : ∀ run, run.all p → (f run).all p) :
    mapRuns p g (mapRuns p f text) = mapRuns p (fun run => g (f run)) text := by
  -- The run that the text begins with is generalised.
  have hfrom : ∀ run, run.all p → mapRunsFrom p g [] (mapRunsFrom p f run text)
      = mapRunsFrom p (fun run => g (f run)) run text := by
    induction text with
    | nil =>
      intro run hrun
      have hend := mapRunsFrom_append (f := g) [] (h run.reverse (by simpa using hrun)) []
      simpa [mapRunsFrom] using hend
    | cons c text ih =>
      intro run hrun
      rw [mapRunsFrom, mapRunsFrom]
      split
      · next hc => exact ih (c :: run) (by simpa [hc] using hrun)
      · next hc =>
        rw [mapRunsFrom_append [] (h run.reverse (by simpa using hrun)), mapRunsFrom, if_neg hc,
          ih [] rfl]
        simp
  exact hfrom [] rfl

/-- A text whose runs are kept is kept. -/
theorem mapRuns_id (text : List Char) : mapRuns p (fun run => run) text = text := by
  have hfrom : ∀ run, mapRunsFrom p (fun run => run) run text = run.reverse ++ text := by
    induction text with
    | nil => simp [mapRunsFrom]
    | cons c text ih =>
      intro run
      rw [mapRunsFrom]
      split
      · simp [ih]
      · simp [ih]
  exact hfrom []

/-- **What a change does to other runs than those of the text does not count.** -/
theorem mapRuns_congr (h : ∀ run ∈ runs p text, f run = g run) :
    mapRuns p f text = mapRuns p g text := by
  have hfrom : ∀ run, (∀ w ∈ runsFrom p run text, f w = g w) →
      mapRunsFrom p f run text = mapRunsFrom p g run text := by
    clear h
    induction text with
    | nil =>
      intro run h
      exact h _ List.mem_cons_self
    | cons c text ih =>
      intro run h
      rw [runsFrom] at h
      rw [mapRunsFrom, mapRunsFrom]
      split
      · next hc =>
        rw [if_pos hc] at h
        exact ih _ h
      · next hc =>
        rw [if_neg hc] at h
        obtain ⟨hrun, hrest⟩ := List.forall_mem_cons.mp h
        rw [hrun, ih [] hrest]
  exact hfrom [] h

/-- A text without other characters is one run. -/
theorem runs_of_all (h : text.all p) : runs p text = [text] := by
  have hfrom : ∀ run, runsFrom p run text = [run.reverse ++ text] := by
    induction text with
    | nil => simp [runsFrom]
    | cons c text ih =>
      obtain ⟨hc, htext⟩ := by simpa using h
      intro run
      rw [runsFrom, if_pos hc, ih (by simpa using htext)]
      simp
  exact hfrom []

theorem mapRuns_of_all (h : text.all p) : mapRuns p f text = f text := by
  have hrun := mapRunsFrom_append (f := f) [] h []
  simpa [mapRuns, mapRunsFrom] using hrun

end ServerMigration.Text
