import ServerMigration.Proofs.Program.Yields

/-!
# Runs of computations with a state

The commander and the steps of a migration are programs that change a state and may stop with an
error.  A run of such a computation leads from one state to another.

## Main definitions

* `Program.Runs` : a run of a computation with a state.

## Main results

* `Program.runs_bind_iff` : the runs of a bind; those of the other operations stand beside it.
-/

namespace ServerMigration.Program

variable {Ask : Type} {Answer : Ask → Type} {σ ε α β : Type}

/-- `Runs step before trace result after` says that `step` can lead from the state `before` to the
state `after`, ask and be answered what stands in `trace`, and end with `result`. -/
def Runs (step : ExceptT ε (StateT σ (Program Ask Answer)) α) (before : σ)
    (trace : List (Exchange Ask Answer)) (result : Except ε α) (after : σ) : Prop :=
  (step.run.run before).Yields trace (result, after)

variable {before after : σ} {trace : List (Exchange Ask Answer)}

@[simp] theorem runs_pure_iff {a : α} {result : Except ε α} :
    Runs (pure a) before trace result after ↔ trace = [] ∧ result = .ok a ∧ after = before := by
  rw [← Prod.mk.injEq]
  exact yields_done_iff

@[simp] theorem runs_throw_iff {error : ε} {result : Except ε α} :
    Runs (throw error) before trace result after ↔
      trace = [] ∧ result = .error error ∧ after = before := by
  rw [← Prod.mk.injEq]
  exact yields_done_iff

/-- **A run of a bind either fails in the first computation, or goes through it and then through
the second.** -/
theorem runs_bind_iff {step : ExceptT ε (StateT σ (Program Ask Answer)) α}
    {next : α → ExceptT ε (StateT σ (Program Ask Answer)) β} {result : Except ε β} :
    Runs (step >>= next) before trace result after ↔
      (∃ error, Runs step before trace (.error error) after ∧ result = .error error) ∨
        ∃ a middle first second, Runs step before first (.ok a) middle
          ∧ Runs (next a) middle second result after ∧ trace = first ++ second := by
  change (step.run.run before >>= fun x => ((ExceptT.bindCont next x.1).run x.2)).Yields _ _ ↔ _
  rw [yields_bind_iff]
  constructor
  · rintro ⟨⟨outcome, middle⟩, first, second, hstep, hnext, rfl⟩
    cases outcome with
    | error error =>
      obtain ⟨rfl, hresult⟩ := yields_done_iff.mp hnext
      obtain ⟨rfl, rfl⟩ := Prod.mk.inj hresult
      exact .inl ⟨error, by simpa [Runs] using hstep, rfl⟩
    | ok a => exact .inr ⟨a, middle, first, second, hstep, hnext, rfl⟩
  · rintro (⟨error, hstep, rfl⟩ | ⟨a, middle, first, second, hstep, hnext, rfl⟩)
    · exact ⟨_, trace, [], hstep, .done _, (List.append_nil _).symm⟩
    · exact ⟨_, first, second, hstep, hnext, rfl⟩

theorem Runs.bind {step : ExceptT ε (StateT σ (Program Ask Answer)) α}
    {next : α → ExceptT ε (StateT σ (Program Ask Answer)) β}
    {first second : List (Exchange Ask Answer)} {a : α} {middle : σ} {result : Except ε β}
    (hstep : Runs step before first (.ok a) middle)
    (hnext : Runs (next a) middle second result after) :
    Runs (step >>= next) before (first ++ second) result after :=
  runs_bind_iff.mpr (.inr ⟨a, middle, first, second, hstep, hnext, rfl⟩)

@[simp] theorem runs_get_bind_iff {next : σ → ExceptT ε (StateT σ (Program Ask Answer)) β}
    {result : Except ε β} :
    Runs (get >>= next) before trace result after ↔ Runs (next before) before trace result after :=
  Iff.rfl

@[simp] theorem runs_set_bind_iff {s : σ}
    {next : PUnit → ExceptT ε (StateT σ (Program Ask Answer)) β} {result : Except ε β} :
    Runs (set s >>= next) before trace result after ↔ Runs (next ⟨⟩) s trace result after :=
  Iff.rfl

@[simp] theorem runs_throw_bind_iff {error : ε}
    {next : α → ExceptT ε (StateT σ (Program Ask Answer)) β} {result : Except ε β} :
    Runs (throw error >>= next) before trace result after ↔
      trace = [] ∧ result = .error error ∧ after = before :=
  runs_throw_iff

end ServerMigration.Program
