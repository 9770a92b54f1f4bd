import ServerMigration.Program

/-!
# What a program asks, step by step

A run of a program is a list of answered questions and a result, `Program.Yields`.  Here such runs
are taken apart along the program: at a bind the run splits in two, and a program whose questions
are answered by other programs runs like those programs one after the other.

## Main definitions

* `Program.Reaches` : a run that is under way.
* `Program.Expands` : a list of answered questions, each replaced by a run of the program that
  answers it.

## Main results

* `Program.yields_bind_iff` : the runs of a bind.
* `Program.Yields.unique` : the answers determine the run.
* `Program.yields_reinterpret_iff` : the runs of a reinterpreted program.
* `Program.Reaches.exists_yields_allowed` : a run that is under way can be completed.
* `Program.Every.bind`, `Program.Every.of_yields` : what holds whatever the answers are.
-/

namespace ServerMigration.Program

variable {Ask Ask' : Type} {Answer : Ask → Type} {Answer' : Ask' → Type} {α β : Type}

/-! ### Runs -/

@[simp] theorem yields_done_iff {a b : α} {trace : List (Exchange Ask Answer)} :
    (done a : Program Ask Answer α).Yields trace b ↔ trace = [] ∧ b = a := by
  constructor
  · intro h
    cases h
    exact ⟨rfl, rfl⟩
  · rintro ⟨rfl, rfl⟩
    exact .done b

@[simp] theorem yields_ask_iff {q : Ask} {next : Answer q → Program Ask Answer α}
    {trace : List (Exchange Ask Answer)} {a : α} :
    (ask q next).Yields trace a ↔
      ∃ answer rest, trace = ⟨q, answer⟩ :: rest ∧ (next answer).Yields rest a := by
  constructor
  · intro h
    cases h with
    | ask answer rest => exact ⟨answer, _, rfl, rest⟩
  · rintro ⟨answer, rest, rfl, h⟩
    exact .ask answer h

@[simp] theorem yields_request_iff {q : Ask} {trace : List (Exchange Ask Answer)}
    {a : Answer q} : (request q).Yields trace a ↔ trace = [⟨q, a⟩] := by
  rw [request, yields_ask_iff]
  constructor
  · rintro ⟨answer, rest, rfl, h⟩
    obtain ⟨rfl, rfl⟩ := yields_done_iff.mp h
    rfl
  · rintro rfl
    exact ⟨a, [], rfl, .done a⟩

theorem Yields.bind {p : Program Ask Answer α} {f : α → Program Ask Answer β}
    {first second : List (Exchange Ask Answer)} {a : α} {b : β} (hp : p.Yields first a)
    (hf : (f a).Yields second b) : (p >>= f).Yields (first ++ second) b := by
  induction hp with
  | done a => exact hf
  | ask answer _ ih => exact .ask answer (ih hf)

/-- **A run of a bind is a run of the first program and then one of the second.** -/
theorem yields_bind_iff {p : Program Ask Answer α} {f : α → Program Ask Answer β}
    {trace : List (Exchange Ask Answer)} {b : β} :
    (p >>= f).Yields trace b ↔
      ∃ a first second, p.Yields first a ∧ (f a).Yields second b ∧ trace = first ++ second := by
  constructor
  · intro h
    induction p generalizing trace with
    | done a => exact ⟨a, [], trace, .done a, h, rfl⟩
    | ask q next ih =>
      rw [ask_bind, yields_ask_iff] at h
      obtain ⟨answer, rest, rfl, h⟩ := h
      obtain ⟨a, first, second, hfirst, hsecond, rfl⟩ := ih answer h
      exact ⟨a, ⟨q, answer⟩ :: first, second, .ask answer hfirst, hsecond, rfl⟩
  · rintro ⟨a, first, second, hfirst, hsecond, rfl⟩
    exact hfirst.bind hsecond

/-- **Two runs with the same answers, as far as both of them go, are the same run.** -/
theorem Yields.unique {p : Program Ask Answer α}
    {first second rest other : List (Exchange Ask Answer)} {a b : α} (hfirst : p.Yields first a)
    (hsecond : p.Yields second b)
    (same : first ++ rest = second ++ other) : first = second ∧ a = b := by
  induction hfirst generalizing second with
  | done a =>
    obtain ⟨rfl, rfl⟩ := yields_done_iff.mp hsecond
    exact ⟨rfl, rfl⟩
  | ask answer _ ih =>
    obtain ⟨answer', onward, rfl, honward⟩ := yields_ask_iff.mp hsecond
    obtain ⟨hhead, htail⟩ := List.cons.inj same
    cases hhead
    obtain ⟨rfl, rfl⟩ := ih honward htail
    exact ⟨rfl, rfl⟩

/-- A program whose result is changed puts the same questions. -/
theorem map_eq_ask_iff {f : α → β} {p : Program Ask Answer α} {q : Ask}
    {next : Answer q → Program Ask Answer β} :
    f <$> p = ask q next ↔ ∃ next', p = ask q next' ∧ next = fun answer => f <$> next' answer := by
  constructor
  · intro h
    cases p with
    | done a => cases h
    | ask q' next' =>
      cases h
      exact ⟨next', rfl, rfl⟩
  · rintro ⟨next', rfl, rfl⟩
    rfl

theorem map_eq_done_iff {f : α → β} {p : Program Ask Answer α} {b : β} :
    f <$> p = done b ↔ ∃ a, p = done a ∧ b = f a := by
  constructor
  · intro h
    cases p with
    | done a =>
      cases h
      exact ⟨a, rfl, rfl⟩
    | ask q next => cases h
  · rintro ⟨a, rfl, rfl⟩
    rfl

/-! ### Runs that are under way -/

/-- `p.Reaches trace q` says that, with the answers of `trace`, `p` has put the questions of
`trace` so far and goes on as `q`. -/
inductive Reaches : Program Ask Answer α → List (Exchange Ask Answer) → Program Ask Answer α → Prop
  | here (p : Program Ask Answer α) : Reaches p [] p
  | ask {q : Ask} {next : Answer q → Program Ask Answer α} {trace : List (Exchange Ask Answer)}
      {rest : Program Ask Answer α} (answer : Answer q)
      (onward : Reaches (next answer) trace rest) : Reaches (ask q next) (⟨q, answer⟩ :: trace) rest

/-- A run is complete when nothing is left to ask. -/
theorem yields_iff_reaches {p : Program Ask Answer α} {trace : List (Exchange Ask Answer)} {a : α} :
    p.Yields trace a ↔ p.Reaches trace (done a) := by
  constructor
  · intro h
    induction h with
    | done a => exact .here _
    | ask answer _ ih => exact .ask answer ih
  · intro h
    generalize hend : done a = rest at h
    induction h with
    | here p =>
      subst hend
      exact .done a
    | ask answer _ ih => exact .ask answer (ih hend)

/-- A run that is under way goes on with an answer to the question it has come to. -/
theorem Reaches.snoc {p : Program Ask Answer α} {trace : List (Exchange Ask Answer)} {q : Ask}
    {next : Answer q → Program Ask Answer α} (reaches : p.Reaches trace (.ask q next))
    (answer : Answer q) : p.Reaches (trace ++ [⟨q, answer⟩]) (next answer) := by
  generalize hrest : Program.ask q next = rest at reaches
  induction reaches with
  | here p =>
    subst hrest
    exact .ask answer (.here _)
  | ask earlier _ ih => exact .ask earlier (ih hrest)

/-- If every question has an answer that is allowed, every program can be run with such answers. -/
theorem exists_yields_allowed {allowed : (q : Ask) → Answer q → Prop}
    (answerable : ∀ q, ∃ answer, allowed q answer) (p : Program Ask Answer α) :
    ∃ trace a, p.Yields trace a ∧ ∀ exchange ∈ trace, allowed exchange.1 exchange.2 := by
  induction p with
  | done a => exact ⟨[], a, .done a, fun _ hmem => absurd hmem List.not_mem_nil⟩
  | ask q next ih =>
    obtain ⟨answer, hanswer⟩ := answerable q
    obtain ⟨trace, a, hnext, hallowed⟩ := ih answer
    exact ⟨⟨q, answer⟩ :: trace, a, .ask answer hnext, List.forall_mem_cons.mpr ⟨hanswer, hallowed⟩⟩

/-- If every question can be answered, every program can be run. -/
theorem exists_yields (answerable : ∀ q, Nonempty (Answer q)) (p : Program Ask Answer α) :
    ∃ trace a, p.Yields trace a := by
  have hanswer (q : Ask) : ∃ _ : Answer q, True :=
    (answerable q).elim fun answer => ⟨answer, trivial⟩
  obtain ⟨trace, a, h, -⟩ := exists_yields_allowed hanswer p
  exact ⟨trace, a, h⟩

/-- **If every question has an answer that is allowed, a run that is under way can be completed with
such answers.** -/
theorem Reaches.exists_yields_allowed {allowed : (q : Ask) → Answer q → Prop}
    (answerable : ∀ q, ∃ answer, allowed q answer) {p rest : Program Ask Answer α}
    {trace : List (Exchange Ask Answer)} (reaches : p.Reaches trace rest) :
    ∃ more a, p.Yields (trace ++ more) a ∧ ∀ exchange ∈ more, allowed exchange.1 exchange.2 := by
  induction reaches with
  | here p => exact Program.exists_yields_allowed answerable p
  | ask answer _ ih =>
    obtain ⟨more, a, hnext, hallowed⟩ := ih
    exact ⟨more, a, .ask answer hnext, hallowed⟩

/-! ### Runs of a program whose questions are answered by programs -/

/-- `Expands answer outer inner` says that `inner` consists of runs of the programs that answer
the questions of `outer`, one after the other, with the answers of `outer`. -/
inductive Expands (answer : (q : Ask) → Program Ask' Answer' (Answer q)) :
    List (Exchange Ask Answer) → List (Exchange Ask' Answer') → Prop
  | nil : Expands answer [] []
  | cons {q : Ask} {a : Answer q} {part : List (Exchange Ask' Answer')}
      {outer : List (Exchange Ask Answer)} {inner : List (Exchange Ask' Answer')}
      (head : (answer q).Yields part a) (tail : Expands answer outer inner) :
      Expands answer (⟨q, a⟩ :: outer) (part ++ inner)

@[simp] theorem expands_nil_iff {answer : (q : Ask) → Program Ask' Answer' (Answer q)}
    {inner : List (Exchange Ask' Answer')} : Expands answer [] inner ↔ inner = [] := by
  constructor
  · intro h
    cases h
    rfl
  · rintro rfl
    exact .nil

theorem expands_cons_iff {answer : (q : Ask) → Program Ask' Answer' (Answer q)} {q : Ask}
    {a : Answer q} {outer : List (Exchange Ask Answer)} {inner : List (Exchange Ask' Answer')} :
    Expands answer (⟨q, a⟩ :: outer) inner ↔
      ∃ part rest, (answer q).Yields part a ∧ Expands answer outer rest
        ∧ inner = part ++ rest := by
  constructor
  · intro h
    cases h with
    | cons head tail => exact ⟨_, _, head, tail, rfl⟩
  · rintro ⟨part, rest, head, tail, rfl⟩
    exact .cons head tail

/-- The answer to a question is the result of a run that stands among the inner ones. -/
theorem Expands.exists_of_mem {answer : (q : Ask) → Program Ask' Answer' (Answer q)}
    {outer : List (Exchange Ask Answer)} {inner : List (Exchange Ask' Answer')}
    (expands : Expands answer outer inner) {q : Ask} {a : Answer q} (hmem : ⟨q, a⟩ ∈ outer) :
    ∃ part, (answer q).Yields part a ∧ part ⊆ inner := by
  induction expands with
  | nil => exact absurd hmem List.not_mem_nil
  | @cons _ _ part outer inner head _ ih =>
    rcases List.mem_cons.mp hmem with hsame | hmem
    · cases hsame
      exact ⟨part, head, List.subset_append_left part inner⟩
    · obtain ⟨part', hpart', hsub⟩ := ih hmem
      exact ⟨part', hpart', fun _ h => List.mem_append_right part (hsub h)⟩

/-- **A reinterpreted program runs as the program does, each question replaced by a run of the
program that answers it.** -/
theorem yields_reinterpret_iff {answer : (q : Ask) → Program Ask' Answer' (Answer q)}
    {p : Program Ask Answer α} {inner : List (Exchange Ask' Answer')} {a : α} :
    (p.reinterpret answer).Yields inner a ↔
      ∃ outer, p.Yields outer a ∧ Expands answer outer inner := by
  induction p generalizing inner with
  | done b =>
    rw [reinterpret, yields_done_iff]
    constructor
    · rintro ⟨rfl, rfl⟩
      exact ⟨[], .done a, .nil⟩
    · rintro ⟨outer, houter, hexp⟩
      obtain ⟨rfl, rfl⟩ := yields_done_iff.mp houter
      exact ⟨expands_nil_iff.mp hexp, rfl⟩
  | ask q next ih =>
    rw [reinterpret, yields_bind_iff]
    constructor
    · rintro ⟨b, first, second, hfirst, hsecond, rfl⟩
      obtain ⟨outer, houter, hexp⟩ := (ih b).mp hsecond
      exact ⟨⟨q, b⟩ :: outer, .ask b houter, .cons hfirst hexp⟩
    · rintro ⟨outer, houter, hexp⟩
      obtain ⟨b, rest, rfl, hrest⟩ := yields_ask_iff.mp houter
      obtain ⟨part, tail, hpart, htail, rfl⟩ := expands_cons_iff.mp hexp
      exact ⟨b, part, tail, hpart, (ih b).mpr ⟨rest, hrest, htail⟩, rfl⟩

/-! ### What holds whatever the answers are -/

theorem Every.mono {P : Ask → Prop} {Q R : α → Prop} {p : Program Ask Answer α} (h : p.Every P Q)
    (hQR : ∀ a, Q a → R a) : p.Every P R := by
  induction p with
  | done a => exact hQR a h
  | ask q next ih => exact ⟨h.1, fun answer => ih answer (h.2 answer)⟩

theorem Every.bind {P : Ask → Prop} {Q : α → Prop} {R : β → Prop} {p : Program Ask Answer α}
    {f : α → Program Ask Answer β} (hp : p.Every P Q) (hf : ∀ a, Q a → (f a).Every P R) :
    (p >>= f).Every P R := by
  induction p with
  | done a => exact hf a hp
  | ask q next ih => exact ⟨hp.1, fun answer => ih answer (hp.2 answer)⟩

theorem every_request {P : Ask → Prop} {q : Ask} (h : P q) :
    (request q : Program Ask Answer (Answer q)).Every P fun _ => True :=
  ⟨h, fun _ => trivial⟩

/-- **What holds whatever the answers are holds of every run.** -/
theorem Every.of_yields {P : Ask → Prop} {Q : α → Prop} {p : Program Ask Answer α}
    (h : p.Every P Q) {trace : List (Exchange Ask Answer)} {a : α} (hp : p.Yields trace a) :
    (∀ exchange ∈ trace, P exchange.1) ∧ Q a := by
  induction hp with
  | done a => exact ⟨fun _ hmem => absurd hmem List.not_mem_nil, h⟩
  | ask answer _ ih =>
    obtain ⟨hrest, hresult⟩ := ih (h.2 answer)
    refine ⟨fun exchange hmem => ?_, hresult⟩
    rcases List.mem_cons.mp hmem with rfl | hmem
    · exact h.1
    · exact hrest exchange hmem

end ServerMigration.Program
