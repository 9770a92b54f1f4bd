/-!
# Programs that ask their surroundings

Everything the migration does to the outside world (a command on a host, a call to the
datacenter, a saved document, a sleep) is a *question* with a typed answer.  A program is a
value: either it is done, or it holds one question and says how it goes on for every answer.
What holds of a program for all answers is then a plain induction over that value, and running
it is a fold with a function that answers.

## Main definitions

* `Program Ask Answer α` : programs over the questions `Ask` that end with an `α`.
* `Program.run` : runs a program in a monad that can answer its questions.
* `Program.reinterpret` : answers the questions of one program by other programs.
* `Program.Yields` : the program can ask this list of answered questions and end with this
  result.
* `Program.Every` : properties of all questions and of the result, whatever the answers are.
-/

namespace ServerMigration

/-- A computation that may put questions to its surroundings; the type of an answer depends on
the question. -/
inductive Program (Ask : Type) (Answer : Ask → Type) (α : Type) : Type
  /-- Nothing is left to ask. -/
  | done (result : α)
  /-- Put a question and go on with its answer. -/
  | ask (question : Ask) (next : Answer question → Program Ask Answer α)

namespace Program

variable {Ask : Type} {Answer : Ask → Type} {α β γ : Type}

/-- Runs the first program, then the one chosen by its result. -/
protected def bind : Program Ask Answer α → (α → Program Ask Answer β) → Program Ask Answer β
  | done a, f => f a
  | ask q next, f => ask q fun answer => (next answer).bind f

instance : Monad (Program Ask Answer) where
  pure := done
  bind := Program.bind

@[simp] theorem pure_eq (a : α) : (pure a : Program Ask Answer α) = done a := rfl

@[simp] theorem done_bind (a : α) (f : α → Program Ask Answer β) : (done a >>= f) = f a := rfl

@[simp] theorem ask_bind (q : Ask) (next : Answer q → Program Ask Answer α)
    (f : α → Program Ask Answer β) :
    (ask q next >>= f) = ask q fun answer => next answer >>= f := rfl

theorem bind_done (p : Program Ask Answer α) : (p >>= done) = p := by
  induction p with
  | done a => rfl
  | ask q next ih => simp only [ask_bind, ih]

protected theorem bind_assoc (p : Program Ask Answer α) (f : α → Program Ask Answer β)
    (g : β → Program Ask Answer γ) : (p >>= f >>= g) = (p >>= fun a => f a >>= g) := by
  induction p with
  | done a => rfl
  | ask q next ih => simp only [ask_bind, ih]

instance : LawfulMonad (Program Ask Answer) :=
  LawfulMonad.mk' _ bind_done (fun _ _ => rfl) Program.bind_assoc

/-- The program that puts one question and ends with its answer. -/
def request (q : Ask) : Program Ask Answer (Answer q) :=
  ask q done

@[simp] theorem request_bind (q : Ask) (f : Answer q → Program Ask Answer β) :
    (request q >>= f) = ask q f := rfl

/-- Runs a program in a monad that can answer its questions. -/
def run {m : Type → Type} [Monad m] (answer : (q : Ask) → m (Answer q)) :
    Program Ask Answer α → m α
  | done a => pure a
  | ask q next => do run answer (next (← answer q))

/-- Replaces every question by a program over other questions. -/
def reinterpret {Ask' : Type} {Answer' : Ask' → Type}
    (answer : (q : Ask) → Program Ask' Answer' (Answer q)) :
    Program Ask Answer α → Program Ask' Answer' α
  | done a => done a
  | ask q next => answer q >>= fun a => reinterpret answer (next a)

/-! ### What a program may do -/

/-- A question together with an answer to it. -/
abbrev Exchange (Ask : Type) (Answer : Ask → Type) : Type := (q : Ask) × Answer q

/-- `p.Yields trace a` says that, with the answers of `trace`, `p` puts exactly the questions of
`trace` and ends with `a`. -/
inductive Yields : Program Ask Answer α → List (Exchange Ask Answer) → α → Prop
  | done (a : α) : Yields (done a) [] a
  | ask {q : Ask} {next : Answer q → Program Ask Answer α} {trace : List (Exchange Ask Answer)}
      {a : α} (answer : Answer q) (rest : Yields (next answer) trace a) :
      Yields (ask q next) (⟨q, answer⟩ :: trace) a

/-- `p.Every P Q` says that, whatever the answers are, `p` puts only questions with `P` and ends
with a result with `Q`. -/
def Every (P : Ask → Prop) (Q : α → Prop) : Program Ask Answer α → Prop
  | done a => Q a
  | ask q next => P q ∧ ∀ answer, Every P Q (next answer)

@[simp] theorem every_done {P : Ask → Prop} {Q : α → Prop} {a : α} :
    (done a : Program Ask Answer α).Every P Q ↔ Q a := Iff.rfl

@[simp] theorem every_ask {P : Ask → Prop} {Q : α → Prop} {q : Ask}
    {next : Answer q → Program Ask Answer α} :
    (ask q next).Every P Q ↔ P q ∧ ∀ answer, (next answer).Every P Q := Iff.rfl

end Program

end ServerMigration
