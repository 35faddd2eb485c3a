/-!
# Programs that ask questions

A program either is done or asks its surroundings one question and goes on with the answer. What the
questions are is a signature. A program says nothing about who answers: the same program can be run
against a store held in memory, against answers given in advance, or interleaved with others one
question at a time.
-/

namespace Gatehouse

/-- The questions that a program may ask, with the type of the answer to each. -/
structure Signature where
  Ask : Type
  Answer : Ask → Type

/-- A program over a signature with a result of type `α`. -/
inductive Program (S : Signature) (α : Type) where
  | done (a : α)
  | ask (question : S.Ask) (next : S.Answer question → Program S α)

namespace Program

variable {S T : Signature} {α β : Type}

/-- One program after another. -/
def bind : Program S α → (α → Program S β) → Program S β
  | done a, f => f a
  | ask q next, f => ask q fun a => (next a).bind f

instance : Monad (Program S) where
  pure := done
  bind := bind

/-- The program that asks one question and is done with the answer. -/
def call (q : S.Ask) : Program S (S.Answer q) := ask q done

/-- Runs a program, given who answers. -/
def run {m : Type → Type} [Monad m] (answer : (q : S.Ask) → m (S.Answer q)) : Program S α → m α
  | done a => pure a
  | ask q next => answer q >>= fun a => (next a).run answer

/-- Answers the questions of a program by programs over another signature. -/
def refine (by_ : (q : S.Ask) → Program T (S.Answer q)) : Program S α → Program T α
  | done a => done a
  | ask q next => (by_ q).bind fun a => (next a).refine by_

@[simp] theorem pure_eq_done (a : α) : (pure a : Program S α) = done a := rfl

@[simp] theorem bind_eq (p : Program S α) (f : α → Program S β) : p >>= f = p.bind f := rfl

@[simp] theorem done_bind (a : α) (f : α → Program S β) : (done a).bind f = f a := rfl

@[simp] theorem ask_bind (q : S.Ask) (next : S.Answer q → Program S α) (f : α → Program S β) :
    (ask q next).bind f = ask q fun a => (next a).bind f := rfl

@[simp] theorem bind_done (p : Program S α) : p.bind done = p := by
  induction p with
  | done a => rfl
  | ask q next ih => simp [ih]

theorem bind_assoc {γ : Type} (p : Program S α) (f : α → Program S β) (g : β → Program S γ) :
    (p.bind f).bind g = p.bind fun a => (f a).bind g := by
  induction p with
  | done a => rfl
  | ask q next ih => simp [ih]

instance : LawfulMonad (Program S) := LawfulMonad.mk' (Program S)
  (fun p => bind_done p)
  (fun _ _ => rfl)
  (fun p f g => bind_assoc p f g)

end Program

end Gatehouse
