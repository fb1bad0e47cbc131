/-!
Tasks and what they ask of their surroundings. A task is either done or asks a
question and goes on with the answer, so the questions are the places where
tasks that run side by side may be interleaved. `run` answers all questions of
one task from a state, with nothing in between; `step` answers one.
-/

namespace BidFleet

/-- Questions, each with the type of its answer. -/
structure Interface where
  Question : Type
  Answer : Question → Type

/-- Answers every question from a state and gives the state afterwards. -/
abbrev Handler (I : Interface) (σ : Type) := (q : I.Question) → σ → I.Answer q × σ

inductive Task (I : Interface) (α : Type) where
  | done (a : α)
  | ask (q : I.Question) (next : I.Answer q → Task I α)

namespace Task

variable {I J : Interface} {α β σ : Type}

def bind : Task I α → (α → Task I β) → Task I β
  | done a, f => f a
  | ask q next, f => ask q (fun r => (next r).bind f)

instance : Monad (Task I) where
  pure := done
  bind := bind

/-- The task that asks one question and gives its answer. -/
def query (q : I.Question) : Task I (I.Answer q) := ask q done

/-- A task whose questions are put by asking others in their place. -/
def via (f : (q : I.Question) → Task J (I.Answer q)) : Task I α → Task J α
  | done a => done a
  | ask q next => (f q).bind (fun r => (next r).via f)

/-- The result of a task, and the state after all its questions. -/
def run (h : Handler I σ) : Task I α → σ → α × σ
  | done a, s => (a, s)
  | ask q next, s => (next (h q s).1).run h (h q s).2

/-- One question answered; a task that is done stays as it is. -/
def step (h : Handler I σ) : Task I α → σ → Task I α × σ
  | done a, s => (done a, s)
  | ask q next, s => (next (h q s).1, (h q s).2)

@[simp] theorem run_done (h : Handler I σ) (a : α) (s : σ) : (done a : Task I α).run h s = (a, s) :=
  rfl

end Task

end BidFleet
