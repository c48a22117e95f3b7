/-
Computations that ask their surroundings and go on with the answers.

A program of the bot (routing a line, running a redemption, joining a channel) is a value of
type `Dialogue I α`: either its result, or a query together with what to do with each answer.
The queries that may be asked, and the type of the answer to each, are the interface `I`. The
same dialogue can be run against a state (`Dialogue.run`), expressed through a wider interface
(`Dialogue.through`), or stopped at a query and resumed later.
-/

namespace ChannelBot

/-- What a dialogue may ask, and the type of the answer to each query. -/
structure Interface where
  Query : Type
  Answer : Query → Type

/-- A computation that ends with a value or asks a query and goes on with its answer. -/
inductive Dialogue (I : Interface) (α : Type) : Type where
  | done (a : α)
  | ask (q : I.Query) (next : I.Answer q → Dialogue I α)

namespace Dialogue

variable {I J : Interface} {α β : Type}

/-- Goes on with a second dialogue after the first has ended. -/
def bind : Dialogue I α → (α → Dialogue I β) → Dialogue I β
  | .done a, f => f a
  | .ask q next, f => .ask q fun r => bind (next r) f

instance : Monad (Dialogue I) where
  pure := .done
  bind := bind

/-- The dialogue that asks one query and ends with its answer. -/
def query (q : I.Query) : Dialogue I (I.Answer q) := .ask q .done

/-- Answers every query by a dialogue over another interface. -/
def through (h : (q : I.Query) → Dialogue J (I.Answer q)) : Dialogue I α → Dialogue J α
  | .done a => .done a
  | .ask q next => bind (h q) fun r => through h (next r)

/-- Answers every query in a monad. -/
def run {m : Type → Type} [Monad m] (h : (q : I.Query) → m (I.Answer q)) : Dialogue I α → m α
  | .done a => pure a
  | .ask q next => do run h (next (← h q))

@[simp] theorem pure_eq (a : α) : (pure a : Dialogue I α) = .done a := rfl

@[simp] theorem bind_eq (x : Dialogue I α) (f : α → Dialogue I β) : x >>= f = bind x f := rfl

@[simp] theorem done_bind (a : α) (f : α → Dialogue I β) : bind (.done a) f = f a := rfl

@[simp] theorem ask_bind (q : I.Query) (next : I.Answer q → Dialogue I α)
    (f : α → Dialogue I β) : bind (.ask q next) f = .ask q fun r => bind (next r) f := rfl

theorem bind_done (x : Dialogue I α) : bind x .done = x := by
  induction x with
  | done a => rfl
  | ask q next ih => simp [ih]

theorem bind_assoc {γ : Type} (x : Dialogue I α) (f : α → Dialogue I β) (g : β → Dialogue I γ) :
    bind (bind x f) g = bind x fun a => bind (f a) g := by
  induction x with
  | done a => rfl
  | ask q next ih => simp [ih]

end Dialogue

end ChannelBot
