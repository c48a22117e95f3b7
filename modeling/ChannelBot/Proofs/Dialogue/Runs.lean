/-
What happens in a dialogue: the queries it asks, each with its answer, and how it ends. `Runs`
says so for all answers that may come; `hold` lets a world answer, which may look at all that was
asked before, and what comes of that is the one run with the answers of that world (`runs_hold`,
`hold_eq_iff`). A run of two dialogues one after the other is a run of the first and then one of the
second (`runs_bind`).
-/
import ChannelBot.Attempt

namespace ChannelBot

/-- The last item of a list is the one that it is cut at, or comes after it. -/
theorem snoc_eq_append_cons_iff {α : Type} {items before after : List α} {last a : α} :
    items ++ [last] = before ++ a :: after ↔
      (after = [] ∧ items = before ∧ last = a) ∨
        ∃ between, after = between ++ [last] ∧ items = before ++ a :: between := by
  constructor
  · intro h
    rcases List.eq_nil_or_concat after with rfl | ⟨between, final, rfl⟩
    · obtain ⟨hitems, hlast⟩ := List.append_inj' h rfl
      exact .inl ⟨rfl, hitems, List.head_eq_of_cons_eq hlast⟩
    · rw [List.concat_eq_append, ← List.cons_append, ← List.append_assoc] at h
      obtain ⟨hitems, hlast⟩ := List.append_inj' h rfl
      rw [List.head_eq_of_cons_eq hlast]
      exact .inr ⟨between, List.concat_eq_append, hitems⟩
  · rintro (⟨rfl, rfl, rfl⟩ | ⟨between, rfl, rfl⟩)
    · rfl
    · simp

namespace Dialogue

variable {I : Interface} {α β : Type}

/-- A query that was asked, with the answer that came. -/
structure Turn (I : Interface) where
  query : I.Query
  answer : I.Answer query

/-- A dialogue asks and is answered like this, and ends with this value. -/
inductive Runs : Dialogue I α → List (Turn I) → α → Prop
  | done (a : α) : Runs (.done a) [] a
  | ask {q : I.Query} {next : I.Answer q → Dialogue I α} {turns : List (Turn I)} {a : α} (answer : I.Answer q)
    (h : Runs (next answer) turns a) : Runs (.ask q next) (⟨q, answer⟩ :: turns) a

/-! ## Inversion -/

@[simp] theorem runs_done {a b : α} {turns : List (Turn I)} : Runs (.done a) turns b ↔ turns = [] ∧ b = a := by
  constructor
  · intro h
    cases h
    exact ⟨rfl, rfl⟩
  · intro h
    obtain ⟨rfl, rfl⟩ := h
    exact .done b

@[simp] theorem runs_ask {q : I.Query} {next : I.Answer q → Dialogue I α} {turns : List (Turn I)} {a : α} :
    Runs (.ask q next) turns a ↔ ∃ answer rest, turns = ⟨q, answer⟩ :: rest ∧ Runs (next answer) rest a := by
  constructor
  · intro h
    cases h with
    | ask answer h => exact ⟨answer, _, rfl, h⟩
  · intro h
    obtain ⟨answer, rest, rfl, h⟩ := h
    exact .ask answer h

theorem runs_query {q : I.Query} {turns : List (Turn I)} {a : I.Answer q} :
    Runs (query q) turns a ↔ turns = [⟨q, a⟩] := by
  simp only [query, runs_ask, runs_done]
  constructor
  · intro h
    obtain ⟨answer, rest, rfl, rfl, rfl⟩ := h
    rfl
  · intro heq
    subst heq
    exact ⟨a, [], rfl, rfl, rfl⟩

/-- One dialogue after another runs as the first and then as the second. -/
theorem runs_bind {x : Dialogue I α} {f : α → Dialogue I β} {turns : List (Turn I)} {b : β} :
    Runs (bind x f) turns b ↔ ∃ first rest a, turns = first ++ rest ∧ Runs x first a ∧ Runs (f a) rest b := by
  induction x generalizing turns with
  | done a =>
    simp only [done_bind, runs_done]
    constructor
    · intro h
      exact ⟨[], turns, a, rfl, ⟨rfl, rfl⟩, h⟩
    · intro h
      obtain ⟨first, rest, a', rfl, ⟨rfl, rfl⟩, h⟩ := h
      exact h
  | ask q next ih =>
    simp only [ask_bind, runs_ask, ih]
    constructor
    · intro h
      obtain ⟨answer, _, rfl, first, rest, a, rfl, hx, hf⟩ := h
      exact ⟨⟨q, answer⟩ :: first, rest, a, rfl, ⟨answer, first, rfl, hx⟩, hf⟩
    · intro h
      obtain ⟨_, rest, a, rfl, ⟨answer, first, rfl, hx⟩, hf⟩ := h
      exact ⟨answer, first ++ rest, rfl, first, rest, a, rfl, hx, hf⟩

/-- The answers determine how a dialogue runs: of two runs that begin the same list of turns, each is the
other. -/
theorem Runs.eq_of_append_eq {x : Dialogue I α} {first first' rest rest' : List (Turn I)} {a a' : α}
    (h : Runs x first a) (h' : Runs x first' a') (heq : first ++ rest = first' ++ rest') :
    first = first' ∧ a = a' ∧ rest = rest' := by
  induction h generalizing first' with
  | done a =>
    obtain ⟨rfl, rfl⟩ := runs_done.mp h'
    exact ⟨rfl, rfl, heq⟩
  | ask answer _ ih =>
    obtain ⟨answer', later, rfl, hlater⟩ := runs_ask.mp h'
    obtain ⟨hturn, hrest⟩ := List.cons.inj heq
    cases hturn
    obtain ⟨rfl, ha, hrest⟩ := ih hlater hrest
    exact ⟨rfl, ha, hrest⟩

/-- After a run of the first of two dialogues comes a run of the second. -/
theorem runs_bind_after {x : Dialogue I α} {f : α → Dialogue I β} {first rest : List (Turn I)} {a : α} {b : β}
    (h : Runs x first a) : Runs (bind x f) (first ++ rest) b ↔ Runs (f a) rest b := by
  rw [runs_bind]
  constructor
  · rintro ⟨first', rest', a', heq, hx, hf⟩
    obtain ⟨rfl, rfl, rfl⟩ := h.eq_of_append_eq hx heq
    exact hf
  · intro hf
    exact ⟨first, rest, a, rfl, h, hf⟩

/-- A dialogue asks no question but such ones, whatever the answers are. -/
inductive AsksOnly (P : I.Query → Prop) : Dialogue I α → Prop
  | done (a : α) : AsksOnly P (.done a)
  | ask {q : I.Query} {next : I.Answer q → Dialogue I α} (hq : P q) (h : ∀ answer, AsksOnly P (next answer)) :
    AsksOnly P (.ask q next)

theorem AsksOnly.bind {P : I.Query → Prop} {x : Dialogue I α} {f : α → Dialogue I β} (h : x.AsksOnly P)
    (hf : ∀ a, (f a).AsksOnly P) : (Dialogue.bind x f).AsksOnly P := by
  induction h with
  | done a => exact hf a
  | ask hq _ ih => exact .ask hq ih

theorem AsksOnly.mono {P Q : I.Query → Prop} {x : Dialogue I α} (h : x.AsksOnly P) (hPQ : ∀ q, P q → Q q) :
    x.AsksOnly Q := by
  induction h with
  | done a => exact .done a
  | ask hq _ ih => exact .ask (hPQ _ hq) ih

theorem Runs.asks {P : I.Query → Prop} {x : Dialogue I α} {turns : List (Turn I)} {a : α} (h : Runs x turns a)
    (hx : x.AsksOnly P) : ∀ t ∈ turns, P t.query := by
  induction h with
  | done a => exact fun t ht => absurd ht List.not_mem_nil
  | ask answer _ ih =>
    cases hx with
    | ask hq hnext => exact List.forall_mem_cons.mpr ⟨hq, ih (hnext answer)⟩

/-! ## Worlds -/

/-- What answers: each answer may depend on all that was asked and answered before. -/
abbrev World (I : Interface) : Type := List (Turn I) → (q : I.Query) → I.Answer q

/-- What a world lets a dialogue ask after a past, and how the dialogue ends. -/
def hold (w : World I) (past : List (Turn I)) : Dialogue I α → List (Turn I) × α
  | .done a => ([], a)
  | .ask q next =>
    let turn : Turn I := ⟨q, w past q⟩
    let (turns, a) := hold w (past ++ [turn]) (next turn.answer)
    (turn :: turns, a)

theorem runs_hold (w : World I) (past : List (Turn I)) (x : Dialogue I α) :
    Runs x (hold w past x).1 (hold w past x).2 := by
  induction x generalizing past with
  | done a => exact .done a
  | ask q next ih => exact .ask (w past q) (ih _ _)

theorem hold_bind (w : World I) (past : List (Turn I)) (x : Dialogue I α) (f : α → Dialogue I β) :
    hold w past (bind x f) =
      ((hold w past x).1 ++ (hold w (past ++ (hold w past x).1) (f (hold w past x).2)).1,
        (hold w (past ++ (hold w past x).1) (f (hold w past x).2)).2) := by
  induction x generalizing past with
  | done a => simp [hold]
  | ask q next ih => simp [hold, ih]

/-- Each answer in these turns is the one that the world gives there. -/
inductive Follows (w : World I) : List (Turn I) → List (Turn I) → Prop
  | nil (past : List (Turn I)) : Follows w past []
  | cons {past rest : List (Turn I)} {t : Turn I} (ht : t.answer = w past t.query) (h : Follows w (past ++ [t]) rest) :
    Follows w past (t :: rest)

theorem follows_hold (w : World I) (past : List (Turn I)) (x : Dialogue I α) : Follows w past (hold w past x).1 := by
  induction x generalizing past with
  | done a => exact .nil past
  | ask q next ih => exact .cons rfl (ih _ _)

/-- A world lets a dialogue run in one way: as it runs with the answers of that world. -/
theorem hold_eq_iff {w : World I} {past turns : List (Turn I)} {x : Dialogue I α} {a : α} :
    hold w past x = (turns, a) ↔ Runs x turns a ∧ Follows w past turns := by
  constructor
  · intro h
    have hruns := runs_hold w past x
    have hfollows := follows_hold w past x
    rw [h] at hruns hfollows
    exact ⟨hruns, hfollows⟩
  · rintro ⟨hruns, hfollows⟩
    induction hruns generalizing past with
    | done a => rfl
    | ask answer _ ih =>
      cases hfollows with
      | cons ht h =>
        dsimp only at ht
        subst ht
        simp only [hold, ih h]

end Dialogue

/-! ## Attempts -/

namespace Attempt

open Dialogue

variable {I : Interface} {α β : Type} {turns : List (Turn I)}

theorem outcome_bind (x : Attempt I α) (f : α → Attempt I β) :
    (x >>= f).outcome = x.outcome.bind fun
      | .ok a => (f a).outcome
      | .error e => .done (.error e) := by
  show Dialogue.bind x (ExceptT.bindCont f) = _
  congr
  funext e
  cases e <;> rfl

/-- An attempt after another is made only if the first one ended well. -/
theorem runs_bind {x : Attempt I α} {f : α → Attempt I β} {b : Except Fault β} :
    Runs (x >>= f).outcome turns b ↔
      (∃ first rest a, turns = first ++ rest ∧ Runs x.outcome first (.ok a) ∧ Runs (f a).outcome rest b) ∨
        ∃ e, Runs x.outcome turns (.error e) ∧ b = .error e := by
  rw [outcome_bind, Dialogue.runs_bind]
  constructor
  · intro h
    obtain ⟨first, rest, x', rfl, hx, hf⟩ := h
    cases x' with
    | ok a => exact .inl ⟨first, rest, a, rfl, hx, hf⟩
    | error e =>
      obtain ⟨rfl, rfl⟩ := runs_done.mp hf
      rw [List.append_nil]
      exact .inr ⟨e, hx, rfl⟩
  · intro h
    rcases h with ⟨first, rest, a, rfl, hx, hf⟩ | ⟨e, hx, rfl⟩
    · exact ⟨first, rest, .ok a, rfl, hx, hf⟩
    · exact ⟨turns, [], .error e, (List.append_nil _).symm, hx, .done _⟩

theorem runs_bind_after_ok {x : Attempt I α} {f : α → Attempt I β} {first rest : List (Turn I)} {a : α}
    {b : Except Fault β} (h : Runs x.outcome first (.ok a)) :
    Runs (x >>= f).outcome (first ++ rest) b ↔ Runs (f a).outcome rest b := by
  rw [outcome_bind, Dialogue.runs_bind_after h]

/-- An attempt that asks only such questions, whatever the answers are. -/
def Asks (P : I.Query → Prop) (x : Attempt I α) : Prop := x.outcome.AsksOnly P

section Asks

variable {P : I.Query → Prop}

theorem asks_pure (a : α) : Asks P (pure a : Attempt I α) := .done _

theorem asks_fail (f : Fault) : Asks P (fail f : Attempt I α) := .done _

theorem asks_ofExcept (x : Except Fault α) : Asks P (ofExcept x : Attempt I α) := by
  cases x <;> exact .done _

theorem asks_sure {x : Dialogue I α} (h : x.AsksOnly P) : Asks P (sure x) := h.bind fun _ => .done _

theorem asks_query {q : I.Query} (h : P q) : (Dialogue.query (I := I) q).AsksOnly P := .ask h fun _ => .done _

/-- An attempt after another asks what each of them does. -/
theorem Asks.bind {x : Attempt I α} {f : α → Attempt I β} (h : Asks P x) (hf : ∀ a, Asks P (f a)) :
    Asks P (x >>= f) := by
  rw [Asks, outcome_bind]
  refine AsksOnly.bind h fun x => ?_
  cases x with
  | ok a => exact hf a
  | error e => exact .done _

theorem Asks.map {x : Attempt I α} (h : Asks P x) (f : α → β) : Asks P (f <$> x) := h.bind fun _ => asks_pure _

end Asks

theorem hold_bind_ok {w : World I} {past first : List (Turn I)} {x : Attempt I α} {a : α}
    (h : hold w past x.outcome = (first, .ok a)) (f : α → Attempt I β) :
    hold w past (x >>= f).outcome =
      (first ++ (hold w (past ++ first) (f a).outcome).1, (hold w (past ++ first) (f a).outcome).2) := by
  rw [outcome_bind, Dialogue.hold_bind, h]

theorem hold_bind_of {w : World I} {past first rest : List (Turn I)} {x : Attempt I α} {f : α → Attempt I β} {a : α}
    {b : Except Fault β} (hx : hold w past x.outcome = (first, .ok a))
    (hf : hold w (past ++ first) (f a).outcome = (rest, b)) : hold w past (x >>= f).outcome = (first ++ rest, b) := by
  rw [hold_bind_ok hx, hf]

theorem hold_bind_error {w : World I} {past first : List (Turn I)} {x : Attempt I α} {e : Fault}
    (h : hold w past x.outcome = (first, .error e)) (f : α → Attempt I β) :
    hold w past (x >>= f).outcome = (first, .error e) := by
  rw [outcome_bind, Dialogue.hold_bind, h]
  exact Prod.ext (List.append_nil first) rfl

@[simp] theorem runs_pure {a : α} {b : Except Fault α} :
    Runs (pure a : Attempt I α).outcome turns b ↔ turns = [] ∧ b = .ok a := runs_done

@[simp] theorem runs_fail {f : Fault} {b : Except Fault α} :
    Runs (fail f : Attempt I α).outcome turns b ↔ turns = [] ∧ b = .error f := runs_done

@[simp] theorem runs_ofExcept {x b : Except Fault α} :
    Runs (ofExcept x : Attempt I α).outcome turns b ↔ turns = [] ∧ b = x := by
  cases x <;> exact runs_done

theorem ofExcept_ok_bind (a : α) (f : α → Attempt I β) : (ofExcept (.ok a) >>= f) = f a := rfl

theorem runs_bind_pure {x : Attempt I α} {f : α → β} {b : Except Fault β} :
    Runs (x >>= fun a => pure (f a)).outcome turns b ↔ ∃ y, Runs x.outcome turns y ∧ b = y.map f := by
  rw [outcome_bind, Dialogue.runs_bind]
  constructor
  · intro h
    obtain ⟨first, rest, y, rfl, hx, hf⟩ := h
    have hdone : rest = [] ∧ b = y.map f := by
      cases y <;> exact runs_done.mp hf
    obtain ⟨rfl, rfl⟩ := hdone
    rw [List.append_nil]
    exact ⟨y, hx, rfl⟩
  · intro h
    obtain ⟨y, hx, rfl⟩ := h
    refine ⟨turns, [], y, (List.append_nil _).symm, hx, ?_⟩
    cases y <;> exact .done _

theorem outcome_sure (x : Dialogue I α) : (sure x).outcome = x.bind fun a => .done (.ok a) := rfl

theorem runs_sure {x : Dialogue I α} {b : Except Fault α} :
    Runs (sure x).outcome turns b ↔ ∃ a, Runs x turns a ∧ b = .ok a := by
  rw [outcome_sure, Dialogue.runs_bind]
  constructor
  · intro h
    obtain ⟨first, rest, a, rfl, hx, hdone⟩ := h
    obtain ⟨rfl, rfl⟩ := runs_done.mp hdone
    rw [List.append_nil]
    exact ⟨a, hx, rfl⟩
  · intro h
    obtain ⟨a, hx, rfl⟩ := h
    exact ⟨turns, [], a, (List.append_nil _).symm, hx, .done _⟩

theorem hold_sure_bind {w : World I} {past first rest : List (Turn I)} {x : Dialogue I α} {f : α → Attempt I β} {a : α}
    {b : Except Fault β} (hx : hold w past x = (first, a)) (hf : hold w (past ++ first) (f a).outcome = (rest, b)) :
    hold w past (sure x >>= f).outcome = (first ++ rest, b) := by
  refine hold_bind_of ?_ hf
  rw [outcome_sure, Dialogue.hold_bind, hx]
  exact Prod.ext (List.append_nil first) rfl

/-- A dialogue that does not fail goes on with its value. -/
theorem runs_sure_bind {x : Dialogue I α} {f : α → Attempt I β} {b : Except Fault β} :
    Runs (sure x >>= f).outcome turns b ↔
      ∃ first rest a, turns = first ++ rest ∧ Runs x first a ∧ Runs (f a).outcome rest b := by
  rw [outcome_bind, outcome_sure, Dialogue.bind_assoc, Dialogue.runs_bind]
  rfl

/-- An attempt that starts with a question runs on with the answer to it. -/
theorem runs_query_bind {q : I.Query} {f : I.Answer q → Attempt I β} {b : Except Fault β} :
    Runs (sure (query q) >>= f).outcome turns b ↔
      ∃ answer rest, turns = ⟨q, answer⟩ :: rest ∧ Runs (f answer).outcome rest b := by
  rw [runs_sure_bind]
  constructor
  · rintro ⟨first, rest, answer, rfl, hask, hrest⟩
    obtain rfl := runs_query.mp hask
    exact ⟨answer, rest, rfl, hrest⟩
  · rintro ⟨answer, rest, rfl, hrest⟩
    exact ⟨_, rest, answer, rfl, runs_query.mpr rfl, hrest⟩

end Attempt

end ChannelBot
