/-
Dialogues that take turns at one state. A turn is a question of one of them, answered at once; what
happens in between is up to the surroundings. `Interleaved` are the turns that can be taken, in any
order. Whatever the order, each dialogue is where its own turns lead it (`Interleaved.leads`), and
each turn was taken at a state to which the turns before it had led (`Interleaved.cut`,
`Interleaved.last`). A dialogue that keeps a discipline asks, in any order of the turns, what its own
turns so far allow (`Interleaved.keeps`). `Plays` is a dialogue that has the state for itself.
-/
import ChannelBot.Proofs.Dialogue.Runs

namespace ChannelBot

/-! ## What happened since -/

/-- A thing happened, and since then no other. -/
def Since {α : Type} (happened ended : α → Prop) (log : List α) : Prop :=
  ∃ earlier t later, log = earlier ++ t :: later ∧ happened t ∧ ∀ t' ∈ later, ¬ ended t'

section Since

variable {α : Type} {happened ended : α → Prop} {log : List α} {t : α}

theorem not_since_nil : ¬ Since happened ended [] := by
  rintro ⟨earlier, t, later, hlog, -⟩
  simp at hlog

theorem since_snoc : Since happened ended (log ++ [t]) ↔ happened t ∨ Since happened ended log ∧ ¬ ended t := by
  constructor
  · intro h
    obtain ⟨earlier, g, later, hlog, hhappened, hlater⟩ := h
    rcases snoc_eq_append_cons_iff.mp hlog with ⟨-, -, rfl⟩ | ⟨between, rfl, rfl⟩
    · exact .inl hhappened
    · rw [List.forall_mem_append] at hlater
      exact .inr ⟨⟨earlier, g, between, rfl, hhappened, hlater.1⟩, hlater.2 t (List.mem_singleton.mpr rfl)⟩
  · intro h
    rcases h with hhappened | ⟨⟨earlier, g, later, rfl, hhappened, hlater⟩, hkeeps⟩
    · exact ⟨log, t, [], rfl, hhappened, fun _ h => absurd h List.not_mem_nil⟩
    · refine ⟨earlier, g, later ++ [t], by rw [List.append_assoc, List.cons_append], hhappened, ?_⟩
      rw [List.forall_mem_append]
      exact ⟨hlater, fun t' ht' => List.mem_singleton.mp ht' ▸ hkeeps⟩

end Since

namespace Dialogue

variable {I : Interface} {α S : Type}

/-! ## Parts of a run -/

/-- A dialogue that has asked and was answered like this goes on as another. -/
inductive Leads : Dialogue I α → List (Turn I) → Dialogue I α → Prop
  | here (x : Dialogue I α) : Leads x [] x
  | ask {q : I.Query} {next : I.Answer q → Dialogue I α} {turns : List (Turn I)} {y : Dialogue I α}
    (answer : I.Answer q) (h : Leads (next answer) turns y) : Leads (.ask q next) (⟨q, answer⟩ :: turns) y

theorem Leads.snoc {x : Dialogue I α} {turns : List (Turn I)} {q : I.Query} {next : I.Answer q → Dialogue I α}
    (h : Leads x turns (.ask q next)) (answer : I.Answer q) : Leads x (turns ++ [⟨q, answer⟩]) (next answer) := by
  generalize hy : Dialogue.ask q next = y at h
  induction h with
  | here x =>
    subst hy
    exact .ask answer (.here _)
  | ask a _ ih => exact .ask a (ih hy)

theorem Leads.runs {x y : Dialogue I α} {turns rest : List (Turn I)} {a : α} (h : Leads x turns y)
    (hy : Runs y rest a) : Runs x (turns ++ rest) a := by
  induction h with
  | here x => exact hy
  | ask answer _ ih => exact .ask answer (ih hy)

/-! ## Turns -/

/-- A state that dialogues share: what a question does to it and how it is answered, and how it may
change on its own. -/
structure Shared (I : Interface) (S : Type) where
  serve : S → (q : I.Query) → S → I.Answer q → Prop
  drift : S → S → Prop

/-- Dialogues that began like this have taken these turns, each under the number of its dialogue,
and have come to this state and go on like this. -/
inductive Interleaved (w : Shared I S) (s₀ : S) (threads₀ : List (Dialogue I α)) :
    List (Nat × Turn I) → S → List (Dialogue I α) → Prop
  | start : Interleaved w s₀ threads₀ [] s₀ threads₀
  | turn {log : List (Nat × Turn I)} {s s' : S} {threads : List (Dialogue I α)} {i : Nat} {q : I.Query}
    {next : I.Answer q → Dialogue I α} {answer : I.Answer q} (h : Interleaved w s₀ threads₀ log s threads)
    (hi : threads[i]? = some (.ask q next)) (hserve : w.serve s q s' answer) :
    Interleaved w s₀ threads₀ (log ++ [(i, ⟨q, answer⟩)]) s' (threads.set i (next answer))
  | drift {log : List (Nat × Turn I)} {s s' : S} {threads : List (Dialogue I α)}
    (h : Interleaved w s₀ threads₀ log s threads) (hdrift : w.drift s s') : Interleaved w s₀ threads₀ log s' threads

/-- The turns of one dialogue. -/
def turnsOf (i : Nat) (log : List (Nat × Turn I)) : List (Turn I) :=
  log.filterMap fun t => if t.1 = i then some t.2 else none

theorem turnsOf_snoc (i j : Nat) (log : List (Nat × Turn I)) (t : Turn I) :
    turnsOf i (log ++ [(j, t)]) = if j = i then turnsOf i log ++ [t] else turnsOf i log := by
  rw [turnsOf, List.filterMap_append, ← turnsOf]
  by_cases hj : j = i <;> simp [hj]

theorem mem_turnsOf {i : Nat} {log : List (Nat × Turn I)} {t : Turn I} (h : t ∈ turnsOf i log) : (i, t) ∈ log := by
  rw [turnsOf, List.mem_filterMap] at h
  obtain ⟨⟨j, t'⟩, hmem, ht⟩ := h
  dsimp only at ht
  split at ht
  · rename_i hj
    cases ht
    exact hj ▸ hmem
  · cases ht

namespace Interleaved

variable {w : Shared I S} {s₀ s : S} {threads₀ threads : List (Dialogue I α)} {log : List (Nat × Turn I)}

theorem length_eq (h : Interleaved w s₀ threads₀ log s threads) : threads.length = threads₀.length := by
  induction h with
  | start => rfl
  | turn _ _ _ ih => rw [List.length_set, ih]
  | drift _ _ ih => exact ih

/-- Each dialogue is where its own turns lead it. -/
theorem leads (h : Interleaved w s₀ threads₀ log s threads) {i : Nat} {x : Dialogue I α}
    (hx : threads₀[i]? = some x) : ∃ y, threads[i]? = some y ∧ Leads x (turnsOf i log) y := by
  induction h with
  | start => exact ⟨x, hx, .here x⟩
  | @turn log s s' threads j q next answer _ hj _ ih =>
    obtain ⟨y, hy, hleads⟩ := ih
    rw [turnsOf_snoc]
    by_cases hji : j = i
    · subst hji
      obtain rfl : Dialogue.ask q next = y := Option.some.inj (hj.symm.trans hy)
      have hlt : j < threads.length := (List.getElem?_eq_some_iff.mp hj).1
      rw [if_pos rfl]
      exact ⟨next answer, List.getElem?_set_self hlt, hleads.snoc answer⟩
    · rw [if_neg hji, List.getElem?_set_ne hji]
      exact ⟨y, hy, hleads⟩
  | drift _ _ ih => exact ih

/-- Each turn was asked for by its dialogue, and served at a state to which the turns before it led. -/
theorem cut {before after : List (Nat × Turn I)} {i : Nat} {q : I.Query} {answer : I.Answer q}
    (h : Interleaved w s₀ threads₀ (before ++ (i, ⟨q, answer⟩) :: after) s threads) :
    ∃ s₁ threads₁ next s₂, Interleaved w s₀ threads₀ before s₁ threads₁ ∧ threads₁[i]? = some (.ask q next) ∧
      w.serve s₁ q s₂ answer := by
  generalize hlog : before ++ (i, ⟨q, answer⟩) :: after = log at h
  induction h generalizing after with
  | start => simp at hlog
  | @turn log s s' threads j q' next answer' h hj hserve ih =>
    rcases snoc_eq_append_cons_iff.mp hlog.symm with ⟨-, rfl, hturn⟩ | ⟨between, -, hlog⟩
    · cases hturn
      exact ⟨s, threads, next, s', h, hj, hserve⟩
    · exact ih hlog.symm
  | drift _ _ ih => exact ih hlog

/-- What the last turn brought about holds as long as the state keeps it on its own. -/
theorem last {P : S → Prop} {before : List (Nat × Turn I)} {i : Nat} {q : I.Query} {answer : I.Answer q}
    (h : Interleaved w s₀ threads₀ (before ++ [(i, ⟨q, answer⟩)]) s threads)
    (hserve : ∀ s₁ s₂ threads₁, Interleaved w s₀ threads₀ before s₁ threads₁ → w.serve s₁ q s₂ answer → P s₂)
    (hdrift : ∀ s₁ s₂, w.drift s₁ s₂ → P s₁ → P s₂) : P s := by
  generalize hlog : before ++ [(i, ⟨q, answer⟩)] = log at h
  induction h with
  | start => simp at hlog
  | turn h hj hserved =>
    obtain ⟨rfl, ht⟩ := List.append_inj' hlog rfl
    cases ht
    exact hserve _ _ _ h hserved
  | drift _ hd ih => exact hdrift _ _ hd (ih hlog)

end Interleaved

/-! ## Disciplines -/

/-- What a dialogue may ask in a phase, and the phase that a turn leads to. -/
structure Discipline (I : Interface) (P : Type) where
  allows : P → I.Query → Prop
  after : P → Turn I → P

/-- From a phase on, a dialogue asks only what is allowed, whatever the answers are, and ends in a phase and with a
value like this. -/
def Keeps {P : Type} (d : Discipline I P) (ends : P → α → Prop) : P → Dialogue I α → Prop
  | p, .done a => ends p a
  | p, .ask q next => d.allows p q ∧ ∀ answer, Keeps d ends (d.after p ⟨q, answer⟩) (next answer)

section Keeps

variable {P : Type} {d : Discipline I P} {ends : P → α → Prop} {p : P}

theorem Keeps.mono {x : Dialogue I α} {ends' : P → α → Prop} (h : Keeps d ends p x)
    (hends : ∀ p a, ends p a → ends' p a) : Keeps d ends' p x := by
  induction x generalizing p with
  | done a => exact hends p a h
  | ask q next ih => exact ⟨h.1, fun answer => ih answer (h.2 answer)⟩

/-- A dialogue after another goes on in the phase in which the first one ended. -/
theorem keeps_bind {β : Type} {x : Dialogue I β} {f : β → Dialogue I α} :
    Keeps d ends p (bind x f) ↔ Keeps d (fun p b => Keeps d ends p (f b)) p x := by
  induction x generalizing p with
  | done b => exact Iff.rfl
  | ask q next ih => exact and_congr_right fun _ => forall_congr' fun answer => ih answer

/-- Questions that are allowed in a phase and do not end it. -/
theorem AsksOnly.keeps {x : Dialogue I α} {Q : I.Query → Prop} (h : x.AsksOnly Q)
    (hQ : ∀ q, Q q → d.allows p q ∧ ∀ answer, d.after p ⟨q, answer⟩ = p) : Keeps d (fun p' _ => p' = p) p x := by
  induction h with
  | done a => exact rfl
  | ask hq _ ih =>
    obtain ⟨hallows, hafter⟩ := hQ _ hq
    exact ⟨hallows, fun answer => (hafter answer).symm ▸ ih answer⟩

theorem Leads.keeps {x y : Dialogue I α} {turns : List (Turn I)} (h : Leads x turns y) (hx : Keeps d ends p x) :
    Keeps d ends (turns.foldl d.after p) y := by
  induction h generalizing p with
  | here x => exact hx
  | ask answer _ ih => exact ih (hx.2 answer)

/-- In any order of turns, what a dialogue asks next is allowed in the phase to which its own turns have led. -/
theorem Interleaved.keeps {w : Shared I S} {s₀ s : S} {threads₀ threads : List (Dialogue I α)}
    {log : List (Nat × Turn I)} {i : Nat} {x : Dialogue I α} {q : I.Query} {next : I.Answer q → Dialogue I α}
    (h : Interleaved w s₀ threads₀ log s threads) (hx : threads₀[i]? = some x) (hkeeps : Keeps d ends p x)
    (hi : threads[i]? = some (.ask q next)) : d.allows ((turnsOf i log).foldl d.after p) q := by
  obtain ⟨y, hy, hleads⟩ := h.leads hx
  obtain rfl : y = .ask q next := Option.some.inj (hy.symm.trans hi)
  exact (hleads.keeps hkeeps).1

end Keeps

/-! ## A dialogue alone -/

/-- With a state for itself, a dialogue asks and is answered like this, and goes on like this at another state. -/
inductive Plays (w : Shared I S) : S → Dialogue I α → List (Turn I) → S → Dialogue I α → Prop
  | here (s : S) (x : Dialogue I α) : Plays w s x [] s x
  | ask {s s₁ s' : S} {q : I.Query} {next : I.Answer q → Dialogue I α} {answer : I.Answer q} {turns : List (Turn I)}
    {y : Dialogue I α} (hserve : w.serve s q s₁ answer) (h : Plays w s₁ (next answer) turns s' y) :
    Plays w s (.ask q next) (⟨q, answer⟩ :: turns) s' y

section Plays

variable {w : Shared I S} {s s' : S} {turns : List (Turn I)} {a : α}

theorem plays_done_iff {y : Dialogue I α} : Plays w s (.done a) turns s' y ↔ turns = [] ∧ s' = s ∧ y = .done a := by
  constructor
  · intro h
    cases h
    exact ⟨rfl, rfl, rfl⟩
  · rintro ⟨rfl, rfl, rfl⟩
    exact .here s' _

/-- A dialogue that asks waits for the answer, or goes on with it. -/
theorem plays_ask_iff {q : I.Query} {next : I.Answer q → Dialogue I α} {y : Dialogue I α} :
    Plays w s (.ask q next) turns s' y ↔ (turns = [] ∧ s' = s ∧ y = .ask q next) ∨
      ∃ s₁ answer rest, turns = ⟨q, answer⟩ :: rest ∧ w.serve s q s₁ answer ∧ Plays w s₁ (next answer) rest s' y := by
  constructor
  · intro h
    cases h with
    | here => exact .inl ⟨rfl, rfl, rfl⟩
    | ask hserve h => exact .inr ⟨_, _, _, rfl, hserve, h⟩
  · rintro (⟨rfl, rfl, rfl⟩ | ⟨s₁, answer, rest, rfl, hserve, h⟩)
    · exact .here s' _
    · exact .ask hserve h

/-- One dialogue after another plays as the first to its end, and then as the second. -/
theorem plays_bind_done {β : Type} {x : Dialogue I β} {f : β → Dialogue I α} :
    Plays w s (bind x f) turns s' (.done a) ↔ ∃ first rest b s₁, turns = first ++ rest ∧
      Plays w s x first s₁ (.done b) ∧ Plays w s₁ (f b) rest s' (.done a) := by
  induction x generalizing s turns with
  | done b =>
    constructor
    · intro h
      exact ⟨[], turns, b, s, rfl, .here s _, h⟩
    · rintro ⟨first, rest, b', s₁, rfl, hx, hf⟩
      obtain ⟨rfl, rfl, hb⟩ := plays_done_iff.mp hx
      cases hb
      exact hf
  | ask q next ih =>
    rw [ask_bind, plays_ask_iff]
    simp only [reduceCtorEq, and_false, false_or, ih]
    constructor
    · rintro ⟨s₁, answer, _, rfl, hserve, first, rest, b, s₂, rfl, hx, hf⟩
      exact ⟨⟨q, answer⟩ :: first, rest, b, s₂, rfl, .ask hserve hx, hf⟩
    · rintro ⟨first, rest, b, s₂, rfl, hx, hf⟩
      rcases plays_ask_iff.mp hx with ⟨-, -, hdone⟩ | ⟨s₁, answer, first', rfl, hserve, hx'⟩
      · cases hdone
      · exact ⟨s₁, answer, _, rfl, hserve, first', rest, b, s₂, rfl, hx', hf⟩

theorem Plays.of_nil {x y : Dialogue I α} (h : Plays w s x [] s' y) : s' = s ∧ y = x := by
  cases h
  exact ⟨rfl, rfl⟩

theorem Plays.serve_of_single {x y : Dialogue I α} {q : I.Query} {answer : I.Answer q}
    (h : Plays w s x [⟨q, answer⟩] s' y) : w.serve s q s' answer := by
  cases h with
  | ask hserve h =>
    obtain ⟨rfl, -⟩ := h.of_nil
    exact hserve

/-- Where a dialogue plays to, its turns lead it. -/
theorem Plays.leads {x y : Dialogue I α} (h : Plays w s x turns s' y) : Leads x turns y := by
  induction h with
  | here s x => exact .here x
  | ask _ _ ih => exact .ask _ ih

theorem Plays.runs {x : Dialogue I α} (h : Plays w s x turns s' (.done a)) : Runs x turns a := by
  rw [← List.append_nil turns]
  exact h.leads.runs (.done a)

theorem Plays.bind {β : Type} {x : Dialogue I β} {f : β → Dialogue I α} {s₁ : S} {first rest : List (Turn I)} {b : β}
    {y : Dialogue I α} (hx : Plays w s x first s₁ (.done b)) (hf : Plays w s₁ (f b) rest s' y) :
    Plays w s (Dialogue.bind x f) (first ++ rest) s' y := by
  generalize hdone : Dialogue.done b = z at hx
  induction hx with
  | here s x =>
    subst hdone
    exact hf
  | ask hserve _ ih => exact .ask hserve (ih hf hdone)

/-- While the others wait, one of several dialogues can play as it does alone. -/
theorem Interleaved.plays {w : Shared I S} {s₀ s s' : S} {threads₀ threads : List (Dialogue I α)}
    {log : List (Nat × Turn I)} {i : Nat} {x y : Dialogue I α} {turns : List (Turn I)}
    (h : Interleaved w s₀ threads₀ log s threads) (hi : threads[i]? = some x) (hplays : Plays w s x turns s' y) :
    Interleaved w s₀ threads₀ (log ++ turns.map (i, ·)) s' (threads.set i y) := by
  induction hplays generalizing log threads with
  | here s x =>
    obtain ⟨hlt, hx⟩ := List.getElem?_eq_some_iff.mp hi
    rw [List.map_nil, List.append_nil, ← hx, List.set_getElem_self]
    exact h
  | ask hserve _ ih =>
    have hnext := ih (h.turn hi hserve) (List.getElem?_set_self (List.getElem?_eq_some_iff.mp hi).1)
    rw [List.set_set, List.append_assoc] at hnext
    exact hnext

end Plays

end Dialogue

/-! ## Attempts that keep a discipline -/

namespace Attempt

open Dialogue

variable {I : Interface} {P α β : Type} {d : Discipline I P} {p : P} {ends : P → Except Fault β → Prop}

/-- An attempt after another goes on in the phase in which the first one ended well. -/
theorem keeps_bind {x : Attempt I α} {f : α → Attempt I β} {Q : P → Except Fault α → Prop}
    (hx : Keeps d Q p x.outcome) (hok : ∀ p a, Q p (.ok a) → Keeps d ends p (f a).outcome)
    (herror : ∀ p e, Q p (.error e) → ends p (.error e)) : Keeps d ends p (x >>= f).outcome := by
  rw [outcome_bind, Dialogue.keeps_bind]
  refine hx.mono fun p y hy => ?_
  cases y with
  | ok a => exact hok p a hy
  | error e => exact herror p e hy

theorem keeps_query_bind {q : I.Query} {f : I.Answer q → Attempt I β} :
    Keeps d ends p (sure (query q) >>= f).outcome ↔
      d.allows p q ∧ ∀ answer, Keeps d ends (d.after p ⟨q, answer⟩) (f answer).outcome := Iff.rfl

theorem keeps_sure_bind {x : Dialogue I α} {f : α → Attempt I β}
    (hx : Keeps d (fun p a => Keeps d ends p (f a).outcome) p x) : Keeps d ends p (sure x >>= f).outcome := by
  rw [outcome_bind, outcome_sure, Dialogue.bind_assoc, Dialogue.keeps_bind]
  exact hx

theorem plays_bind {S : Type} {w : Shared I S} {s s₁ s' : S} {x : Attempt I α} {f : α → Attempt I β}
    {t u : List (Turn I)} {a : α} {y : Dialogue I (Except Fault β)} (hx : Plays w s x.outcome t s₁ (.done (.ok a)))
    (hf : Plays w s₁ (f a).outcome u s' y) : Plays w s (x >>= f).outcome (t ++ u) s' y := by
  rw [outcome_bind]
  exact hx.bind hf

theorem plays_sure_bind {S : Type} {w : Shared I S} {s s₁ s' : S} {x : Dialogue I α} {f : α → Attempt I β}
    {t u : List (Turn I)} {a : α} {y : Dialogue I (Except Fault β)} (hx : Plays w s x t s₁ (.done a))
    (hf : Plays w s₁ (f a).outcome u s' y) : Plays w s (sure x >>= f).outcome (t ++ u) s' y := by
  rw [outcome_bind, outcome_sure, Dialogue.bind_assoc]
  exact hx.bind hf

theorem plays_query_bind {S : Type} {w : Shared I S} {s s₁ s' : S} {q : I.Query} {answer : I.Answer q}
    {f : I.Answer q → Attempt I β} {rest : List (Turn I)} {y : Dialogue I (Except Fault β)}
    (hserve : w.serve s q s₁ answer) (hf : Plays w s₁ (f answer).outcome rest s' y) :
    Plays w s (sure (query q) >>= f).outcome (⟨q, answer⟩ :: rest) s' y := .ask hserve hf

section Done

variable {S : Type} {w : Shared I S} {s s' : S} {turns : List (Turn I)} {r : Except Fault β}

/-- An attempt after another plays to an end only if the first one ended well. -/
theorem plays_bind_done {x : Attempt I α} {f : α → Attempt I β} :
    Plays w s (x >>= f).outcome turns s' (.done r) ↔
      (∃ first rest a s₁, turns = first ++ rest ∧ Plays w s x.outcome first s₁ (.done (.ok a)) ∧
        Plays w s₁ (f a).outcome rest s' (.done r)) ∨
      ∃ e, Plays w s x.outcome turns s' (.done (.error e)) ∧ r = .error e := by
  rw [outcome_bind, Dialogue.plays_bind_done]
  constructor
  · rintro ⟨first, rest, y, s₁, rfl, hx, hf⟩
    cases y with
    | ok a => exact .inl ⟨first, rest, a, s₁, rfl, hx, hf⟩
    | error e =>
      obtain ⟨rfl, rfl, hr⟩ := plays_done_iff.mp hf
      cases hr
      rw [List.append_nil]
      exact .inr ⟨e, hx, rfl⟩
  · rintro (⟨first, rest, a, s₁, rfl, hx, hf⟩ | ⟨e, hx, rfl⟩)
    · exact ⟨first, rest, .ok a, s₁, rfl, hx, hf⟩
    · exact ⟨turns, [], .error e, s', (List.append_nil _).symm, hx, .here ..⟩

theorem plays_sure_bind_done {x : Dialogue I α} {f : α → Attempt I β} :
    Plays w s (sure x >>= f).outcome turns s' (.done r) ↔ ∃ first rest a s₁, turns = first ++ rest ∧
      Plays w s x first s₁ (.done a) ∧ Plays w s₁ (f a).outcome rest s' (.done r) := by
  rw [outcome_bind, outcome_sure, Dialogue.bind_assoc, Dialogue.plays_bind_done]
  rfl

theorem plays_query_bind_done {q : I.Query} {f : I.Answer q → Attempt I β} :
    Plays w s (sure (query q) >>= f).outcome turns s' (.done r) ↔ ∃ s₁ answer rest, turns = ⟨q, answer⟩ :: rest ∧
      w.serve s q s₁ answer ∧ Plays w s₁ (f answer).outcome rest s' (.done r) := by
  constructor
  · intro h
    rcases plays_ask_iff.mp h with ⟨-, -, hdone⟩ | hasked
    · cases hdone
    · exact hasked
  · rintro ⟨s₁, answer, rest, rfl, hserve, hrest⟩
    exact .ask hserve hrest

theorem plays_pure_done {b : β} :
    Plays w s (pure b : Attempt I β).outcome turns s' (.done r) ↔ turns = [] ∧ s' = s ∧ r = .ok b := by
  refine plays_done_iff.trans (and_congr_right fun _ => and_congr_right fun _ => ?_)
  exact ⟨fun h => Dialogue.done.inj h, fun h => h ▸ rfl⟩

theorem plays_fail_done {f : Fault} :
    Plays w s (fail f : Attempt I β).outcome turns s' (.done r) ↔ turns = [] ∧ s' = s ∧ r = .error f := by
  refine plays_done_iff.trans (and_congr_right fun _ => and_congr_right fun _ => ?_)
  exact ⟨fun h => Dialogue.done.inj h, fun h => h ▸ rfl⟩

theorem plays_ofExcept_done {x : Except Fault β} :
    Plays w s (ofExcept x : Attempt I β).outcome turns s' (.done r) ↔ turns = [] ∧ s' = s ∧ r = x := by
  cases x with
  | ok b => exact plays_pure_done
  | error f => exact plays_fail_done

end Done

end Attempt

end ChannelBot
