/-
Steps of the service, from a state to a state. A step keeps its state when it fails, so its course is
told by the state before, the turns, what it comes to and the state after (`Does`); steps one after the
other are told by `does_bind`. From there on the functions of the service are described by their courses,
as long as the store and the bots fail only in ways that the service survives (`IsPermitted`).
-/
import ChannelBot.Proofs.Dialogue.Runs
import ChannelBot.Service.Keeper

namespace ChannelBot.Service

open Dialogue

variable {α β : Type} {s s' : State} {turns : List (Turn surroundings)} {r : Except Fault α}

/-- A step that begins in a state asks and is answered like this, and ends like this in a state. -/
def Does (x : Step α) (s : State) (turns : List (Turn surroundings)) (r : Except Fault α) (s' : State) : Prop :=
  Runs (x.run.run s) turns (r, s')

theorem does_pure {a : α} : Does (pure a) s turns r s' ↔ turns = [] ∧ r = .ok a ∧ s' = s := by
  rw [← Prod.mk.injEq]
  exact runs_done

theorem does_settle {x : Except Fault α} : Does (settle x) s turns r s' ↔ turns = [] ∧ r = x ∧ s' = s := by
  rw [← Prod.mk.injEq]
  exact runs_done

theorem does_modify {f : State → State} {r : Except Fault Unit} :
    Does (modify f : Step Unit) s turns r s' ↔ turns = [] ∧ r = .ok () ∧ s' = f s := by
  rw [← Prod.mk.injEq]
  exact runs_done

/-- A step after another is taken only if the first one did not fail. -/
theorem does_bind {x : Step α} {f : α → Step β} {r : Except Fault β} :
    Does (x >>= f) s turns r s' ↔
      (∃ first rest a s₁, turns = first ++ rest ∧ Does x s first (.ok a) s₁ ∧ Does (f a) s₁ rest r s') ∨
        ∃ e, Does x s turns (.error e) s' ∧ r = .error e := by
  have hbind : (x >>= f).run.run s = (x.run.run s).bind fun y => (ExceptT.bindCont f y.1).run y.2 := rfl
  rw [Does, hbind, Dialogue.runs_bind]
  constructor
  · rintro ⟨first, rest, ⟨y, s₁⟩, rfl, hx, hf⟩
    cases y with
    | ok a => exact .inl ⟨first, rest, a, s₁, rfl, hx, hf⟩
    | error e =>
      obtain ⟨rfl, hend⟩ := runs_done.mp hf
      cases hend
      rw [List.append_nil]
      exact .inr ⟨e, hx, rfl⟩
  · rintro (⟨first, rest, a, s₁, rfl, hx, hf⟩ | ⟨e, hx, rfl⟩)
    · exact ⟨first, rest, (.ok a, s₁), rfl, hx, hf⟩
    · exact ⟨turns, [], (.error e, s'), (List.append_nil _).symm, hx, .done _⟩

theorem does_ask {q : Query} {r : Except Fault (Answer q)} :
    Does (ask q) s turns r s' ↔ ∃ answer, turns = [⟨q, answer⟩] ∧ r = .ok answer ∧ s' = s := by
  have hask : (ask q).run.run s = (Dialogue.query (I := surroundings) q).bind fun answer => .done (.ok answer, s) := rfl
  rw [Does, hask, Dialogue.runs_bind]
  constructor
  · rintro ⟨first, rest, answer, rfl, hquery, hdone⟩
    obtain ⟨rfl, hend⟩ := runs_done.mp hdone
    cases hend
    exact ⟨answer, by rw [runs_query.mp hquery, List.append_nil], rfl, rfl⟩
  · rintro ⟨answer, rfl, rfl, rfl⟩
    exact ⟨_, [], answer, rfl, runs_query.mpr rfl, .done _⟩

theorem does_ask_bind {q : Query} {f : Answer q → Step β} {r : Except Fault β} :
    Does (ask q >>= f) s turns r s' ↔ ∃ answer rest, turns = ⟨q, answer⟩ :: rest ∧ Does (f answer) s rest r s' := by
  rw [does_bind]
  constructor
  · rintro (⟨first, rest, a, s₁, rfl, hask, hrest⟩ | ⟨e, hask, -⟩)
    · obtain ⟨answer, rfl, ha, rfl⟩ := does_ask.mp hask
      cases ha
      exact ⟨_, rest, rfl, hrest⟩
    · obtain ⟨answer, -, ha, -⟩ := does_ask.mp hask
      cases ha
  · rintro ⟨answer, rest, rfl, hrest⟩
    exact .inl ⟨[⟨q, answer⟩], rest, answer, s, rfl, does_ask.mpr ⟨answer, rfl, rfl, rfl⟩, hrest⟩

theorem does_get_bind {f : State → Step β} {r : Except Fault β} :
    Does (get >>= f) s turns r s' ↔ Does (f s) s turns r s' := Iff.rfl

theorem does_modify_bind {g : State → State} {f : Unit → Step β} {r : Except Fault β} :
    Does (modify g >>= f) s turns r s' ↔ Does (f ()) (g s) turns r s' := Iff.rfl

theorem does_settle_bind {x : Except Fault α} {f : α → Step β} {r : Except Fault β} :
    Does (settle x >>= f) s turns r s' ↔ match x with
      | .ok a => Does (f a) s turns r s'
      | .error e => turns = [] ∧ r = .error e ∧ s' = s := by
  cases x with
  | ok a => exact Iff.rfl
  | error e =>
    dsimp only
    rw [← Prod.mk.injEq]
    exact runs_done

theorem does_tell {n : News} {r : Except Fault Unit} :
    Does (tell n) s turns r s' ↔
      ∃ answer : Except Fault Value, turns = [⟨.store n.notice.query, answer⟩] ∧ r = Notice.heard answer ∧ s' = s := by
  refine does_ask_bind.trans ⟨?_, ?_⟩
  · rintro ⟨answer, rest, rfl, hrest⟩
    obtain ⟨rfl, rfl, rfl⟩ := does_settle.mp hrest
    exact ⟨answer, rfl, rfl, rfl⟩
  · rintro ⟨answer, rfl, rfl, rfl⟩
    exact ⟨answer, [], rfl, does_settle.mpr ⟨rfl, rfl, rfl⟩⟩

/-- What was told already is only noted. -/
theorem does_announce_told {isTold : State → Bool} {n : News} {note : State → State} {r : Except Fault Unit}
    (htold : isTold s = true) : Does (announce isTold n note) s turns r s' ↔ turns = [] ∧ r = .ok () ∧ s' = note s := by
  have hskipped : Does (announce isTold n note) s turns r s' ↔ Does (modify note : Step Unit) s turns r s' := by
    refine does_get_bind.trans ?_
    rw [htold]
    exact Iff.rfl
  exact hskipped.trans does_modify

/-- Anything else is told, and noted only if the console did not fail otherwise than a store does. -/
theorem does_announce_new {isTold : State → Bool} {n : News} {note : State → State} {r : Except Fault Unit}
    (hnew : isTold s = false) : Does (announce isTold n note) s turns r s' ↔
      ∃ answer : Except Fault Value, turns = [⟨.store n.notice.query, answer⟩] ∧
        ((Notice.heard answer = .ok () ∧ r = .ok () ∧ s' = note s) ∨
          ∃ f, Notice.heard answer = .error f ∧ r = .error f ∧ s' = s) := by
  have htells : Does (announce isTold n note) s turns r s' ↔
      Does (tell n >>= fun _ => modify note : Step Unit) s turns r s' := by
    refine does_get_bind.trans ?_
    rw [hnew]
    exact Iff.rfl
  rw [htells, does_bind]
  constructor
  · rintro (⟨first, rest, _, s₁, rfl, htell, hnote⟩ | ⟨f, htell, rfl⟩)
    · obtain ⟨answer, rfl, hheard, rfl⟩ := does_tell.mp htell
      obtain ⟨rfl, rfl, rfl⟩ := does_modify.mp hnote
      exact ⟨answer, List.append_nil _, .inl ⟨hheard.symm, rfl, rfl⟩⟩
    · obtain ⟨answer, rfl, hheard, rfl⟩ := does_tell.mp htell
      exact ⟨answer, rfl, .inr ⟨f, hheard.symm, rfl, rfl⟩⟩
  · rintro ⟨answer, rfl, ⟨hheard, rfl, rfl⟩ | ⟨f, hheard, rfl, rfl⟩⟩
    · exact .inl ⟨_, [], (), s, (List.append_nil _).symm, does_tell.mpr ⟨answer, rfl, hheard.symm, rfl⟩,
        does_modify.mpr ⟨rfl, rfl, rfl⟩⟩
    · exact .inr ⟨f, does_tell.mpr ⟨answer, rfl, hheard.symm, rfl⟩, rfl⟩

/-! ## What may happen to a service -/

/-- A turn as the service survives it: the store fails in its own way only, and so does a bot that is
shut down. Making a bot may fail in any way. -/
def IsPermitted : Turn surroundings → Prop
  | ⟨.store _, answer⟩ => ∀ f, answer = .error f → ∃ cause, f = .store cause
  | ⟨.shutDown _, answer⟩ => ∀ f, answer = .error f → isSurvived f
  | _ => True

/-- A bot was made. -/
def Made (turns : List (Turn surroundings)) (bot : BotId) : Prop := ∃ a, ⟨.create a, .ok bot⟩ ∈ turns

/-- A bot was told to shut down. -/
def Shut (turns : List (Turn surroundings)) (bot : BotId) : Prop := ∃ answer, ⟨.shutDown bot, answer⟩ ∈ turns

/-- The bot that was made in a turn. -/
def made? : Turn surroundings → Option BotId
  | ⟨.create _, .ok bot⟩ => some bot
  | _ => none

theorem made_iff {bot : BotId} : Made turns bot ↔ bot ∈ turns.filterMap made? := by
  rw [List.mem_filterMap]
  constructor
  · rintro ⟨a, hmem⟩
    exact ⟨_, hmem, rfl⟩
  · rintro ⟨t, hmem, ht⟩
    unfold made? at ht
    split at ht
    · cases ht
      exact ⟨_, hmem⟩
    · cases ht

theorem made_append {first rest : List (Turn surroundings)} {bot : BotId} :
    Made (first ++ rest) bot ↔ Made first bot ∨ Made rest bot := by
  simp only [Made, List.mem_append, exists_or]

theorem shut_append {first rest : List (Turn surroundings)} {bot : BotId} :
    Shut (first ++ rest) bot ↔ Shut first bot ∨ Shut rest bot := by
  simp only [Shut, List.mem_append, exists_or]

theorem made_cons {t : Turn surroundings} {rest : List (Turn surroundings)} {bot : BotId} :
    Made (t :: rest) bot ↔ (∃ a, t = ⟨.create a, .ok bot⟩) ∨ Made rest bot := by
  simp only [Made, List.mem_cons, exists_or, eq_comm]

theorem shut_cons {t : Turn surroundings} {rest : List (Turn surroundings)} {bot : BotId} :
    Shut (t :: rest) bot ↔ (∃ answer, t = ⟨.shutDown bot, answer⟩) ∨ Shut rest bot := by
  simp only [Shut, List.mem_cons, exists_or, eq_comm]

/-- Turns in which no bot is asked for, and none is shut down but this one. -/
structure Stops (bot? : Option BotId) (turns : List (Turn surroundings)) : Prop where
  asks : ∀ a answer, ⟨.create a, answer⟩ ∉ turns
  shut : ∀ bot, Shut turns bot ↔ bot? = some bot

namespace Stops

variable {bot? : Option BotId} {first rest : List (Turn surroundings)}

theorem nil : Stops none [] where
  asks := by simp
  shut := by simp [Shut]

theorem append_idle (h : Stops bot? first) (hrest : Stops none rest) : Stops bot? (first ++ rest) where
  asks a answer hmem := (List.mem_append.mp hmem).elim (h.asks a answer) (hrest.asks a answer)
  shut bot := by
    rw [shut_append, h.shut, hrest.shut]
    simp

theorem idle_append (hfirst : Stops none first) (h : Stops bot? rest) : Stops bot? (first ++ rest) where
  asks a answer hmem := (List.mem_append.mp hmem).elim (hfirst.asks a answer) (h.asks a answer)
  shut bot := by
    rw [shut_append, h.shut, hfirst.shut]
    simp

theorem single {t : Turn surroundings} (hcreate : ∀ a, t.query ≠ .create a) (hshut : ∀ bot, t.query ≠ .shutDown bot) :
    Stops none [t] where
  asks a x hmem := hcreate a (congrArg Turn.query (List.mem_singleton.mp hmem)).symm
  shut bot := by
    constructor
    · rintro ⟨x, hmem⟩
      exact absurd (congrArg Turn.query (List.mem_singleton.mp hmem)).symm (hshut bot)
    · intro hbot
      cases hbot

theorem shutDown (bot : BotId) (answer : Answer (.shutDown bot)) : Stops (some bot) [⟨.shutDown bot, answer⟩] where
  asks := by simp
  shut other := by
    constructor
    · rintro ⟨x, hmem⟩
      cases List.mem_singleton.mp hmem
      rfl
    · rintro ⟨⟩
      exact ⟨answer, List.mem_singleton.mpr rfl⟩

theorem not_made (h : Stops bot? turns) (bot : BotId) : ¬ Made turns bot := fun ⟨a, hmem⟩ => h.asks a _ hmem

end Stops

/-! ## Telling the console -/

/-- A step that only tells: it changes nothing and does not fail. -/
def Calm (x : Step Unit) : Prop :=
  ∀ ⦃s turns r s'⦄, Does x s turns r s' → (∀ t ∈ turns, IsPermitted t) →
    r = .ok () ∧ s' = s ∧ Stops none turns

/-- Behind a step that succeeds and notes something, the rest goes on with what was noted. -/
theorem noted_bind {x : Step Unit} {note : State → State} {f : Unit → Step β} {r : Except Fault β}
    (hx : ∀ ⦃s turns r s'⦄, Does x s turns r s' → (∀ t ∈ turns, IsPermitted t) →
      r = .ok () ∧ s' = note s ∧ Stops none turns)
    (h : Does (x >>= f) s turns r s') (hpermitted : ∀ t ∈ turns, IsPermitted t) :
    ∃ first rest, turns = first ++ rest ∧ Stops none first ∧ Does (f ()) (note s) rest r s' ∧
      ∀ t ∈ rest, IsPermitted t := by
  rcases does_bind.mp h with ⟨first, rest, _, s₁, rfl, hfirst, hrest⟩ | ⟨e, hfirst, -⟩
  · obtain ⟨-, rfl, hidle⟩ := hx hfirst fun t ht => hpermitted t (List.mem_append_left _ ht)
    exact ⟨first, rest, rfl, hidle, hrest, fun t ht => hpermitted t (List.mem_append_right _ ht)⟩
  · cases (hx hfirst hpermitted).1

theorem Calm.bind {x : Step Unit} (hx : Calm x) {f : Unit → Step β} {r : Except Fault β}
    (h : Does (x >>= f) s turns r s') (hpermitted : ∀ t ∈ turns, IsPermitted t) :
    ∃ first rest, turns = first ++ rest ∧ Stops none first ∧ Does (f ()) s rest r s' ∧
      ∀ t ∈ rest, IsPermitted t :=
  noted_bind hx h hpermitted

/-- The console is told, whatever the store makes of it. -/
theorem calm_tell (n : News) : Calm (tell n) := by
  intro s turns r s' h hpermitted
  obtain ⟨answer, rest, rfl, hrest⟩ := does_ask_bind.mp h
  obtain ⟨rfl, rfl, rfl⟩ := does_settle.mp hrest
  refine ⟨?_, rfl, .single (fun _ => Query.noConfusion) fun _ => Query.noConfusion⟩
  cases answer with
  | ok v => rfl
  | error f =>
    have hstore : IsPermitted ⟨.store n.notice.query, .error f⟩ := hpermitted _ (List.mem_singleton.mpr rfl)
    obtain ⟨cause, rfl⟩ := hstore f rfl
    rfl

/-- What is announced is noted, and that is all that changes. -/
theorem does_announced {isTold : State → Bool} {n : News} {note : State → State} {r : Except Fault Unit}
    (h : Does (announce isTold n note) s turns r s') (hpermitted : ∀ t ∈ turns, IsPermitted t) :
    r = .ok () ∧ s' = note s ∧ Stops none turns := by
  cases htold : isTold s with
  | true =>
    obtain ⟨rfl, hr, hs⟩ := (does_announce_told htold).mp h
    exact ⟨hr, hs, .nil⟩
  | false =>
    obtain ⟨answer, rfl, hcases⟩ := (does_announce_new htold).mp h
    have htell : Does (tell n) s [⟨.store n.notice.query, answer⟩] (Notice.heard answer) s :=
      does_tell.mpr ⟨answer, rfl, rfl, rfl⟩
    obtain ⟨hheard, -, hidle⟩ := calm_tell n htell hpermitted
    rcases hcases with ⟨-, hr, hs⟩ | ⟨f, hfault, -⟩
    · exact ⟨hr, hs, hidle⟩
    · cases hheard.symm.trans hfault

theorem announce_bind {isTold : State → Bool} {n : News} {note : State → State} {f : Unit → Step β}
    {r : Except Fault β} (h : Does (announce isTold n note >>= f) s turns r s')
    (hpermitted : ∀ t ∈ turns, IsPermitted t) :
    ∃ first rest, turns = first ++ rest ∧ Stops none first ∧ Does (f ()) (note s) rest r s' ∧
      ∀ t ∈ rest, IsPermitted t :=
  noted_bind (fun _ _ _ _ => does_announced) h hpermitted

/-! ## The functions of the service -/

/-- A bot that is to end is waited for, and then there is none. -/
theorem does_end {bot : BotId} {reason : Reason} {r : Except Fault Unit}
    (h : Does (do let _ ← ask (.awaitEnd bot); modify ({ · with bot := none }); tell (.stopped reason)) s turns r s')
    (hpermitted : ∀ t ∈ turns, IsPermitted t) : r = .ok () ∧ s' = { s with bot := none } ∧ Stops none turns := by
  obtain ⟨answer, rest, rfl, hrest⟩ := does_ask_bind.mp h
  obtain ⟨hr, hs, hidle⟩ := calm_tell _ (does_modify_bind.mp hrest) fun t ht => hpermitted t (List.mem_cons_of_mem _ ht)
  have hwait : Stops none [⟨.awaitEnd bot, answer⟩] := .single (fun _ => Query.noConfusion) fun _ => Query.noConfusion
  exact ⟨hr, hs, hwait.append_idle hidle⟩

/-- A bot that there is is shut down, and then there is none. -/
theorem does_stop {reason : Reason} {r : Except Fault Unit} (h : Does (stop reason) s turns r s')
    (hpermitted : ∀ t ∈ turns, IsPermitted t) :
    r = .ok () ∧ s' = { s with bot := none } ∧ Stops (s.bot.map Prod.fst) turns := by
  have hbody := does_get_bind.mp h
  cases hbot : s.bot with
  | none =>
    rw [hbot] at hbody
    obtain ⟨rfl, rfl, rfl⟩ := does_pure.mp hbody
    refine ⟨rfl, ?_, .nil⟩
    rw [← hbot]
  | some current =>
    obtain ⟨bot, mark⟩ := current
    rw [hbot] at hbody
    obtain ⟨answer, rest, rfl, hrest⟩ := does_ask_bind.mp hbody
    have hanswer : IsPermitted ⟨.shutDown bot, answer⟩ := hpermitted _ List.mem_cons_self
    have hlater : ∀ t ∈ rest, IsPermitted t := fun t ht => hpermitted t (List.mem_cons_of_mem _ ht)
    cases answer with
    | ok v =>
      obtain ⟨hr, hs, hidle⟩ := does_end hrest hlater
      exact ⟨hr, hs, (Stops.shutDown bot (.ok v)).append_idle hidle⟩
    | error f =>
      have hsurvived : isSurvived f = true := hanswer f rfl
      simp only [hsurvived, if_true] at hrest
      obtain ⟨first, last, rfl, hfirst, hlast, hlater⟩ := (calm_tell _).bind hrest hlater
      obtain ⟨hr, hs, hidle⟩ := does_end hlast hlater
      exact ⟨hr, hs, (Stops.shutDown bot (.error f)).append_idle (hfirst.append_idle hidle)⟩

/-- What a bot on an account is made with: the token bare, and no refresh token as an empty one. -/
def handed (a : Account) (mark : Account.Fingerprint) : Account :=
  { a with token := .str mark.token, refreshToken := mark.refreshToken }

/-- How the service acts on what a configuration holds: what becomes of the bot that it has. -/
inductive Course (settings : Except String Account) (bot? : Option (BotId × Account.Fingerprint)) :
    List (Turn surroundings) → Except Fault Unit → Option (BotId × Account.Fingerprint) → Prop
  /-- There is no enabled account. -/
  | stopped {turns : List (Turn surroundings)} (hfinding : ∀ a, Finding.of settings ≠ .enabled a)
    (h : Stops (bot?.map Prod.fst) turns) : Course settings bot? turns (.ok ()) none
  /-- The account has no fingerprint. -/
  | unmarked {turns : List (Turn surroundings)} {a : Account} {f : Fault} (hfinding : Finding.of settings = .enabled a)
    (hmark : a.fingerprint = .error f) (h : Stops none turns) : Course settings bot? turns (.error f) bot?
  /-- The bot that there is fits the account. -/
  | kept {turns : List (Turn surroundings)} {a : Account} {bot : BotId} {mark current : Account.Fingerprint}
    (r : Except Fault Unit) (hfinding : Finding.of settings = .enabled a) (hmark : a.fingerprint = .ok mark)
    (hcurrent : bot? = some (bot, current)) (hfits : mark.fits current = true) (h : Stops none turns) :
    Course settings bot? turns r bot?
  /-- There is no bot that fits the account, and a new one is made, or it is tried. -/
  | replaced {before after : List (Turn surroundings)} {a : Account} {mark : Account.Fingerprint}
    (answer : Except Fault BotId) (hfinding : Finding.of settings = .enabled a) (hmark : a.fingerprint = .ok mark)
    (hcurrent : ∀ bot current, bot? = some (bot, current) → mark.fits current = false)
    (hbefore : Stops (bot?.map Prod.fst) before) (hafter : Stops none after) :
    Course settings bot? (before ++ ⟨.create (handed a mark), answer⟩ :: after) (answer.map fun _ => ())
      (answer.toOption.map fun bot => (bot, mark))

/-- What is told before does not count. -/
theorem Course.told {settings : Except String Account} {bot? next? : Option (BotId × Account.Fingerprint)}
    {r : Except Fault Unit} {first : List (Turn surroundings)} (h : Course settings bot? turns r next?)
    (hfirst : Stops none first) : Course settings bot? (first ++ turns) r next? := by
  cases h with
  | stopped hfinding h => exact .stopped hfinding (hfirst.idle_append h)
  | unmarked hfinding hmark h => exact .unmarked hfinding hmark (hfirst.idle_append h)
  | kept _ hfinding hmark hcurrent hfits h => exact .kept _ hfinding hmark hcurrent hfits (hfirst.idle_append h)
  | replaced answer hfinding hmark hcurrent hbefore hafter =>
    rw [← List.append_assoc]
    exact .replaced answer hfinding hmark hcurrent (hfirst.idle_append hbefore) hafter

variable {settings : Except String Account} {a : Account} {r : Except Fault Unit}

/-- A bot that does not fit the account is shut down before a new one is made. -/
theorem course_restart {mark : Account.Fingerprint} (hfinding : Finding.of settings = .enabled a)
    (hmark : a.fingerprint = .ok mark) (hcurrent : ∀ bot current, s.bot = some (bot, current) → mark.fits current = false)
    (h : Does (restart a mark) s turns r s') (hpermitted : ∀ t ∈ turns, IsPermitted t) :
    Course settings s.bot turns r s'.bot := by
  rcases does_bind.mp h with ⟨first, rest, _, s₁, rfl, hstop, hrest⟩ | ⟨e, hstop, -⟩
  · obtain ⟨-, rfl, hstops⟩ := does_stop hstop fun t ht => hpermitted t (List.mem_append_left _ ht)
    obtain ⟨told, last, rfl, htold, hlast, -⟩ :=
      (calm_tell _).bind hrest fun t ht => hpermitted t (List.mem_append_right _ ht)
    obtain ⟨answer, after, rfl, hafter⟩ := does_ask_bind.mp hlast
    rw [← List.append_assoc]
    have hmade := does_settle_bind.mp hafter
    cases answer with
    | error f =>
      obtain ⟨rfl, rfl, rfl⟩ := hmade
      exact .replaced (.error f) hfinding hmark hcurrent (hstops.append_idle htold) .nil
    | ok bot =>
      obtain ⟨started, none, rfl, hend⟩ := does_ask_bind.mp (does_modify_bind.mp hmade)
      obtain ⟨rfl, rfl, rfl⟩ := does_pure.mp hend
      exact .replaced (.ok bot) hfinding hmark hcurrent (hstops.append_idle htold)
        (.single (fun _ => Query.noConfusion) fun _ => Query.noConfusion)
  · cases (does_stop hstop hpermitted).1

/-- On an enabled account, a bot that fits it is kept, and any other one is replaced. -/
theorem course_keep (hfinding : Finding.of settings = .enabled a) (h : Does (keep a) s turns r s')
    (hpermitted : ∀ t ∈ turns, IsPermitted t) : Course settings s.bot turns r s'.bot := by
  have hmarked := does_settle_bind.mp h
  cases hmark : a.fingerprint with
  | error f =>
    rw [hmark] at hmarked
    obtain ⟨rfl, rfl, rfl⟩ := hmarked
    exact .unmarked hfinding hmark .nil
  | ok mark =>
    rw [hmark] at hmarked
    have hbody := does_get_bind.mp hmarked
    cases hbot : s.bot with
    | none =>
      rw [hbot] at hbody
      rw [← hbot]
      exact course_restart hfinding hmark (fun bot current hsome => by rw [hbot] at hsome; cases hsome) hbody hpermitted
    | some known =>
      obtain ⟨bot, current⟩ := known
      rw [hbot] at hbody
      cases hfits : mark.fits current with
      | false =>
        rw [← hbot]
        refine course_restart hfinding hmark (fun bot' current' hsome => ?_) ?_ hpermitted
        · rw [hbot] at hsome
          cases hsome
          exact hfits
        · simpa only [hfits, Bool.false_eq_true, if_false] using hbody
      | true =>
        simp only [hfits, if_true] at hbody
        obtain ⟨answer, rest, rfl, hrest⟩ := does_ask_bind.mp hbody
        obtain ⟨rfl, rfl, rfl⟩ := does_settle.mp hrest
        rw [← hbot]
        exact .kept _ hfinding hmark hbot hfits (.single (fun _ => Query.noConfusion) fun _ => Query.noConfusion)

/-- A bot that fits the account can be kept. -/
theorem does_kept {bot : BotId} {mark current : Account.Fingerprint} (hmark : a.fingerprint = .ok mark)
    (hbot : s.bot = some (bot, current)) (hfits : mark.fits current = true) (answer : Except Fault Unit) :
    Does (keep a) s [⟨.updateEnabled bot true, answer⟩] answer s := by
  refine does_settle_bind.mpr ?_
  rw [hmark]
  refine does_get_bind.mpr ?_
  simp only [hbot, hfits, if_true]
  exact does_ask_bind.mpr ⟨answer, [], rfl, does_settle.mpr ⟨rfl, rfl, rfl⟩⟩

/-- The service acts in one of these ways. -/
theorem course_apply (h : Does (apply settings) s turns r s') (hpermitted : ∀ t ∈ turns, IsPermitted t) :
    Course settings s.bot turns r s'.bot := by
  rw [apply] at h
  cases hfinding : Finding.of settings with
  | missing reason =>
    rw [hfinding] at h
    obtain ⟨told, rest, rfl, htold, hact, hpermitted⟩ := announce_bind h hpermitted
    obtain ⟨rfl, rfl, hstops⟩ := does_stop hact hpermitted
    exact (Course.stopped (by simp [hfinding]) hstops).told htold
  | disabled =>
    rw [hfinding] at h
    obtain ⟨told, later, rfl, htold, hlater, hpermitted⟩ := announce_bind h hpermitted
    obtain ⟨more, rest, rfl, hmore, hact, hpermitted⟩ := announce_bind hlater hpermitted
    obtain ⟨rfl, rfl, hstops⟩ := does_stop hact hpermitted
    exact ((Course.stopped (by simp [hfinding]) hstops).told hmore).told htold
  | enabled a =>
    rw [hfinding] at h
    obtain ⟨told, later, rfl, htold, hlater, hpermitted⟩ := announce_bind h hpermitted
    obtain ⟨more, rest, rfl, hmore, hact, hpermitted⟩ := announce_bind hlater hpermitted
    have hkeep := course_keep hfinding hact hpermitted
    exact (hkeep.told hmore).told htold

end ChannelBot.Service
