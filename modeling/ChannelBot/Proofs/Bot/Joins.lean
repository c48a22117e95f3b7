/-
The channels that a bot is in, while any number of programs join and leave some (`Change`), their turns in any
order. A program goes from phase to phase (`Change.course`): one that joins a channel holds the lock from before it
looks whether the channel is joined until after the channel is noted down. So at most one program subscribes at a
time, nobody subscribes to a channel that is noted down, and the two lists of channels stay in step
(`membership_in_step`).
-/
import ChannelBot.Proofs.Bot.Channels
import ChannelBot.Proofs.Store.Faults
import ChannelBot.Proofs.Text.LowerTwice

namespace ChannelBot.Bot

open Dialogue
open Attempt (Asks asks_pure asks_fail asks_ofExcept asks_sure asks_query)

/-! ## Programs that change the channels -/

/-- The bot is told to change its channels. -/
inductive Change where
  | join (channel : String)
  | part (channel : String)
  | stop

namespace Change

/-- What it does then. -/
def program : Change → Program Unit
  | .join channel => Bot.join channel
  | .part channel => Bot.part channel
  | .stop => stopServices

/-- The login that is joined or left. -/
def login : Change → String
  | .join channel | .part channel => Text.lower channel
  | .stop => ""

theorem lower_login (c : Change) : Text.lower c.login = c.login := by
  cases c with
  | join channel | part channel => exact Text.lower_lower channel
  | stop => decide

/-- It may leave this channel. -/
def Leaves (login : String) : Change → Prop
  | .join _ => False
  | .part channel => Text.lower channel = login
  | .stop => True

end Change

/-- Where a program stands with its change. -/
inductive Phase where
  /-- It leaves channels, and has nothing to do with the lock. -/
  | leaving
  /-- It is going to join a channel, or is through with it, and does not hold the lock. -/
  | waiting
  /-- It holds the lock. -/
  | inside
  /-- It holds the lock, and found that the channel is not joined. -/
  | clear
  /-- It holds the lock, and has a subscription that is not noted down. -/
  | granted (channelId subscription : String)

/-- It holds the lock. -/
def Phase.IsInside : Phase → Prop
  | .leaving | .waiting => False
  | _ => True

/-- It holds the lock, found that the channel is not joined, and has not noted it down since. -/
def Phase.IsClear : Phase → Prop
  | .clear | .granted .. => True
  | _ => False

theorem Phase.IsClear.isInside {p : Phase} (h : p.IsClear) : p.IsInside := by
  cases p <;> trivial

/-- A question that has to do neither with the lock nor with subscriptions, and changes nothing. -/
def Query.IsAside : Query → Prop
  | .memory f => f = id
  | .lockJoins | .unlockJoins | .subscribe _ => False
  | _ => True

namespace Change

/-- A question of a program that leaves channels. -/
def Takes (c : Change) (q : Query) : Prop := q.IsAside ∨ ∃ login, c.Leaves login ∧ q = .memory (Memory.leave login)

/-- The phase in which a program begins. -/
def start : Change → Phase
  | .join _ => .waiting
  | _ => .leaving

/-- What a program asks on its way through the phases. -/
def course (c : Change) : Discipline surroundings Phase where
  allows
    | .leaving, q => c.Takes q
    | .waiting, q => q.IsAside ∨ q = .lockJoins
    | .inside, q => q.IsAside ∨ q = .unlockJoins
    | .clear, q => q.IsAside ∨ q = .unlockJoins ∨ ∃ channelId, q = .subscribe channelId
    | .granted channelId subscription, q => q = .memory (Memory.enter c.login channelId subscription)
  after
    | .waiting, ⟨.lockJoins, _⟩ => .inside
    | .inside, ⟨.memory _, m⟩ => if (m.subscriptions.lookup c.login).isNone then .clear else .inside
    | .clear, ⟨.subscribe channelId, .ok subscription⟩ => .granted channelId subscription
    | .granted _ _, ⟨.memory _, _⟩ => .inside
    | .inside, ⟨.unlockJoins, _⟩ | .clear, ⟨.unlockJoins, _⟩ => .waiting
    | p, _ => p

variable {c : Change}

/-! ## Programs keep to the course -/

theorem course_aside {p : Phase} (hp : p = .leaving ∨ p = .waiting ∨ p = .clear) {q : Query} (hq : q.IsAside) :
    c.course.allows p q ∧ ∀ answer, c.course.after p ⟨q, answer⟩ = p := by
  rcases hp with rfl | rfl | rfl
  · exact ⟨.inl hq, fun _ => rfl⟩
  · refine ⟨.inl hq, fun answer => ?_⟩
    cases q <;> first | rfl | exact hq.elim
  · refine ⟨.inl hq, fun answer => ?_⟩
    cases q <;> first | rfl | exact hq.elim

theorem asks_tell_aside (level message event : String) (details : List (String × Value)) :
    Asks Query.IsAside (tell level message event details) := asks_tell (fun _ => trivial) ..

/-- To which phase a subscription leads. -/
def Phase.Subscribed (channelId : String) (p : Phase) : Except Fault String → Prop
  | .ok subscription => p = .granted channelId subscription
  | .error _ => p = .clear

/-- Who holds the lock and found a channel free looks up its id, subscribes, and notes it down. -/
theorem keeps_subscribe (channel : String) : Keeps (Change.join channel).course
    (fun p _ => p = .inside ∨ p = .clear) .inside (subscribe (Text.lower channel)).outcome := by
  refine Attempt.keeps_query_bind.mpr ⟨.inl rfl, fun m => ?_⟩
  have hlooked : (Change.join channel).course.after .inside ⟨.memory id, m⟩ =
      if (m.subscriptions.lookup (Text.lower channel)).isNone then .clear else .inside := rfl
  rw [hlooked]
  cases hfound : m.subscriptions.lookup (Text.lower channel) with
  | some subscription => exact .inl rfl
  | none =>
    have huser := AsksOnly.keeps (asks_userId (P := Query.IsAside) rfl (fun _ => trivial) (Text.lower channel))
      fun q => course_aside (c := .join channel) (.inr (.inr rfl))
    refine Attempt.keeps_bind huser (fun p channelId hp => ?_) fun p e hp => .inr hp
    subst hp
    refine Attempt.keeps_bind (Q := Phase.Subscribed channelId) ?_ (fun p subscription hp => ?_) fun p e hp => .inr hp
    · refine Attempt.keeps_query_bind.mpr ⟨.inr (.inr ⟨channelId, rfl⟩), fun answer => ?_⟩
      cases answer with
      | ok subscription => exact rfl
      | error words => exact rfl
    · obtain rfl : p = .granted channelId subscription := hp
      exact Attempt.keeps_query_bind.mpr ⟨rfl, fun _ => .inl rfl⟩

/-- Who joins a channel takes the lock before and gives it back after. -/
theorem keeps_join (channel : String) :
    Keeps (Change.join channel).course (fun _ _ => True) .waiting (Bot.join channel).outcome := by
  refine Attempt.keeps_bind (Q := fun p _ => p = .waiting) ?_ (fun p joined hp => ?_) fun _ _ _ => trivial
  · refine Attempt.keeps_query_bind.mpr ⟨.inr rfl, fun _ => Attempt.keeps_sure_bind ?_⟩
    refine (keeps_subscribe channel).mono fun p y hp => Attempt.keeps_query_bind.mpr ⟨?_, fun _ => ?_⟩
    · rcases hp with rfl | rfl
      · exact .inr rfl
      · exact .inr (.inl rfl)
    · have hgiven : (Change.join channel).course.after p ⟨.unlockJoins, ()⟩ = .waiting := by
        rcases hp with rfl | rfl <;> rfl
      rw [hgiven]
      cases y <;> exact rfl
  · subst hp
    cases joined with
    | true =>
      exact (AsksOnly.keeps (asks_tell_aside ..) fun q => course_aside (.inr (.inl rfl))).mono fun _ _ _ => trivial
    | false => exact trivial

theorem asks_leave {login : String} (h : c.Leaves login) : Asks c.Takes (leave login) := by
  refine Asks.bind (asks_ask (.inr ⟨login, h, rfl⟩)) fun before => ?_
  split
  · split
    · exact asks_pure _
    · exact asks_platform (asks_ask (.inl trivial))
  · exact asks_pure _

theorem asks_leaveAll {logins : List String} (h : ∀ login, c.Leaves login) : Asks c.Takes (leaveAll logins) := by
  induction logins with
  | nil => exact asks_pure _
  | cons login rest ih => exact (asks_leave (h login)).bind fun _ => ih

theorem asks_part (channel : String) : Asks (Change.part channel).Takes (Bot.part channel) :=
  (asks_leave (show (Change.part channel).Leaves (Text.lower channel) from rfl)).bind fun _ =>
    asks_tell (fun _ => .inl trivial) ..

theorem asks_stopServices : Asks Change.stop.Takes stopServices := by
  refine Asks.bind (asks_ask (.inl trivial)) fun _ => Asks.bind (asks_ask (.inl trivial)) fun _ => ?_
  exact Asks.bind (asks_ask (.inl rfl)) fun m => asks_leaveAll fun _ => trivial

/-- Every program keeps to its course. -/
theorem keeps (c : Change) : Keeps c.course (fun _ _ => True) c.start c.program.outcome := by
  have hleaves : ∀ {c : Change} {x : Program Unit}, Asks c.Takes x →
      Keeps c.course (fun _ _ => True) .leaving x.outcome := fun h =>
    (AsksOnly.keeps h fun q hq => ⟨hq, fun _ => rfl⟩).mono fun _ _ _ => trivial
  cases c with
  | join channel => exact keeps_join channel
  | part channel => exact hleaves (asks_part channel)
  | stop => exact hleaves asks_stopServices

end Change

/-! ## One turn -/

namespace Change

/-- What a turn of a program does: to its phase and to the memory. -/
inductive Moves (c : Change) : Phase → Memory → Turn surroundings → Phase → Memory → Prop
  /-- It has to do with neither the lock nor the channels. -/
  | aside {p : Phase} {m : Memory} {t : Turn surroundings}
    (hp : ∀ channelId subscription, p ≠ .granted channelId subscription) (hq : t.query.IsAside) : Moves c p m t p m
  /-- It finds that the channel is not joined. -/
  | finds {m before : Memory} (hfree : c.login ∉ keys m.subscriptions) :
    Moves c .inside m ⟨.memory id, before⟩ .clear m
  | leaves {m before : Memory} {login : String} (hleaves : c.Leaves login) :
    Moves c .leaving m ⟨.memory (Memory.leave login), before⟩ .leaving (m.leave login)
  | locks {m : Memory} {answer : Unit} (hfree : m.joining = false) :
    Moves c .waiting m ⟨.lockJoins, answer⟩ .inside { m with joining := true }
  | unlocks {p : Phase} {m : Memory} {answer : Unit} (hp : p = .inside ∨ p = .clear) :
    Moves c p m ⟨.unlockJoins, answer⟩ .waiting { m with joining := false }
  | granted {m : Memory} {channelId subscription : String} :
    Moves c .clear m ⟨.subscribe channelId, .ok subscription⟩ (.granted channelId subscription) m
  | refused {m : Memory} {channelId words : String} :
    Moves c .clear m ⟨.subscribe channelId, .error words⟩ .clear m
  | enters {m before : Memory} {channelId subscription : String} :
    Moves c (.granted channelId subscription) m ⟨.memory (Memory.enter c.login channelId subscription), before⟩ .inside
      (m.enter c.login channelId subscription)

theorem serve_aside {m m' : Memory} {q : Query} {answer : Answer q} (hq : q.IsAside)
    (hserve : sharing.serve m q m' answer) : m' = m := by
  cases q with
  | memory f =>
    obtain rfl : f = id := hq
    exact hserve.2
  | lockJoins | unlockJoins => exact hq.elim
  | _ => exact hserve

/-- There is no other turn. -/
theorem moves {c : Change} {p : Phase} {m m' : Memory} {q : Query} {answer : Answer q} (hallows : c.course.allows p q)
    (hserve : sharing.serve m q m' answer) : c.Moves p m ⟨q, answer⟩ (c.course.after p ⟨q, answer⟩) m' := by
  have haside : (∀ channelId subscription, p ≠ .granted channelId subscription) → q.IsAside →
      c.course.after p ⟨q, answer⟩ = p → c.Moves p m ⟨q, answer⟩ (c.course.after p ⟨q, answer⟩) m' := by
    intro hp hq hstays
    obtain rfl := serve_aside hq hserve
    rw [hstays]
    exact .aside hp hq
  cases p with
  | leaving =>
    rcases hallows with hq | ⟨login, hleaves, rfl⟩
    · exact haside nofun hq rfl
    · obtain ⟨rfl, rfl⟩ := hserve
      exact .leaves hleaves
  | waiting =>
    rcases hallows with hq | rfl
    · exact haside nofun hq ((course_aside (.inr (.inl rfl)) hq).2 answer)
    · obtain ⟨hfree, rfl⟩ := hserve
      exact .locks hfree
  | inside =>
    rcases hallows with hq | rfl
    · cases q with
      | memory f =>
        obtain rfl : f = id := hq
        obtain ⟨rfl, rfl⟩ := hserve
        have hlooked : c.course.after .inside ⟨.memory id, m'⟩ =
            if (m'.subscriptions.lookup c.login).isNone then .clear else .inside := rfl
        by_cases hfree : (m'.subscriptions.lookup c.login).isNone
        · rw [hlooked, if_pos hfree]
          exact .finds (isNone_lookup_iff.mp hfree)
        · exact haside nofun rfl (hlooked.trans (if_neg hfree))
      | lockJoins | unlockJoins | subscribe channelId => exact hq.elim
      | _ => exact haside nofun hq rfl
    · obtain rfl := hserve
      exact .unlocks (.inl rfl)
  | clear =>
    rcases hallows with hq | rfl | ⟨channelId, rfl⟩
    · exact haside nofun hq ((course_aside (.inr (.inr rfl)) hq).2 answer)
    · obtain rfl := hserve
      exact .unlocks (.inr rfl)
    · obtain rfl := hserve
      cases answer with
      | ok subscription => exact .granted
      | error words => exact .refused
  | granted channelId subscription =>
    obtain rfl := hallows
    obtain ⟨rfl, rfl⟩ := hserve
    exact .enters

namespace Moves

variable {c : Change} {p p' : Phase} {m m' : Memory} {t : Turn surroundings}

/-- Either the lock stays with whom it is, or the program takes it when it is free, or gives it back. -/
theorem lock (h : c.Moves p m t p' m') :
    (p'.IsInside → p.IsInside) ∧ m'.joining = m.joining ∨ m.joining = false ∧ m'.joining = true ∨
      p.IsInside ∧ ¬ p'.IsInside := by
  cases h with
  | aside | leaves => exact .inl ⟨id, rfl⟩
  | finds | granted | refused | enters => exact .inl ⟨fun _ => trivial, rfl⟩
  | locks hfree => exact .inr (.inl ⟨hfree, rfl⟩)
  | unlocks hp => exact .inr (.inr ⟨by rcases hp with rfl | rfl <;> trivial, id⟩)

/-- Channels are noted down only by the one that found them free, and that is then through with it. -/
theorem mem_keys (h : c.Moves p m t p' m') {k : String} (hk : k ∈ keys m'.channelIds) :
    k ∈ keys m.channelIds ∨ k = c.login ∧ p.IsClear ∧ ¬ p'.IsClear := by
  cases h with
  | leaves => exact .inl (mem_keys_forget.mp hk).1
  | enters => exact (mem_keys_assign.mp hk).symm.imp_right fun hlogin => ⟨hlogin, trivial, id⟩
  | _ => exact .inl hk

/-- Who is clear was so before, or just found the channel free. -/
theorem isClear (h : c.Moves p m t p' m') (hp : p'.IsClear) :
    p.IsClear ∨ c.login ∉ keys m'.subscriptions := by
  cases h with
  | aside => exact .inl hp
  | finds hfree => exact .inr hfree
  | granted | refused => exact .inl trivial
  | leaves | locks | unlocks | enters => exact hp.elim

/-- A channel that is noted down stays so unless the program leaves it. -/
theorem keeps_channel (h : c.Moves p m t p' m') {k : String} (hk : k ∈ keys m.channelIds) :
    k ∈ keys m'.channelIds ∨ ∃ before, c.Leaves k ∧ t = ⟨.memory (Memory.leave k), before⟩ := by
  cases h with
  | @leaves _ before login hleaves =>
    by_cases hlogin : k = login
    · exact .inr ⟨before, hlogin ▸ hleaves, by rw [hlogin]⟩
    · exact .inl (mem_keys_forget.mpr ⟨hk, hlogin⟩)
  | enters => exact .inl (mem_keys_assign.mpr (.inr hk))
  | _ => exact .inl hk

theorem of_subscribed {channelId subscription : String}
    (h : c.Moves p m ⟨.subscribe channelId, .ok subscription⟩ p' m') : p' = .granted channelId subscription := by
  cases h with
  | aside _ hq => exact hq.elim
  | granted => rfl

/-- A subscription is noted down at once. -/
theorem of_granted {channelId subscription : String} (h : c.Moves (.granted channelId subscription) m t p' m') :
    c.login ∈ keys m'.channelIds := by
  cases h with
  | aside hp => exact absurd rfl (hp channelId subscription)
  | unlocks hp => rcases hp with hp | hp <;> cases hp
  | enters => exact mem_keys_assign.mpr (.inl rfl)

theorem inStep (h : c.Moves p m t p' m') (hm : m.InStep) : m'.InStep := by
  cases h with
  | leaves => exact hm.leave _
  | enters => exact hm.enter c.lower_login ..
  | locks | unlocks => exact hm.congr rfl rfl
  | _ => exact hm

end Moves

end Change

/-! ## Subscriptions come and go -/

/-- The turn of a program that subscribes to a channel. -/
def Grants (changes : List Change) (login : String) (t : Nat × Turn surroundings) : Prop :=
  ∃ c channelId subscription, changes[t.1]? = some c ∧ c.login = login ∧ t.2 = ⟨.subscribe channelId, .ok subscription⟩

/-- The turn of a program that leaves a channel. -/
def Drops (changes : List Change) (login : String) (t : Nat × Turn surroundings) : Prop :=
  ∃ c before, changes[t.1]? = some c ∧ c.Leaves login ∧ t.2 = ⟨.memory (Memory.leave login), before⟩

/-- The phase of a program after these turns. -/
def phaseOf (changes : List Change) (log : List (Nat × Turn surroundings)) (i : Nat) : Phase :=
  match changes[i]? with
  | some c => (turnsOf i log).foldl c.course.after c.start
  | none => .leaving

/-- What holds while programs change the channels: who is inside holds the lock, and is the only one; what is clear
is not noted down; and what was subscribed to since it was last left is noted down, or is going to be at once. -/
structure Guarded (changes : List Change) (log : List (Nat × Turn surroundings)) (m : Memory) : Prop where
  inStep : m.InStep
  locked : ∀ i, (phaseOf changes log i).IsInside → m.joining = true
  alone : ∀ i j, (phaseOf changes log i).IsInside → (phaseOf changes log j).IsInside → i = j
  clear : ∀ i c, changes[i]? = some c → (phaseOf changes log i).IsClear → c.login ∉ keys m.channelIds
  held : ∀ login, Since (Grants changes login) (Drops changes login) log → login ∈ keys m.channelIds ∨
    ∃ i c channelId subscription, changes[i]? = some c ∧ c.login = login ∧
      phaseOf changes log i = .granted channelId subscription

section Guarded

variable {changes : List Change} {log : List (Nat × Turn surroundings)} {m m' : Memory} {i : Nat} {c : Change}

theorem phaseOf_some (hi : changes[i]? = some c) :
    phaseOf changes log i = (turnsOf i log).foldl c.course.after c.start := by
  rw [phaseOf, hi]

theorem not_isInside_nil (i : Nat) : ¬ (phaseOf changes [] i).IsInside := by
  unfold phaseOf
  split
  · rename_i c _
    cases c <;> exact id
  · exact id

theorem phaseOf_snoc_self (hi : changes[i]? = some c) (t : Turn surroundings) :
    phaseOf changes (log ++ [(i, t)]) i = c.course.after (phaseOf changes log i) t := by
  rw [phaseOf_some hi, phaseOf_some hi, turnsOf_snoc, if_pos rfl, List.foldl_append]
  rfl

/-- A turn changes the phase of nobody else. -/
theorem phaseOf_snoc_ne (t : Turn surroundings) {j : Nat} (hj : j ≠ i) :
    phaseOf changes (log ++ [(i, t)]) j = phaseOf changes log j := by
  rw [phaseOf, phaseOf, turnsOf_snoc, if_neg (Ne.symm hj)]

theorem guarded_nil (hm : m.InStep) : Guarded changes [] m where
  inStep := hm
  locked i hi := absurd hi (not_isInside_nil i)
  alone i _ hi := absurd hi (not_isInside_nil i)
  clear i _ _ hi := absurd hi.isInside (not_isInside_nil i)
  held _ h := absurd h not_since_nil

theorem Guarded.drift (h : Guarded changes log m) (hdrift : sharing.drift m m') : Guarded changes log m' := by
  obtain ⟨hchannels, hsubscriptions, hjoining⟩ := hdrift
  refine ⟨h.inStep.congr hchannels hsubscriptions, ?_, h.alone, ?_, ?_⟩
  · rw [hjoining]
    exact h.locked
  · rw [hchannels]
    exact h.clear
  · rw [hchannels]
    exact h.held

/-- A turn leaves the lock with one program at most. -/
theorem Guarded.lock_turn {t : Turn surroundings} (h : Guarded changes log m)
    (hmove : c.Moves (phaseOf changes log i) m t (phaseOf changes (log ++ [(i, t)]) i) m') :
    (∀ j, (phaseOf changes (log ++ [(i, t)]) j).IsInside → m'.joining = true) ∧
      ∀ j k, (phaseOf changes (log ++ [(i, t)]) j).IsInside → (phaseOf changes (log ++ [(i, t)]) k).IsInside →
        j = k := by
  have hother : ∀ j, j ≠ i → (phaseOf changes (log ++ [(i, t)]) j).IsInside → (phaseOf changes log j).IsInside :=
    fun j hj => by rw [phaseOf_snoc_ne t hj]; exact id
  rcases hmove.lock with ⟨hkeeps, hsame⟩ | ⟨hfree, htaken⟩ | ⟨hinside, hgiven⟩
  · have hbefore : ∀ j, (phaseOf changes (log ++ [(i, t)]) j).IsInside → (phaseOf changes log j).IsInside := by
      intro j hj
      by_cases hji : j = i
      · exact hji ▸ hkeeps (hji ▸ hj)
      · exact hother j hji hj
    exact ⟨fun j hj => hsame ▸ h.locked j (hbefore j hj), fun j k hj hk => h.alone j k (hbefore j hj) (hbefore k hk)⟩
  · have hself : ∀ j, (phaseOf changes (log ++ [(i, t)]) j).IsInside → j = i := by
      intro j hj
      by_contra hji
      exact Bool.noConfusion (hfree.symm.trans (h.locked j (hother j hji hj)))
    exact ⟨fun _ _ => htaken, fun j k hj hk => (hself j hj).trans (hself k hk).symm⟩
  · have hnobody : ∀ j, ¬ (phaseOf changes (log ++ [(i, t)]) j).IsInside := by
      intro j hj
      by_cases hji : j = i
      · exact hgiven (hji ▸ hj)
      · exact hji (h.alone j i (hother j hji hj) hinside)
    exact ⟨fun j hj => absurd hj (hnobody j), fun j _ hj => absurd hj (hnobody j)⟩

theorem Guarded.turn {t : Turn surroundings} (h : Guarded changes log m) (hi : changes[i]? = some c)
    (hmove : c.Moves (phaseOf changes log i) m t (phaseOf changes (log ++ [(i, t)]) i) m') :
    Guarded changes (log ++ [(i, t)]) m' := by
  have hlock := h.lock_turn hmove
  refine ⟨hmove.inStep h.inStep, hlock.1, hlock.2, fun j c' hj hclear => ?_, fun login hsince => ?_⟩
  · by_cases hji : j = i
    · subst hji
      obtain rfl := Option.some.inj (hj.symm.trans hi)
      rcases hmove.isClear hclear with hbefore | hfree
      · intro hmem
        rcases hmove.mem_keys hmem with hmem | ⟨-, -, hdone⟩
        · exact h.clear j c' hj hbefore hmem
        · exact hdone hclear
      · exact fun hmem => hfree (((hmove.inStep h.inStep).same _).mp hmem)
    · rw [phaseOf_snoc_ne t hji] at hclear
      intro hmem
      rcases hmove.mem_keys hmem with hmem | ⟨-, hbefore, -⟩
      · exact h.clear j c' hj hclear hmem
      · exact hji (h.alone j i hclear.isInside hbefore.isInside)
  · rcases since_snoc.mp hsince with ⟨c', channelId, subscription, hc', hlogin, ht⟩ | ⟨hsince, hstays⟩
    · obtain rfl := Option.some.inj (hc'.symm.trans hi)
      dsimp only at ht
      subst ht
      exact .inr ⟨i, c', channelId, subscription, hi, hlogin, hmove.of_subscribed⟩
    · rcases h.held login hsince with hmem | ⟨j, c', channelId, subscription, hj, hlogin, hgranted⟩
      · refine .inl ((hmove.keeps_channel hmem).resolve_right ?_)
        rintro ⟨before, hleaves, ht⟩
        exact hstays ⟨c, before, hi, hleaves, ht⟩
      · by_cases hji : j = i
        · subst hji
          obtain rfl := Option.some.inj (hj.symm.trans hi)
          rw [hgranted] at hmove
          exact .inl (hlogin ▸ hmove.of_granted)
        · exact .inr ⟨j, c', channelId, subscription, hj, hlogin, (phaseOf_snoc_ne t hji).trans hgranted⟩

end Guarded

/-! ## Any order of turns -/

/-- A program has asked for a subscription, and waits for the answer. -/
def IsSubscribing (threads : List (Dialogue surroundings (Except Fault Unit))) (i : Nat) (channelId : String) : Prop :=
  ∃ next, threads[i]? = some (.ask (.subscribe channelId) next)

section Interleaved

variable {changes : List Change} {m₀ m : Memory} {log : List (Nat × Turn surroundings)}
  {threads : List (Dialogue surroundings (Except Fault Unit))} {i : Nat} {c : Change} {channelId : String}

theorem getElem?_programs (hc : changes[i]? = some c) :
    (changes.map (·.program.outcome))[i]? = some c.program.outcome := by
  rw [List.getElem?_map, hc, Option.map_some]

theorem exists_change {x : Dialogue surroundings (Except Fault Unit)}
    (h : Interleaved sharing m₀ (changes.map (·.program.outcome)) log m threads) (hi : threads[i]? = some x) :
    ∃ c, changes[i]? = some c := by
  have hlt : i < changes.length := by
    rw [← List.length_map, ← h.length_eq]
    exact (List.getElem?_eq_some_iff.mp hi).1
  exact ⟨changes[i], List.getElem?_eq_getElem hlt⟩

/-- What is guarded is so after every turn. -/
theorem guarded (hm : m₀.InStep) (h : Interleaved sharing m₀ (changes.map (·.program.outcome)) log m threads) :
    Guarded changes log m := by
  induction h with
  | start => exact guarded_nil hm
  | @turn log m m' threads i q next answer h hi hserve ih =>
    obtain ⟨c, hc⟩ := exists_change h hi
    have hallows := h.keeps (getElem?_programs hc) c.keeps hi
    refine ih.turn hc ?_
    rw [phaseOf_snoc_self hc, phaseOf_some hc]
    exact Change.moves hallows hserve
  | drift _ hdrift ih => exact ih.drift hdrift

/-- Who subscribes holds the lock, and found the channel free. -/
theorem phaseOf_subscribing (h : Interleaved sharing m₀ (changes.map (·.program.outcome)) log m threads)
    (hc : changes[i]? = some c) (hi : IsSubscribing threads i channelId) : phaseOf changes log i = .clear := by
  obtain ⟨next, hi⟩ := hi
  have hallows := h.keeps (getElem?_programs hc) c.keeps hi
  rw [← phaseOf_some hc] at hallows
  cases hp : phaseOf changes log i with
  | leaving =>
    rw [hp] at hallows
    rcases hallows with hq | ⟨login, -, hq⟩
    · exact hq.elim
    · cases hq
  | waiting | inside =>
    rw [hp] at hallows
    rcases hallows with hq | hq
    · exact hq.elim
    · cases hq
  | clear => rfl
  | granted =>
    rw [hp] at hallows
    cases hallows

/-- Nobody is about to subscribe to a channel that was subscribed to and not left since. -/
theorem drops_between (hm : m₀.InStep) {login : String} {before between after : List (Nat × Turn surroundings)}
    {g g' : Nat × Turn surroundings}
    (h : Interleaved sharing m₀ (changes.map (·.program.outcome)) (before ++ g :: between ++ g' :: after) m threads)
    (hg : Grants changes login g) (hg' : Grants changes login g') : ∃ t ∈ between, Drops changes login t := by
  by_contra hnone
  rw [not_exists] at hnone
  obtain ⟨i, t⟩ := g'
  obtain ⟨c, channelId, subscription, hc, rfl, rfl⟩ := hg'
  obtain ⟨m₁, threads₁, next, m₂, h₁, hi, -⟩ := h.cut
  have hguarded := guarded hm h₁
  have hclear := phaseOf_subscribing h₁ hc ⟨next, hi⟩
  have hsince : Since (Grants changes c.login) (Drops changes c.login) (before ++ g :: between) :=
    ⟨before, g, between, rfl, hg, fun t ht hdrops => hnone t ⟨ht, hdrops⟩⟩
  rcases hguarded.held _ hsince with hmem | ⟨j, c', id, sub, hj, -, hgranted⟩
  · exact hguarded.clear i c hc (hclear ▸ trivial) hmem
  · have hsame : j = i := hguarded.alone j i (hgranted ▸ trivial) (hclear ▸ trivial)
    rw [hsame, hclear] at hgranted
    cases hgranted

end Interleaved

/-! ## Joins that fail -/

/-- A question that leaves the channels as they are, however it is answered. -/
def Query.SparesChannels (q : Query) : Prop :=
  ∀ m m' answer, sharing.serve m q m' answer → m'.channelIds = m.channelIds ∧ m'.subscriptions = m.subscriptions

theorem Query.IsAside.sparesChannels {q : Query} (h : q.IsAside) : q.SparesChannels := by
  intro m m' answer hserve
  obtain rfl := Change.serve_aside h hserve
  exact ⟨rfl, rfl⟩

/-- What a join tells the console when the channel is noted down. -/
def joinNotice (channel : String) : Notice :=
  ⟨"info", "Joined channel " ++ Text.lower channel, "join", [("channel", .str (Text.lower channel))]⟩

section Fails

variable {channel login : String} {turns : List (Turn surroundings)} {f : Fault}

/-- A subscription that fails has changed nothing. -/
theorem runs_subscribe_error (h : Runs (subscribe login).outcome turns (.error f)) :
    ∀ t ∈ turns, t.query.SparesChannels := by
  obtain ⟨m, rest, rfl, hlooked⟩ := (Attempt.runs_query_bind (I := surroundings) (q := .memory id)).mp h
  refine List.forall_mem_cons.mpr ⟨Query.IsAside.sparesChannels rfl, ?_⟩
  split at hlooked
  · cases (Attempt.runs_pure.mp hlooked).2
  · have hasked : Asks Query.SparesChannels (userId login) :=
      asks_userId (Query.IsAside.sparesChannels rfl) (fun _ => Query.IsAside.sparesChannels trivial) login
    rcases Attempt.runs_bind.mp hlooked with ⟨first, rest, channelId, rfl, huser, hrest⟩ | ⟨e, huser, -⟩
    · refine List.forall_mem_append.mpr ⟨huser.asks hasked, ?_⟩
      have hplatform : Asks Query.SparesChannels (platform (ask (.subscribe channelId))) :=
        asks_platform (asks_ask fun m m' answer hserve => by obtain rfl := hserve; exact ⟨rfl, rfl⟩)
      rcases Attempt.runs_bind.mp hrest with ⟨first', rest', subscription, rfl, -, hnoted⟩ | ⟨e, hrefused, -⟩
      · obtain ⟨_, rest'', -, hend⟩ := (Attempt.runs_query_bind (I := surroundings) (q := .memory _)).mp hnoted
        cases (Attempt.runs_pure.mp hend).2
      · exact hrefused.asks hplatform
    · exact huser.asks hasked

/-- A join that fails has left the channels as they were, unless it is through and the console cannot be told. -/
theorem runs_join_error (h : Runs (join channel).outcome turns (.error f)) :
    (∀ t ∈ turns, t.query.SparesChannels) ∨
      f.IsForeign ∧ ∃ first, turns = first ++ [⟨.store (joinNotice channel).query, .error f⟩] := by
  have hlock : Query.lockJoins.SparesChannels := fun m m' answer hserve => by
    obtain ⟨-, rfl⟩ := hserve
    exact ⟨rfl, rfl⟩
  have hunlock : Query.unlockJoins.SparesChannels := fun m m' answer hserve => by
    obtain rfl := hserve
    exact ⟨rfl, rfl⟩
  rcases Attempt.runs_bind.mp h with ⟨first, rest, done, rfl, halone, htold⟩ | ⟨e, halone, he⟩
  · right
    cases done with
    | true =>
      obtain ⟨answer, rest', rfl, hheard⟩ :=
        (Attempt.runs_query_bind (I := surroundings) (q := .store (joinNotice channel).query)).mp htold
      obtain ⟨rfl, hf⟩ := Attempt.runs_ofExcept.mp hheard
      obtain ⟨rfl, hforeign⟩ := Notice.heard_error_iff.mp hf.symm
      exact ⟨hforeign, first, rfl⟩
    | false => cases (Attempt.runs_pure.mp htold).2
  · left
    cases he
    obtain ⟨_, rest, rfl, hinside⟩ := (Attempt.runs_query_bind (I := surroundings) (q := .lockJoins)).mp halone
    obtain ⟨first, last, result, rfl, hsubscribe, hunlocks⟩ := Attempt.runs_sure_bind.mp hinside
    obtain ⟨_, rest', rfl, hends⟩ := (Attempt.runs_query_bind (I := surroundings) (q := .unlockJoins)).mp hunlocks
    obtain ⟨rfl, rfl⟩ := Attempt.runs_ofExcept.mp hends
    refine List.forall_mem_cons.mpr ⟨hlock, List.forall_mem_append.mpr ⟨runs_subscribe_error hsubscribe, ?_⟩⟩
    exact fun t ht => List.mem_singleton.mp ht ▸ hunlock

end Fails

/-! ## Joins that succeed -/

section Succeeds

variable {login channel channelId subscription : String} {m : Memory}

/-- A user whom the platform knows is found. -/
theorem plays_userId (hlogin : Text.lower login = login) (hfree : login ∉ keys m.channelIds) (hid : channelId ≠ "") :
    Plays sharing m (userId login).outcome
      [⟨.memory id, m⟩, ⟨.usersNamed [login], .ok [⟨login, channelId⟩]⟩] m (.done (.ok channelId)) := by
  have hnone : m.channelIds.lookup login = none := Option.isNone_iff_eq_none.mp (isNone_lookup_iff.mpr hfree)
  have hids : Plays sharing m (resolveUserIds [login]).outcome
      [⟨.memory id, m⟩, ⟨.usersNamed [login], .ok [⟨login, channelId⟩]⟩] m (.done (.ok [(login, channelId)])) := by
    rw [resolveUserIds_one, hlogin]
    refine Attempt.plays_query_bind (I := surroundings) (q := .memory id) ⟨rfl, rfl⟩ ?_
    rw [hnone]
    refine Attempt.plays_bind (u := [])
      (plays_platform (plays_ask (.usersNamed [login]) (.ok [⟨login, channelId⟩]) rfl)) ?_
    rw [List.foldl_cons, List.foldl_nil, assign, hlogin]
    exact .here ..
  refine Attempt.plays_bind (u := []) hids ?_
  rw [hlogin, List.lookup_cons_self]
  dsimp only
  rw [if_neg (by simpa using hid)]
  exact .here ..

theorem plays_subscribe (hm : m.InStep) (hlogin : Text.lower login = login) (hfree : login ∉ keys m.channelIds)
    (hid : channelId ≠ "") : Plays sharing m (subscribe login).outcome
      [⟨.memory id, m⟩, ⟨.memory id, m⟩, ⟨.usersNamed [login], .ok [⟨login, channelId⟩]⟩,
        ⟨.subscribe channelId, .ok subscription⟩, ⟨.memory (Memory.enter login channelId subscription), m⟩]
      (m.enter login channelId subscription) (.done (.ok true)) := by
  have hnone : m.subscriptions.lookup login = none :=
    Option.isNone_iff_eq_none.mp (isNone_lookup_iff.mpr fun hmem => hfree ((hm.same _).mpr hmem))
  refine Attempt.plays_query_bind (I := surroundings) (q := .memory id) ⟨rfl, rfl⟩ ?_
  rw [hnone, if_neg (by simp)]
  refine Attempt.plays_bind (t := [_, _]) (plays_userId hlogin hfree hid) ?_
  refine Attempt.plays_bind (t := [_]) (plays_platform (plays_ask (.subscribe channelId) (.ok subscription) rfl)) ?_
  exact .ask ⟨rfl, rfl⟩ (.here ..)

/-- A free channel is joined while nobody else joins one, if the platform plays along. -/
theorem plays_join (channel channelId subscription : String) (hm : m.InStep) (hlock : m.joining = false)
    (hfree : Text.lower channel ∉ keys m.channelIds) (hid : channelId ≠ "") : ∃ first last,
      Plays sharing m (join channel).outcome (first ++ ⟨.subscribe channelId, .ok subscription⟩ :: last)
        (m.enter (Text.lower channel) channelId subscription) (.done (.ok ())) := by
  let held : Memory := { m with joining := true }
  have hheld : held.InStep := hm.congr rfl rfl
  have hgiven : sharing.serve (held.enter (Text.lower channel) channelId subscription) .unlockJoins
      (m.enter (Text.lower channel) channelId subscription) () := by
    show _ = _
    rw [Memory.enter, Memory.enter, hlock]
  refine ⟨[⟨.lockJoins, ()⟩, ⟨.memory id, held⟩, ⟨.memory id, held⟩,
      ⟨.usersNamed [Text.lower channel], .ok [⟨Text.lower channel, channelId⟩]⟩],
    [⟨.memory (Memory.enter (Text.lower channel) channelId subscription), held⟩, ⟨.unlockJoins, ()⟩,
      ⟨.store (joinNotice channel).query, .ok .null⟩], ?_⟩
  refine Attempt.plays_bind (t := [_, _, _, _, _, _, _]) (u := [_]) (a := true) ?_ (.ask rfl (.here ..))
  refine Attempt.plays_query_bind (I := surroundings) (q := .lockJoins) ⟨hlock, rfl⟩ ?_
  refine Attempt.plays_sure_bind (t := [_, _, _, _, _]) (plays_subscribe hheld (Text.lower_lower channel) hfree hid) ?_
  exact .ask hgiven (.here ..)

/-- A joined channel is left, if the platform plays along. -/
theorem plays_part (channel subscription : String)
    (hjoined : m.subscriptions.lookup (Text.lower channel) = some subscription) (hid : subscription ≠ "") :
    ∃ last, Plays sharing m (part channel).outcome (⟨.memory (Memory.leave (Text.lower channel)), m⟩ :: last)
      (m.leave (Text.lower channel)) (.done (.ok ())) := by
  refine ⟨[⟨.unsubscribe subscription, .ok ()⟩, ⟨.store (Notice.query ⟨"info", "Parted channel " ++ Text.lower channel,
    "part", [("channel", .str (Text.lower channel))]⟩), .ok .null⟩], ?_⟩
  refine Attempt.plays_bind (t := [_, _]) (u := [_]) (a := ()) ?_ (.ask rfl (.here ..))
  refine Attempt.plays_query_bind (I := surroundings) (q := .memory (Memory.leave _)) ⟨rfl, rfl⟩ ?_
  rw [hjoined]
  dsimp only
  rw [if_neg (by simpa using hid)]
  exact plays_platform (plays_ask (.unsubscribe subscription) (.ok ()) rfl)

end Succeeds

/-- **Joined channels are kept in step.** Programs that join and leave channels, in any letter case, take turns in any
order, and whatever they ask of the platform succeeds or fails. At any time the joined channels are those with a
subscription, each once and in lower case. A join that fails has changed neither, unless the channel was noted down
and then the console could not be told of it. One program at most subscribes at a time, to a channel that is noted
down nowhere; and between two subscriptions to a channel someone leaves it. -/
theorem membership_in_step {changes : List Change} {m₀ m : Memory} {log : List (Nat × Turn surroundings)}
    {threads : List (Dialogue surroundings (Except Fault Unit))} (hm : m₀.InStep)
    (h : Interleaved sharing m₀ (changes.map (·.program.outcome)) log m threads) :
    m.InStep ∧
      (∀ i channel f, changes[i]? = some (.join channel) → threads[i]? = some (.done (.error f)) →
        (∀ t ∈ turnsOf i log, t.query.SparesChannels) ∨
          f.IsForeign ∧ ∃ first, turnsOf i log = first ++ [⟨.store (joinNotice channel).query, .error f⟩]) ∧
      (∀ i j channelId channelId', IsSubscribing threads i channelId → IsSubscribing threads j channelId' → i = j) ∧
      (∀ (i : Nat) (c : Change) (channelId : String), changes[i]? = some c → IsSubscribing threads i channelId →
        c.login ∉ keys m.channelIds ∧ c.login ∉ keys m.subscriptions) ∧
      ∀ login before g between g' after, log = before ++ g :: between ++ g' :: after →
        Grants changes login g → Grants changes login g' → ∃ t ∈ between, Drops changes login t := by
  have hguarded := guarded hm h
  refine ⟨hguarded.inStep, fun i channel f hi hdone => ?_, fun i j channelId channelId' hi hj => ?_,
    fun i c channelId hc hi => ?_, fun login before g between g' after hlog hg hg' => ?_⟩
  · obtain ⟨y, hy, hleads⟩ := h.leads (getElem?_programs hi)
    obtain rfl := Option.some.inj (hy.symm.trans hdone)
    have hruns := hleads.runs (.done _)
    rw [List.append_nil] at hruns
    exact runs_join_error hruns
  · obtain ⟨c, hc⟩ := exists_change h hi.choose_spec
    obtain ⟨c', hc'⟩ := exists_change h hj.choose_spec
    exact hguarded.alone i j (phaseOf_subscribing h hc hi ▸ trivial) (phaseOf_subscribing h hc' hj ▸ trivial)
  · have hfree := hguarded.clear i c hc (phaseOf_subscribing h hc hi ▸ trivial)
    exact ⟨hfree, fun hmem => hfree ((hguarded.inStep.same _).mpr hmem)⟩
  · subst hlog
    exact drops_between hm h hg hg'

/-- A channel that was joined and left can be joined again, in other letters. -/
theorem membership_in_step_rejoined :
    let changes : List Change := [.join "Bob", .part "BOB", .join "bOB"]
    let m₀ : Memory := { joined with channelIds := [] }
    m₀.InStep ∧ ∃ before g between g' after m threads,
      Interleaved sharing m₀ (changes.map (·.program.outcome)) (before ++ g :: between ++ g' :: after) m threads ∧
        Grants changes "bob" g ∧ Grants changes "bob" g' ∧ m.InStep ∧ ∃ t ∈ between, Drops changes "bob" t := by
  intro changes m₀
  have hm : m₀.InStep := ⟨fun _ => Iff.rfl, by decide, by decide⟩
  obtain ⟨first, last, hjoin⟩ := plays_join "Bob" "7" "sub-1" hm rfl (by decide) (by decide)
  obtain ⟨rest, hpart⟩ := plays_part (m := m₀.enter "bob" "7" "sub-1") "BOB" "sub-1" (by decide) (by decide)
  obtain ⟨first', last', hjoin'⟩ := plays_join (m := (m₀.enter "bob" "7" "sub-1").leave "bob") "bOB" "7" "sub-2"
    ((hm.enter (by decide) ..).leave _) rfl (by decide) (by decide)
  have h₀ : Interleaved sharing m₀ (changes.map (·.program.outcome)) [] m₀ (changes.map (·.program.outcome)) := .start
  have h₁ := h₀.plays (i := 0) rfl hjoin
  have h₂ := h₁.plays (i := 1) rfl hpart
  have h₃ := h₂.plays (i := 2) rfl hjoin'
  have hlog : ∀ {first last part first' last' : List (Turn surroundings)} {t t' : Turn surroundings},
      [] ++ (first ++ t :: last).map ((0 : Nat), ·) ++ part.map (1, ·) ++ (first' ++ t' :: last').map (2, ·) =
        first.map (0, ·) ++ (0, t) :: (last.map (0, ·) ++ part.map (1, ·) ++ first'.map (2, ·)) ++
          (2, t') :: last'.map (2, ·) := by simp
  rw [hlog] at h₃
  have hgrants : Grants changes "bob" (0, ⟨.subscribe "7", .ok "sub-1"⟩) := ⟨_, "7", "sub-1", rfl, by decide, rfl⟩
  have hgrants' : Grants changes "bob" (2, ⟨.subscribe "7", .ok "sub-2"⟩) := ⟨_, "7", "sub-2", rfl, by decide, rfl⟩
  have hstep := membership_in_step hm h₃
  exact ⟨hm, _, _, _, _, _, _, _, h₃, hgrants, hgrants', hstep.1, hstep.2.2.2.2 "bob" _ _ _ _ _ rfl hgrants hgrants'⟩

end ChannelBot.Bot
