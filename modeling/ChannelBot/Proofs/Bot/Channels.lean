/-
The channels that a bot remembers: their ids and their subscriptions, two lists that are kept in step
(`Memory.InStep`). Programs of a bot share them (`sharing`), as a stage lets them (`Stage.answer?_serve`).
-/
import ChannelBot.Proofs.Bot.Refreshing
import ChannelBot.Proofs.Bot.Timeouts
import ChannelBot.Proofs.Dialogue.Interleaving

namespace ChannelBot.Bot

open Dialogue

/-! ## Entries -/

/-- The keys of entries. -/
def keys {α : Type} (entries : List (String × α)) : List String := entries.map (·.1)

section Keys

variable {α : Type} {key k : String} {a : α} {entries : List (String × α)}

theorem mem_keys_assign : k ∈ keys (assign key a entries) ↔ k = key ∨ k ∈ keys entries := by
  induction entries with
  | nil => simp [assign, keys]
  | cons entry rest ih =>
    obtain ⟨k', b⟩ := entry
    rw [assign]
    by_cases hkey : k' = key
    · simp [keys, hkey]
    · rw [if_neg (by simpa using hkey)]
      simp only [keys, List.map_cons, List.mem_cons] at ih ⊢
      rw [ih]
      exact or_left_comm

theorem nodup_keys_assign (h : (keys entries).Nodup) : (keys (assign key a entries)).Nodup := by
  induction entries with
  | nil => simp [assign, keys]
  | cons entry rest ih =>
    obtain ⟨k', b⟩ := entry
    obtain ⟨hfresh, hrest⟩ := List.nodup_cons.mp h
    rw [assign]
    by_cases hkey : k' = key
    · rw [if_pos (by simpa using hkey)]
      exact List.nodup_cons.mpr ⟨hfresh, hrest⟩
    · rw [if_neg (by simpa using hkey)]
      refine List.nodup_cons.mpr ⟨fun hmem => ?_, ih hrest⟩
      rcases mem_keys_assign.mp hmem with heq | hmem
      · exact hkey heq
      · exact hfresh hmem

theorem keys_forget : keys (forget key entries) = (keys entries).filter (· != key) := by
  rw [keys, forget, keys, List.filter_map]
  rfl

theorem mem_keys_forget : k ∈ keys (forget key entries) ↔ k ∈ keys entries ∧ k ≠ key := by
  simp [keys_forget]

theorem lookup_forget_ne (h : k ≠ key) : (forget key entries).lookup k = entries.lookup k := by
  induction entries with
  | nil => rfl
  | cons entry rest ih =>
    obtain ⟨k', b⟩ := entry
    rw [forget] at ih ⊢
    by_cases hkey : k' = key
    · have hother : (k == k') = false := by simpa [hkey] using h
      rw [List.filter_cons_of_neg (by simpa using hkey), ih, List.lookup_cons, hother]
    · rw [List.filter_cons_of_pos (by simpa using hkey), List.lookup_cons, List.lookup_cons, ih]

theorem isNone_lookup_iff : (entries.lookup k).isNone ↔ k ∉ keys entries := by
  rw [Option.isNone_iff_eq_none, List.lookup_eq_none_iff, keys, List.mem_map, not_exists]
  refine forall_congr' fun entry => ?_
  rw [not_and, bne_iff_ne, ne_comm]

end Keys

/-! ## What a bot remembers of its channels -/

namespace Memory

/-- A channel is noted down with its subscription. -/
def enter (login channelId subscription : String) (m : Memory) : Memory :=
  { m with
    subscriptions := assign login subscription m.subscriptions
    channelIds := assign login channelId m.channelIds }

/-- A channel and its subscription are forgotten. -/
def leave (login : String) (m : Memory) : Memory :=
  { m with
    subscriptions := forget login m.subscriptions
    channelIds := forget login m.channelIds }

/-- The joined channels are those with a subscription, in lower case and each once. -/
structure InStep (m : Memory) : Prop where
  same : ∀ login, login ∈ keys m.channelIds ↔ login ∈ keys m.subscriptions
  low : ∀ login ∈ keys m.channelIds, Text.lower login = login
  once : (keys m.channelIds).Nodup

variable {m m' : Memory} {login : String}

theorem InStep.congr (h : m.InStep) (hchannels : m'.channelIds = m.channelIds)
    (hsubscriptions : m'.subscriptions = m.subscriptions) : m'.InStep := by
  refine ⟨?_, ?_, ?_⟩
  · rw [hchannels, hsubscriptions]
    exact h.same
  · rw [hchannels]
    exact h.low
  · rw [hchannels]
    exact h.once

theorem InStep.enter (h : m.InStep) (hlow : Text.lower login = login) (channelId subscription : String) :
    (m.enter login channelId subscription).InStep := by
  refine ⟨fun k => ?_, fun k hk => ?_, nodup_keys_assign h.once⟩
  · rw [Memory.enter, mem_keys_assign, mem_keys_assign, h.same]
  · rcases mem_keys_assign.mp hk with rfl | hk
    · exact hlow
    · exact h.low k hk

theorem InStep.leave (h : m.InStep) (login : String) : (m.leave login).InStep := by
  refine ⟨fun k => ?_, fun k hk => h.low k (mem_keys_forget.mp hk).1, ?_⟩
  · rw [Memory.leave, mem_keys_forget, mem_keys_forget, h.same]
  · rw [Memory.leave, keys_forget]
    exact h.once.filter _

end Memory

/-! ## The memory that programs share -/

/-- The memory of a bot, as its programs share it: a question that looks at it or changes it is answered at once, and
the lock is taken when it is free. What else a bot does leaves the channels and the lock as they are. -/
def sharing : Shared surroundings Memory where
  serve m q m' answer := match q, answer with
    | .memory f, before => before = m ∧ m' = f m
    | .lockJoins, _ => m.joining = false ∧ m' = { m with joining := true }
    | .unlockJoins, _ => m' = { m with joining := false }
    | _, _ => m' = m
  drift m m' := m'.channelIds = m.channelIds ∧ m'.subscriptions = m.subscriptions ∧ m'.joining = m.joining

namespace Stage

variable {s s' : Stage}

theorem unlessFailing_memory {α : Type} {p : Part} {act : Stage → Stage × α} {answer : Except String α}
    (h : s.unlessFailing p act = (s', answer)) (hact : (act s).1.memory = s.memory) : s'.memory = s.memory := by
  rw [unlessFailing] at h
  split at h
  · rw [(Prod.mk.inj h).1]
  · rw [← hact, ← (Prod.mk.inj h).1]

theorem changeMemory_memory (f : Memory → Memory) : (s.changeMemory f).memory = f s.memory := by
  unfold changeMemory
  dsimp only
  split <;> rfl

theorem wakeConsumer_memory : s.wakeConsumer.memory = s.memory := by
  unfold wakeConsumer
  split <;> rfl

theorem stopStream_memory : s.stopStream.memory = s.memory := by
  unfold stopStream
  dsimp only
  split <;> rfl

/-- So a stage answers its programs. -/
theorem answer?_serve {q : Query} {answer : Answer q} (h : s.answer? q = some (s', answer)) :
    sharing.serve s.memory q s'.memory answer := by
  cases q with
  | store q =>
    obtain ⟨b, troubles, hasked⟩ := s.askStore_frame q
    rw [Option.some.inj h] at hasked
    have hmemory := congrArg Stage.memory hasked
    exact hmemory
  | memory f =>
    obtain ⟨rfl, rfl⟩ := Prod.mk.inj (Option.some.inj h)
    exact ⟨rfl, changeMemory_memory f⟩
  | usersNamed logins => exact unlessFailing_memory (Option.some.inj h) rfl
  | usersWithId id => exact unlessFailing_memory (Option.some.inj h) rfl
  | subscribe channelId => exact unlessFailing_memory (Option.some.inj h) rfl
  | unsubscribe id => exact unlessFailing_memory (Option.some.inj h) rfl
  | sendMessage channelId login text replyTo => exact unlessFailing_memory (Option.some.inj h) rfl
  | silence channelId login userId seconds => exact unlessFailing_memory (Option.some.inj h) rfl
  | commercial channelId login seconds => exact unlessFailing_memory (Option.some.inj h) rfl
  | addToken token refreshToken => exact unlessFailing_memory (Option.some.inj h) rfl
  | lockJoins =>
    rw [answer?] at h
    split at h
    · cases h
    · rename_i hheld
      cases h
      exact ⟨Bool.eq_false_iff.mpr hheld, rfl⟩
  | awaitReady =>
    rw [answer?] at h
    split at h <;> cases h
    rfl
  | enqueue m =>
    rw [answer?] at h
    split at h <;> cases h
    exact wakeConsumer_memory
  | pause duration => cases h
  | startOutbound =>
    cases h
    exact wakeConsumer_memory
  | stopStream =>
    cases h
    exact stopStream_memory
  | _ =>
    cases h
    rfl

end Stage

/-! ## Answers that come -/

section Plays

variable {m m' : Memory}

theorem plays_ask (q : Query) (answer : Answer q) (hserve : sharing.serve m q m' answer) :
    Plays sharing m (ask q).outcome [⟨q, answer⟩] m' (.done (.ok answer)) := .ask hserve (.here ..)

/-- What follows a question goes on with its answer. -/
theorem plays_asked (q : Query) {α : Type} {f : Answer q → Program α} {turns : List (Turn surroundings)}
    {r : Except Fault α} (h : Plays sharing m (ask q >>= f).outcome turns m' (.done r)) :
    ∃ m₁ answer rest, turns = ⟨q, answer⟩ :: rest ∧ sharing.serve m q m₁ answer ∧
      Plays sharing m₁ (f answer).outcome rest m' (.done r) :=
  (Attempt.plays_query_bind_done (I := surroundings) (q := q)).mp h

theorem plays_platform {α : Type} {x : Program (Except String α)} {turns : List (Turn surroundings)} {a : α}
    (hx : Plays sharing m x.outcome turns m' (.done (.ok (.ok a)))) :
    Plays sharing m (platform x).outcome turns m' (.done (.ok a)) := by
  rw [← List.append_nil turns]
  exact Attempt.plays_bind hx (.here ..)

end Plays

end ChannelBot.Bot
