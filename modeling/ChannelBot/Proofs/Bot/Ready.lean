/-
How a bot becomes ready. What it starts goes on whatever the platform and the store refuse, but for one thing: if the
store cannot list the channels, the failure leaves all that comes after it undone (`ready_iff_listed`).
-/
import ChannelBot.Proofs.Bot.Joins

namespace ChannelBot.Bot

open Dialogue
open Attempt (Asks asks_pure asks_fail asks_ofExcept asks_sure asks_query)

/-! ## Failures -/

/-- A program fails only with such faults, whatever the answers are. -/
def FailsOnly {α : Type} (P : Fault → Prop) (x : Program α) : Prop :=
  ∀ turns f, Runs x.outcome turns (.error f) → P f

section FailsOnly

variable {α β : Type} {P : Fault → Prop}

theorem FailsOnly.bind {x : Program α} {f : α → Program β} (hx : FailsOnly P x) (hf : ∀ a, FailsOnly P (f a)) :
    FailsOnly P (x >>= f) := by
  intro turns e h
  rcases Attempt.runs_bind.mp h with ⟨first, rest, a, -, -, hrest⟩ | ⟨e', he', he⟩
  · exact hf a rest e hrest
  · cases he
    exact hx turns e he'

theorem failsOnly_pure (a : α) : FailsOnly P (pure a : Program α) := fun turns e h => by
  cases (Attempt.runs_pure.mp h).2

theorem failsOnly_fail {f : Fault} (hf : P f) : FailsOnly P (Attempt.fail f : Program α) := fun turns e h => by
  cases (Attempt.runs_fail.mp h).2
  exact hf

theorem failsOnly_ask (q : Query) : FailsOnly P (ask q) := fun turns e h => by
  obtain ⟨answer, -, he⟩ := Attempt.runs_sure.mp h
  cases he

theorem failsOnly_platform {x : Program (Except String α)} (hx : FailsOnly P x)
    (hrefused : ∀ words, P (.transport (.refused words))) : FailsOnly P (platform x) :=
  hx.bind fun answer => by
    cases answer with
    | ok a => exact failsOnly_pure a
    | error words => exact failsOnly_fail (hrefused words)

/-- Nothing but the platform keeps a bot from subscribing. -/
theorem failsOnly_subscribe (login : String) : FailsOnly (∃ cause, · = .transport cause) (subscribe login) := by
  have hrefused : ∀ words, ∃ cause, Fault.transport (.refused words) = .transport cause := fun words => ⟨_, rfl⟩
  refine (failsOnly_ask _).bind fun m => ?_
  split
  · exact failsOnly_pure _
  · refine FailsOnly.bind (FailsOnly.bind ?_ fun ids => ?_) fun channelId => ?_
    · refine (failsOnly_ask _).bind fun m => ?_
      dsimp only
      split
      · exact failsOnly_pure _
      · exact (failsOnly_platform (failsOnly_ask _) hrefused).bind fun users => failsOnly_pure _
    · split
      · split
        · exact failsOnly_fail ⟨_, rfl⟩
        · exact failsOnly_pure _
      · exact failsOnly_fail ⟨_, rfl⟩
    · refine (failsOnly_platform (failsOnly_ask _) hrefused).bind fun subscription => ?_
      exact (failsOnly_ask _).bind fun _ => failsOnly_pure _

theorem FailsOnly.alone {x : Program α} (hx : FailsOnly P x) : FailsOnly P (alone x) := by
  intro turns e h
  obtain ⟨_, rest, rfl, hinside⟩ := (Attempt.runs_query_bind (I := surroundings) (q := .lockJoins)).mp h
  obtain ⟨first, last, y, rfl, hx', hunlocks⟩ := Attempt.runs_sure_bind.mp hinside
  obtain ⟨_, rest', rfl, hends⟩ := (Attempt.runs_query_bind (I := surroundings) (q := .unlockJoins)).mp hunlocks
  obtain ⟨rfl, rfl⟩ := Attempt.runs_ofExcept.mp hends
  exact hx first e hx'

end FailsOnly

/-! ## Sane answers -/

/-- The store fails only with faults of its own, and lists channels and refresh tokens in rows. -/
def IsSane : (q : StoreQuery) → Except Fault q.Result → Prop
  | .channels, .ok v => ∃ rows, v = .list rows ∧ ∀ row ∈ rows, ∃ name, row.member "channel_name" = .ok name
  | .refreshTokens, .ok v => ∃ rows, v = .list rows ∧
    ∀ row ∈ rows, ∃ channel token, row.get "channel" = .ok (.str channel) ∧ row.get "refresh_token" = .ok token
  | _, .ok _ => True
  | _, .error f => ∃ cause, f = .store cause

/-- If the store was asked, its answer is sane. -/
def SaneTurn : Turn surroundings → Prop
  | ⟨.store q, answer⟩ => IsSane q answer
  | _ => True

/-- All answers of the store are sane. -/
def Sane (turns : List (Turn surroundings)) : Prop := ∀ t ∈ turns, SaneTurn t

theorem saneTurn_store {q : StoreQuery} {answer : Except Fault q.Result} (h : IsSane q answer) :
    SaneTurn ⟨.store q, answer⟩ := h

theorem isSane_error_iff {q : StoreQuery} {f : Fault} : IsSane q (.error f) ↔ ∃ cause, f = .store cause := by
  cases q <;> exact Iff.rfl

section Sane

variable {turns first rest : List (Turn surroundings)}

theorem Sane.left (h : Sane (first ++ rest)) : Sane first := fun t ht => h t (List.mem_append_left rest ht)

theorem Sane.right (first : List (Turn surroundings)) (h : Sane (first ++ rest)) : Sane rest := fun t ht =>
  h t (List.mem_append_right first ht)

theorem Sane.answer {q : StoreQuery} {answer : Except Fault q.Result} (h : Sane turns)
    (hmem : ⟨.store q, answer⟩ ∈ turns) : IsSane q answer := h _ hmem

/-- To a sane console everything can be told. -/
theorem runs_tell_sane {level message event : String} {details : List (String × Value)} {r : Except Fault Unit}
    (h : Runs (tell level message event details).outcome turns r) (hsane : Sane turns) : r = .ok () := by
  obtain ⟨answer, rest, rfl, hheard⟩ := (Attempt.runs_query_bind (I := surroundings)
    (q := .store (Notice.query ⟨level, message, event, details⟩))).mp h
  obtain ⟨rfl, rfl⟩ := Attempt.runs_ofExcept.mp hheard
  rcases hanswer : answer with f | v
  · subst hanswer
    obtain ⟨cause, rfl⟩ := isSane_error_iff.mp (hsane.answer List.mem_cons_self)
    rfl
  · rfl

/-- In a sane world nothing but the platform keeps a bot from joining a channel. -/
theorem runs_join_sane {channel : String} {f : Fault} (h : Runs (join channel).outcome turns (.error f))
    (hsane : Sane turns) : ∃ cause, f = .transport cause := by
  rcases Attempt.runs_bind.mp h with ⟨first, rest, done, rfl, -, htold⟩ | ⟨e, halone, he⟩
  · cases done with
    | true => cases runs_tell_sane htold (hsane.right _)
    | false => cases (Attempt.runs_pure.mp htold).2
  · cases he
    exact (failsOnly_subscribe _).alone turns f halone

end Sane

/-! ## Joining what is listed -/

/-- The channel was found to be joined, or it was tried to join it. -/
def Attempts (login : String) (turns : List (Turn surroundings)) : Prop :=
  (∃ m : Memory, ⟨.memory id, m⟩ ∈ turns ∧ login ∈ keys m.channelIds) ∨
    ∃ before tried after r, turns = before ++ tried ++ after ∧ Runs (join login).outcome tried r

section Rows

variable {turns first rest : List (Turn surroundings)} {r : Except Fault Unit} {login : String}

theorem Attempts.append_left (first : List (Turn surroundings)) (h : Attempts login rest) :
    Attempts login (first ++ rest) := by
  rcases h with ⟨m, hmem, hjoined⟩ | ⟨before, tried, after, r, rfl, hruns⟩
  · exact .inl ⟨m, List.mem_append_right _ hmem, hjoined⟩
  · exact .inr ⟨first ++ before, tried, after, r, by simp only [List.append_assoc], hruns⟩

/-- After a row the other ones are gone through, whatever becomes of its channel. -/
theorem runs_joinRows_cons {row name : Value} {rows : List Value} (hname : row.member "channel_name" = .ok name)
    (h : Runs (joinRows (row :: rows)).outcome turns r) (hsane : Sane turns) :
    ∃ first rest, turns = first ++ rest ∧ Runs (joinRows rows).outcome rest r ∧
      Attempts (Text.lower name.display) first := by
  rw [joinRows, hname] at h
  obtain ⟨m, later, rfl, hlater⟩ := (Attempt.runs_query_bind (I := surroundings) (q := .memory id)).mp h
  dsimp only at hlater
  by_cases hfree : (m.channelIds.lookup (Text.lower name.display)).isNone
  · rw [if_pos hfree] at hlater
    obtain ⟨tried, rest, y, rfl, htried, hrest⟩ := Attempt.runs_sure_bind.mp hlater
    have hsane' := hsane.right [_]
    have hattempts : ∀ told, Attempts (Text.lower name.display) (⟨.memory id, m⟩ :: (tried ++ told)) :=
      fun told => .inr ⟨[_], tried, told, y, rfl, htried⟩
    cases y with
    | ok done => exact ⟨_, rest, rfl, hrest, by simpa using hattempts []⟩
    | error f =>
      obtain ⟨cause, rfl⟩ := runs_join_sane htried hsane'.left
      rcases Attempt.runs_bind.mp hrest with ⟨told, rest', _, rfl, -, hothers⟩ | ⟨e, htold, -⟩
      · exact ⟨⟨.memory id, m⟩ :: (tried ++ told), rest', by simp, hothers, hattempts told⟩
      · cases runs_tell_sane htold (hsane'.right _)
  · rw [if_neg hfree] at hlater
    have hjoined : Text.lower name.display ∈ keys m.channelIds := by
      by_contra hnone
      exact hfree (isNone_lookup_iff.mpr hnone)
    exact ⟨[⟨.memory id, m⟩], later, rfl, hlater, .inl ⟨m, List.mem_cons_self, hjoined⟩⟩

theorem Attempts.append_right (h : Attempts login first) : Attempts login (first ++ rest) := by
  rcases h with ⟨m, hmem, hjoined⟩ | ⟨before, tried, after, r, rfl, hruns⟩
  · exact .inl ⟨m, List.mem_append_left _ hmem, hjoined⟩
  · exact .inr ⟨before, tried, after ++ rest, r, by simp only [List.append_assoc], hruns⟩

/-- Rows of channels are gone through to the end, and each channel is joined or tried. -/
theorem runs_joinRows {rows : List Value} (hrows : ∀ row ∈ rows, ∃ name, row.member "channel_name" = .ok name)
    (h : Runs (joinRows rows).outcome turns r) (hsane : Sane turns) : r = .ok () ∧
      ∀ row ∈ rows, ∀ name, row.member "channel_name" = .ok name → Attempts (Text.lower name.display) turns := by
  induction rows generalizing turns with
  | nil => exact ⟨(Attempt.runs_pure.mp h).2, nofun⟩
  | cons row rows ih =>
    obtain ⟨⟨name, hname⟩, hothers⟩ := List.forall_mem_cons.mp hrows
    obtain ⟨first, rest, rfl, hrest, hattempts⟩ := runs_joinRows_cons hname h hsane
    obtain ⟨hr, hall⟩ := ih hothers hrest (hsane.right _)
    refine ⟨hr, List.forall_mem_cons.mpr ⟨fun name' hname' => ?_, fun row' hrow' name' hname' => ?_⟩⟩
    · obtain rfl := Except.ok.inj (hname.symm.trans hname')
      exact hattempts.append_right
    · exact (hall row' hrow' name' hname').append_left _

end Rows

/-! ## Starting the refresh loops -/

section Refreshing

variable {turns : List (Turn surroundings)} {r : Except Fault Unit}

/-- After a row the other ones are gone through; if it has a channel and a token, a loop is started. -/
theorem runs_refreshRows_cons {row token : Value} {rows : List Value} {channel : String}
    (hchannel : row.get "channel" = .ok (.str channel)) (htoken : row.get "refresh_token" = .ok token)
    (h : Runs (refreshRows (row :: rows)).outcome turns r) :
    ∃ first rest, turns = first ++ rest ∧ Runs (refreshRows rows).outcome rest r ∧
      ((Value.str channel).holds → token.holds → ⟨.startRefreshing (.str channel) token, ()⟩ ∈ first) := by
  rw [refreshRows, hchannel, htoken] at h
  simp only [Except.mapError, Attempt.ofExcept_ok_bind] at h
  by_cases hboth : ((Value.str channel).holds && token.holds) = true
  · rw [if_pos hboth] at h
    rcases Attempt.runs_bind.mp h with ⟨first, rest, _, rfl, hstart, hrest⟩ | ⟨e, hstart, -⟩
    · obtain ⟨_, later, rfl, -⟩ := (Attempt.runs_query_bind (I := surroundings) (q := .startRefreshing _ _)).mp hstart
      exact ⟨_, rest, rfl, hrest, fun _ _ => List.mem_cons_self⟩
    · obtain ⟨_, later, rfl, hdone⟩ :=
        (Attempt.runs_query_bind (I := surroundings) (q := .startRefreshing _ _)).mp hstart
      cases (Attempt.runs_pure.mp hdone).2
  · rw [if_neg hboth] at h
    exact ⟨[], turns, rfl, h, fun hc ht => absurd (Bool.and_eq_true_iff.mpr ⟨hc, ht⟩) hboth⟩

/-- Rows of refresh tokens are gone through to the end, and a loop is started for each that has one. -/
theorem runs_refreshRows {rows : List Value}
    (hrows : ∀ row ∈ rows, ∃ channel token,
      row.get "channel" = .ok (.str channel) ∧ row.get "refresh_token" = .ok token)
    (h : Runs (refreshRows rows).outcome turns r) : r = .ok () ∧
      ∀ row ∈ rows, ∀ channel token, row.get "channel" = .ok channel → row.get "refresh_token" = .ok token →
        channel.holds → token.holds → ⟨.startRefreshing channel token, ()⟩ ∈ turns := by
  induction rows generalizing turns with
  | nil => exact ⟨(Attempt.runs_pure.mp h).2, nofun⟩
  | cons row rows ih =>
    obtain ⟨⟨channel, token, hchannel, htoken⟩, hothers⟩ := List.forall_mem_cons.mp hrows
    obtain ⟨first, rest, rfl, hrest, hstarts⟩ := runs_refreshRows_cons hchannel htoken h
    obtain ⟨hr, hall⟩ := ih hothers hrest
    refine ⟨hr, List.forall_mem_cons.mpr ⟨fun channel' token' hc ht => ?_, fun row' hrow' channel' token' hc ht => ?_⟩⟩
    · obtain rfl := Except.ok.inj (hchannel.symm.trans hc)
      obtain rfl := Except.ok.inj (htoken.symm.trans ht)
      exact fun hcholds htholds => List.mem_append_left _ (hstarts hcholds htholds)
    · exact fun hcholds htholds => List.mem_append_right _ (hall row' hrow' channel' token' hc ht hcholds htholds)

end Refreshing

/-! ## The services -/

/-- The channels that the store lists are joined or tried. -/
def Joins (listed : Except Fault Value) (turns : List (Turn surroundings)) : Prop :=
  ∀ rows, listed = .ok (.list rows) → ∀ row ∈ rows, ∀ name, row.member "channel_name" = .ok name →
    Attempts (Text.lower name.display) turns

/-- The store is asked for the refresh tokens, and a loop is started for each that it lists. -/
def Refreshes (turns : List (Turn surroundings)) : Prop :=
  ∃ listed, ⟨.store .refreshTokens, listed⟩ ∈ turns ∧ ∀ rows, listed = .ok (.list rows) →
    ∀ row ∈ rows, ∀ channel token, row.get "channel" = .ok channel → row.get "refresh_token" = .ok token →
      channel.holds → token.holds → ⟨.startRefreshing channel token, ()⟩ ∈ turns

section Services

variable {turns first rest : List (Turn surroundings)} {listed : Except Fault Value} {r : Except Fault Unit}

theorem Joins.append_left (first : List (Turn surroundings)) (h : Joins listed rest) : Joins listed (first ++ rest) :=
  fun rows hrows row hrow name hname => (h rows hrows row hrow name hname).append_left first

theorem Joins.append_right (rest : List (Turn surroundings)) (h : Joins listed first) : Joins listed (first ++ rest) :=
  fun rows hrows row hrow name hname => (h rows hrows row hrow name hname).append_right

theorem Refreshes.mono (h : Refreshes first) (hsub : ∀ t ∈ first, t ∈ turns) : Refreshes turns := by
  obtain ⟨listed, hlisted, hall⟩ := h
  exact ⟨listed, hsub _ hlisted, fun rows hrows row hrow channel token hchannel htoken hc ht =>
    hsub _ (hall rows hrows row hrow channel token hchannel htoken hc ht)⟩

/-- A question to the store is asked, and its failure ends the program. -/
theorem runs_askStore {α : Type} {q : StoreQuery} {f : q.Result → Program α} {b : Except Fault α} :
    Runs (askStore q >>= f).outcome turns b ↔
      (∃ v rest, turns = ⟨.store q, .ok v⟩ :: rest ∧ Runs (f v).outcome rest b) ∨
        ∃ e, turns = [⟨.store q, .error e⟩] ∧ b = .error e := by
  rw [Attempt.runs_bind]
  constructor
  · rintro (⟨first, rest, v, rfl, hask, hrest⟩ | ⟨e, hask, rfl⟩)
    · obtain rfl := runs_query.mp hask
      exact .inl ⟨v, rest, rfl, hrest⟩
    · exact .inr ⟨e, runs_query.mp hask, rfl⟩
  · rintro (⟨v, rest, rfl, hrest⟩ | ⟨e, rfl, rfl⟩)
    · exact .inl ⟨[_], rest, v, rfl, runs_query.mpr rfl, hrest⟩
    · exact .inr ⟨e, runs_query.mpr rfl, rfl⟩

/-- The store is asked for the channels first; if it lists them, each is joined or tried. -/
theorem runs_syncChannels (h : Runs syncChannels.outcome turns r) (hsane : Sane turns) :
    ∃ listed rest, turns = ⟨.store .channels, listed⟩ :: rest ∧
      ((∃ f, listed = .error f ∧ rest = [] ∧ r = .error f) ∨
        (∀ f, listed ≠ .error f) ∧ r = .ok () ∧ Joins listed turns) := by
  rcases (runs_askStore (q := .channels)).mp h with ⟨v, rest, rfl, hrest⟩ | ⟨f, rfl, rfl⟩
  · obtain ⟨rows, rfl, hrows⟩ := hsane.answer (q := .channels) List.mem_cons_self
    obtain ⟨hr, hall⟩ := runs_joinRows hrows hrest (hsane.right [_])
    refine ⟨.ok (.list rows), rest, rfl, .inr ⟨nofun, hr, fun rows' hrows' => ?_⟩⟩
    obtain rfl := Value.list.inj (Except.ok.inj hrows')
    exact fun row hrow name hname => (hall row hrow name hname).append_left [_]
  · exact ⟨.error f, [], rfl, .inl ⟨f, rfl, rfl, rfl⟩⟩

/-- If the store lists the refresh tokens, a loop is started for each; else it has failed. -/
theorem runs_startRefreshing {n : Except Fault Nat} (h : Runs startRefreshing.outcome turns n) (hsane : Sane turns) :
    ((∃ cause, n = .error (.store cause)) ∨ ∃ k, n = .ok k) ∧ Refreshes turns := by
  rcases (runs_askStore (q := .refreshTokens)).mp h with ⟨v, rest, rfl, hrest⟩ | ⟨f, rfl, rfl⟩
  · obtain ⟨rows, rfl, hrows⟩ := hsane.answer (q := .refreshTokens) List.mem_cons_self
    have hlisted : Runs (refreshRows rows >>= fun _ => ask .countRefreshing).outcome rest n := hrest
    rcases Attempt.runs_bind.mp hlisted with ⟨first, last, _, rfl, hloops, hcount⟩ | ⟨e, hloops, -⟩
    · obtain ⟨-, hall⟩ := runs_refreshRows hrows hloops
      refine ⟨?_, .ok (.list rows), List.mem_cons_self, fun rows' hrows' => ?_⟩
      · obtain ⟨k, -, rfl⟩ := Attempt.runs_sure.mp hcount
        exact .inr ⟨k, rfl⟩
      · obtain rfl := Value.list.inj (Except.ok.inj hrows')
        exact fun row hrow channel token hchannel htoken hc ht =>
          List.mem_cons_of_mem _ (List.mem_append_left _ (hall row hrow channel token hchannel htoken hc ht))
    · cases (runs_refreshRows hrows hloops).1
  · obtain ⟨cause, rfl⟩ := hsane.answer (q := .refreshTokens) List.mem_cons_self
    exact ⟨.inl ⟨cause, rfl⟩, .error (.store cause), List.mem_cons_self, nofun⟩

/-- Once the channels are listed, nothing keeps the services from starting. -/
theorem runs_startServices (h : Runs startServices.outcome turns r) (hsane : Sane turns) :
    ∃ listed rest, turns = ⟨.store .channels, listed⟩ :: rest ∧
      ((∃ f, listed = .error f ∧ rest = [] ∧ r = .error f) ∨
        (∀ f, listed ≠ .error f) ∧ r = .ok () ∧ ⟨.startStream, ()⟩ ∈ turns ∧ Joins listed turns ∧ Refreshes turns) := by
  rcases Attempt.runs_bind.mp h with ⟨joined, later, _, rfl, hsync, hlater⟩ | ⟨f, hsync, rfl⟩
  · obtain ⟨listed, rest, rfl, ⟨f, -, -, hf⟩ | ⟨hlisted, -, hjoins⟩⟩ := runs_syncChannels hsync hsane.left
    · cases hf
    · obtain ⟨loops, last, n, rfl, hloops, hlast⟩ := Attempt.runs_sure_bind.mp hlater
      obtain ⟨hn, hrefreshes⟩ := runs_startRefreshing hloops (hsane.right _).left
      have hstream : ∃ told, last = told ++ [⟨.startStream, ()⟩] ∧ r = .ok () := by
        have hasked : ∀ {turns}, Runs (do let _ ← ask .startStream : Program Unit).outcome turns r →
            turns = [⟨.startStream, ()⟩] ∧ r = .ok () := fun h => by
          obtain ⟨_, rest, rfl, hdone⟩ := (Attempt.runs_query_bind (I := surroundings) (q := .startStream)).mp h
          obtain ⟨rfl, rfl⟩ := Attempt.runs_pure.mp hdone
          exact ⟨rfl, rfl⟩
        rcases hn with ⟨cause, rfl⟩ | ⟨k, rfl⟩
        · rcases Attempt.runs_bind.mp hlast with ⟨told, last', _, rfl, -, hlast'⟩ | ⟨e, htold, -⟩
          · obtain ⟨rfl, rfl⟩ := hasked hlast'
            exact ⟨told, rfl, rfl⟩
          · cases runs_tell_sane htold ((hsane.right _).right _)
        · obtain ⟨rfl, rfl⟩ := hasked hlast
          exact ⟨[], rfl, rfl⟩
      obtain ⟨told, rfl, rfl⟩ := hstream
      exact ⟨listed, rest ++ (loops ++ (told ++ [⟨.startStream, ()⟩])), rfl, .inr ⟨hlisted, rfl, by simp,
        hjoins.append_right _, hrefreshes.mono fun t ht => by simp [ht]⟩⟩
  · obtain ⟨listed, rest, rfl, hf | ⟨-, hf, -⟩⟩ := runs_syncChannels hsync hsane
    · exact ⟨listed, rest, rfl, .inl hf⟩
    · cases hf

end Services

/-! ## The lock -/

/-- Whether a program holds the lock, which it takes when it does not hold it. -/
def locking : Discipline surroundings Bool where
  allows
    | held, .lockJoins => held = false
    | _, .memory f => ∀ m, (f m).joining = m.joining
    | _, _ => True
  after
    | _, ⟨.lockJoins, _⟩ => true
    | _, ⟨.unlockJoins, _⟩ => false
    | held, _ => held

/-- A question that has nothing to do with the lock. -/
def Query.IsLockless : Query → Prop
  | .lockJoins | .unlockJoins => False
  | .memory f => ∀ m, (f m).joining = m.joining
  | _ => True

section Locking

variable {α : Type} {m m' : Memory} {turns : List (Turn surroundings)}

theorem locking_lockless {q : Query} (hq : q.IsLockless) (held : Bool) :
    locking.allows held q ∧ ∀ answer, locking.after held ⟨q, answer⟩ = held := by
  cases q with
  | lockJoins | unlockJoins => exact hq.elim
  | memory f => exact ⟨hq, fun _ => rfl⟩
  | _ => exact ⟨trivial, fun _ => rfl⟩

theorem keeps_lockless {x : Program α} (h : Asks Query.IsLockless x) :
    Keeps locking (fun held _ => held = false) false x.outcome :=
  AsksOnly.keeps h fun _ hq => locking_lockless hq false

theorem asks_subscribe_lockless (login : String) : Asks Query.IsLockless (subscribe login) := by
  refine Asks.bind (asks_ask fun _ => rfl) fun m => ?_
  split
  · exact asks_pure _
  · refine (asks_userId (fun _ => rfl) (fun _ => trivial) login).bind fun channelId => ?_
    refine (asks_platform (asks_ask trivial)).bind fun subscription => ?_
    exact (asks_ask fun _ => rfl).bind fun _ => asks_pure _

/-- A program after another that leaves the lock free. -/
theorem keeps_free_bind {β : Type} {x : Program α} {f : α → Program β}
    (hx : Keeps locking (fun held _ => held = false) false x.outcome)
    (hf : ∀ a, Keeps locking (fun held _ => held = false) false (f a).outcome) :
    Keeps locking (fun held _ => held = false) false (x >>= f).outcome :=
  Attempt.keeps_bind hx (fun _ a hheld => hheld ▸ hf a) fun _ _ hheld => hheld

theorem keeps_free_sure_bind {β : Type} {x : Dialogue surroundings α} {f : α → Program β}
    (hx : Keeps locking (fun held _ => held = false) false x)
    (hf : ∀ a, Keeps locking (fun held _ => held = false) false (f a).outcome) :
    Keeps locking (fun held _ => held = false) false (Attempt.sure x >>= f).outcome :=
  Attempt.keeps_sure_bind (hx.mono fun _ a hheld => hheld ▸ hf a)

/-- Who joins a channel takes the free lock, and leaves it free. -/
theorem keeps_join_free (channel : String) :
    Keeps locking (fun held _ => held = false) false (join channel).outcome := by
  refine keeps_free_bind ?_ fun joined => ?_
  · refine Attempt.keeps_query_bind.mpr ⟨rfl, fun _ => Attempt.keeps_sure_bind ?_⟩
    have hinside : Keeps locking (fun held _ => held = true) true (subscribe (Text.lower channel)).outcome :=
      AsksOnly.keeps (asks_subscribe_lockless _) fun _ hq => locking_lockless hq true
    refine hinside.mono fun held y _ => Attempt.keeps_query_bind.mpr ⟨trivial, fun _ => ?_⟩
    cases y <;> exact rfl
  · cases joined with
    | true => exact keeps_lockless (asks_tell (fun _ => trivial) ..)
    | false => exact rfl

theorem keeps_joinRows (rows : List Value) :
    Keeps locking (fun held _ => held = false) false (joinRows rows).outcome := by
  induction rows with
  | nil => exact rfl
  | cons row rows ih =>
    refine keeps_free_bind (keeps_lockless (asks_ofExcept _)) fun name => ?_
    refine keeps_free_bind (keeps_lockless (asks_ask fun _ => rfl)) fun m => ?_
    dsimp only
    split
    · refine keeps_free_sure_bind (keeps_join_free _) fun y => ?_
      split
      · exact ih
      · exact keeps_free_bind (keeps_lockless (asks_tell (fun _ => trivial) ..)) fun _ => ih
      · exact keeps_free_bind (keeps_lockless (asks_fail _)) fun _ => ih
    · exact ih

theorem asks_refreshRows_lockless (rows : List Value) : Asks Query.IsLockless (refreshRows rows) := by
  induction rows with
  | nil => exact asks_pure _
  | cons row rows ih =>
    refine (asks_ofExcept _).bind fun channel => (asks_ofExcept _).bind fun token => ?_
    dsimp only
    split
    · refine Asks.bind ?_ fun _ => ih
      unfold startRefreshingFor
      split
      · exact asks_fail _
      · exact asks_fail _
      · exact (asks_ask trivial).bind fun _ => asks_pure _
    · exact ih

theorem asks_askStore_lockless (q : StoreQuery) : Asks Query.IsLockless (askStore q) := asks_query trivial

theorem keeps_startServices : Keeps locking (fun held _ => held = false) false startServices.outcome := by
  refine keeps_free_bind (keeps_free_bind (keeps_lockless (asks_askStore_lockless _)) fun rows => ?_) fun _ => ?_
  · exact keeps_free_bind (keeps_lockless (asks_ofExcept _)) keeps_joinRows
  · have hloops : Asks Query.IsLockless startRefreshing :=
      (asks_askStore_lockless _).bind fun _ => (asks_ofExcept _).bind fun rows =>
        (asks_refreshRows_lockless rows).bind fun _ => asks_ask trivial
    have hstream : Asks Query.IsLockless (do let _ ← ask .startStream : Program Unit) :=
      (asks_ask trivial).bind fun _ => asks_pure _
    refine keeps_free_sure_bind (keeps_lockless hloops) fun n => ?_
    dsimp only
    split
    · exact keeps_lockless hstream
    · exact keeps_lockless ((asks_tell (fun _ => trivial) ..).bind fun _ => hstream)
    · exact keeps_lockless ((asks_fail _).bind fun _ => hstream)

theorem keeps_becomeReady (s : Setup) :
    Keeps locking (fun held _ => held = false) false (becomeReady s).outcome := by
  have hends : Asks Query.IsLockless (do
      change fun m => { m with ready := true }
      greet (s.rules.messages.entry .botStarted) : Program Unit) :=
    ((asks_ask fun _ => rfl).bind fun _ => asks_pure _).bind fun _ =>
      (asks_sure (asks_query trivial)).bind fun _ => asks_ofExcept _
  refine keeps_free_bind (keeps_lockless (asks_ask trivial)) fun _ => ?_
  refine keeps_free_bind (keeps_lockless (asks_ask fun _ => rfl)) fun m => ?_
  dsimp only
  split
  · exact keeps_free_bind keeps_startServices fun _ => keeps_lockless hends
  · exact keeps_lockless hends

/-- The lock is taken as the turns say. -/
theorem keeps_plays {ends : Bool → α → Prop} {x y : Dialogue surroundings α} (h : Plays sharing m x turns m' y)
    (hx : Keeps locking ends m.joining x) : Keeps locking ends m'.joining y := by
  induction h with
  | here m x => exact hx
  | @ask m m₁ m' q next answer turns y hserve h ih =>
    obtain ⟨hallows, hnext⟩ := hx
    have hafter : m₁.joining = locking.after m.joining ⟨q, answer⟩ := by
      cases q with
      | memory f =>
        obtain ⟨-, rfl⟩ := hserve
        exact hallows m
      | lockJoins =>
        obtain ⟨-, rfl⟩ := hserve
        rfl
      | unlockJoins =>
        obtain rfl := hserve
        rfl
      | _ =>
        obtain rfl := hserve
        rfl
    refine ih ?_
    rw [hafter]
    exact hnext answer

/-- Some answer can come to a question. -/
def Answerable (m : Memory) (q : Query) : Prop := ∃ m' answer, sharing.serve m q m' answer

/-- What a program that keeps to the lock asks next can be answered. -/
theorem answerable_of_allows {q : Query} (h : locking.allows m.joining q) : Answerable m q := by
  cases q with
  | store q => exact ⟨m, .error .timeout, rfl⟩
  | web r => exact ⟨m, .timedOut, rfl⟩
  | memory f => exact ⟨f m, m, rfl, rfl⟩
  | now => exact ⟨m, Stage.epoch, rfl⟩
  | countRefreshing => exact ⟨m, (0 : Nat), rfl⟩
  | lockJoins => exact ⟨_, (), h, rfl⟩
  | unlockJoins => exact ⟨_, (), rfl⟩
  | usersNamed | usersWithId | subscribe | unsubscribe | sendMessage | silence | commercial | addToken =>
    exact ⟨m, .error "", rfl⟩
  | _ => exact ⟨m, (), rfl⟩

end Locking

/-! ## Becoming ready -/

/-- The bot is ready: it says so, messages are taken and the event stream is started, the channels that the store
lists are joined or tried, and what it has of refresh tokens is used. -/
structure Started (listed : Except Fault Value) (turns : List (Turn surroundings)) (m : Memory)
    (r : Except Fault Unit) : Prop where
  returns : r = .ok ()
  ready : m.ready = true
  consumes : ⟨.startOutbound, ()⟩ ∈ turns
  streams : ⟨.startStream, ()⟩ ∈ turns
  joins : Joins listed turns
  refreshes : Refreshes turns

section Ready

variable {s : Setup} {m m' : Memory} {turns : List (Turn surroundings)} {r : Except Fault Unit}

/-- After the services a bot says that it is ready, and greets. -/
theorem plays_greet_sane {greeting : Value}
    (h : Plays sharing m (do
      change fun m => { m with ready := true }
      greet greeting : Program Unit).outcome turns m' (.done r)) (hsane : Sane turns) :
    r = .ok () ∧ m'.ready = true := by
  obtain ⟨m₁, before, rest, rfl, ⟨-, rfl⟩, hgreet⟩ := plays_asked (.memory _) h
  obtain ⟨m₂, answer, rest, rfl, hserve, hheard⟩ := plays_asked (.store (.pushLog _ _ _)) hgreet
  obtain ⟨rfl, rfl, rfl⟩ := Attempt.plays_ofExcept_done.mp hheard
  refine ⟨?_, by rw [show m' = _ from hserve]⟩
  rcases answer with f | v
  · obtain ⟨cause, rfl⟩ := hsane.answer (q := .pushLog _ _ _) (List.mem_cons_of_mem _ List.mem_cons_self)
    rfl
  · rfl

/-- The bot takes messages first, then asks for the channels. All the rest depends on the answer. -/
theorem plays_becomeReady (henabled : m.enabled.holds) (h : Plays sharing m (becomeReady s).outcome turns m' (.done r))
    (hsane : Sane turns) : ∃ listed rest,
      turns = ⟨.startOutbound, ()⟩ :: ⟨.memory id, m⟩ :: ⟨.store .channels, listed⟩ :: rest ∧
        ((∃ f, listed = .error f ∧ rest = [] ∧ r = .error f ∧ m' = m) ∨
          (∀ f, listed ≠ .error f) ∧ Started listed turns m' r) := by
  obtain ⟨m₁, ⟨⟩, later, rfl, hserve, h₁⟩ := plays_asked .startOutbound h
  obtain rfl : m₁ = m := hserve
  obtain ⟨m₂, before, rest, rfl, hlooked, h₂⟩ := plays_asked (.memory id) h₁
  obtain ⟨rfl, rfl⟩ : before = m₁ ∧ m₂ = m₁ := hlooked
  dsimp only at h₂
  rw [if_pos henabled] at h₂
  have hsane' := hsane.right [_, _]
  rcases Attempt.plays_bind_done.mp h₂ with ⟨first, last, _, m₃, rfl, hstart, hgreet⟩ | ⟨f, hstart, rfl⟩
  · obtain ⟨listed, rest, rfl, ⟨f, -, -, hf⟩ | ⟨hlisted, -, hstream, hjoins, hrefreshes⟩⟩ :=
      runs_startServices hstart.runs hsane'.left
    · cases hf
    · obtain ⟨rfl, hready⟩ := plays_greet_sane hgreet (hsane'.right _)
      have hmem : ∀ t ∈ (⟨.store .channels, listed⟩ :: rest : List (Turn surroundings)),
          t ∈ (⟨.startOutbound, ()⟩ :: ⟨.memory id, m₂⟩ :: ⟨.store .channels, listed⟩ :: (rest ++ last) :
            List (Turn surroundings)) := fun t ht =>
        List.mem_cons_of_mem _ (List.mem_cons_of_mem _ (List.mem_append_left last ht))
      exact ⟨listed, rest ++ last, rfl, .inr ⟨hlisted, rfl, hready, List.mem_cons_self, hmem _ hstream,
        (hjoins.append_right last).append_left [_, _], hrefreshes.mono hmem⟩⟩
  · obtain ⟨listed, rest, rfl, ⟨f', rfl, rfl, hf⟩ | ⟨-, hf, -⟩⟩ := runs_startServices hstart.runs hsane'
    · exact ⟨.error f', [], rfl, .inl ⟨f', rfl, rfl, hf, hstart.serve_of_single⟩⟩
    · cases hf

/-- **A bot becomes ready just if the store lists the channels.** Whatever questions to the store fail with a fault
of the store, and whatever the platform refuses: an enabled bot that becomes ready never gets stuck. It takes
messages first and asks for the channels then. If that fails, the failure is its own, and nothing else has been
asked or changed. Else, and only then, it ends well and is ready, the event stream is started, each channel that
was listed is joined or was tried, and so are the refresh loops. -/
theorem ready_iff_listed (s : Setup) {m : Memory} (henabled : m.enabled.holds) (hfree : m.joining = false) :
    (∀ turns m' y, Plays sharing m (becomeReady s).outcome turns m' y →
      (∃ r, y = .done r) ∨ ∃ q next, y = .ask q next ∧ Answerable m' q) ∧
    ∀ turns m' r, Plays sharing m (becomeReady s).outcome turns m' (.done r) → Sane turns → ∃ listed rest,
      turns = ⟨.startOutbound, ()⟩ :: ⟨.memory id, m⟩ :: ⟨.store .channels, listed⟩ :: rest ∧
        (Started listed turns m' r ↔ ∀ f, listed ≠ .error f) ∧
        ∀ f, listed = .error f → rest = [] ∧ r = .error f ∧ m' = m := by
  refine ⟨fun turns m' y h => ?_, fun turns m' r h hsane => ?_⟩
  · have hkeeps := keeps_plays h (hfree ▸ keeps_becomeReady s)
    cases y with
    | done r => exact .inl ⟨r, rfl⟩
    | ask q next => exact .inr ⟨q, next, rfl, answerable_of_allows hkeeps.1⟩
  · obtain ⟨listed, rest, rfl, ⟨f, rfl, rfl, rfl, rfl⟩ | ⟨hlisted, hstarted⟩⟩ := plays_becomeReady henabled h hsane
    · refine ⟨.error f, [], rfl, ⟨fun hstarted => ?_, fun hlisted => absurd rfl (hlisted f)⟩, fun f' hf' => ?_⟩
      · cases hstarted.returns
      · cases hf'
        exact ⟨rfl, rfl, rfl⟩
    · exact ⟨listed, rest, rfl, iff_of_true hstarted hlisted, fun f hf => absurd hf (hlisted f)⟩

end Ready

/-- A bot without words of its own, in no channel. -/
def plain : Setup := ⟨⟨.ofConfigured none, .defaults⟩, {}⟩

/-- The store fails. -/
def lockedStore : Fault := .store ⟨500, "db locked", none⟩

/-- A bot whose only channel cannot be joined, and whose console and refresh tokens fail, is ready. -/
theorem ready_iff_listed_refused :
    let m : Memory := { joined with channelIds := [] }
    let listed : Except Fault Value := .ok (.list [.obj [("channel_name", .str "Bob")]])
    ∃ turns m', Plays sharing m (becomeReady plain).outcome turns m' (.done (.ok ())) ∧ Sane turns ∧
      Started listed turns m' (.ok ()) := by
  intro m listed
  let busy : Memory := { m with joining := true }
  let turns : List (Turn surroundings) :=
    [⟨.startOutbound, ()⟩, ⟨.memory id, m⟩, ⟨.store .channels, listed⟩, ⟨.memory id, m⟩,
      ⟨.lockJoins, ()⟩, ⟨.memory id, busy⟩, ⟨.memory id, busy⟩, ⟨.usersNamed ["bob"], .error "down"⟩,
      ⟨.unlockJoins, ()⟩,
      ⟨.store (Notice.query ⟨"error", "Failed to join channel bob: down", "join_error",
        [("channel", .str "bob"), ("error", .str "down")]⟩), .error lockedStore⟩,
      ⟨.store .refreshTokens, .error lockedStore⟩,
      ⟨.store (Notice.query ⟨"error", "Failed to start token refresh: db locked", "spotify", []⟩), .error lockedStore⟩,
      ⟨.startStream, ()⟩, ⟨.memory fun m => { m with ready := true }, m⟩,
      ⟨.store (.pushLog (.str "info") (plain.rules.messages.entry .botStarted) (.obj [("event", .str "lifecycle")])),
        .error lockedStore⟩]
  have hplays : Plays sharing m (becomeReady plain).outcome turns { m with ready := true } (.done (.ok ())) := by
    refine .ask rfl (.ask ⟨rfl, rfl⟩ (.ask rfl (.ask ⟨rfl, rfl⟩ ?_)))
    refine .ask ⟨rfl, rfl⟩ (.ask ⟨rfl, rfl⟩ (.ask ⟨rfl, rfl⟩ (.ask rfl (.ask rfl ?_))))
    exact .ask rfl (.ask rfl (.ask rfl (.ask rfl (.ask ⟨rfl, rfl⟩ (.ask rfl (.here ..))))))
  have hok : ∀ f, listed ≠ .error f := by simp [listed]
  have hlisted : IsSane .channels listed := ⟨_, rfl, by simp [Value.member, Value.lookup?]⟩
  have hfailed : ∀ q, SaneTurn ⟨.store q, .error lockedStore⟩ := fun q => saneTurn_store (isSane_error_iff.mpr ⟨_, rfl⟩)
  have hsane : Sane turns := by
    simp only [turns, Sane, List.forall_mem_cons]
    exact ⟨trivial, trivial, saneTurn_store hlisted, trivial, trivial, trivial, trivial, trivial, trivial, hfailed _,
      hfailed _, hfailed _, trivial, trivial, hfailed _, List.forall_mem_nil _⟩
  obtain ⟨listed', rest, hturns, hstarted, -⟩ := (ready_iff_listed plain rfl rfl).2 turns _ _ hplays hsane
  obtain rfl : listed = listed' := by
    have hthird := (List.cons.inj (List.cons.inj (List.cons.inj hturns).2).2).1
    cases hthird
    rfl
  exact ⟨turns, _, hplays, hsane, hstarted.mpr hok⟩

/-- If the store cannot list the channels, the bot does not become ready, and no event stream is started. -/
theorem unlisted_channels_stop_start : joined.enabled.holds = true ∧ ∃ turns : List (Turn surroundings),
    Plays sharing joined (becomeReady plain).outcome turns joined (.done (.error lockedStore)) ∧ Sane turns ∧
      joined.ready = false ∧ ⟨.startStream, ()⟩ ∉ turns ∧
        ¬ Started (.error lockedStore) turns joined (.error lockedStore) := by
  let turns : List (Turn surroundings) :=
    [⟨.startOutbound, ()⟩, ⟨.memory id, joined⟩, ⟨.store .channels, .error lockedStore⟩]
  have hplays : Plays sharing joined (becomeReady plain).outcome turns joined (.done (.error lockedStore)) :=
    .ask rfl (.ask ⟨rfl, rfl⟩ (.ask rfl (.here ..)))
  have hsane : Sane turns := by
    simp only [turns, Sane, List.forall_mem_cons]
    exact ⟨trivial, trivial, saneTurn_store (isSane_error_iff.mpr ⟨_, rfl⟩), List.forall_mem_nil _⟩
  refine ⟨rfl, turns, hplays, hsane, rfl, by simp [turns], fun hstarted => ?_⟩
  cases hstarted.returns

end ChannelBot.Bot
