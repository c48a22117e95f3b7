/-
One bot at a time, on the current settings. A session is a sequence of settings that the service acted on
(`Session`). What it holds of its bot is true of the log: the bot is the only one that is live, and its
fingerprint is of the settings that it was made for (`Held`). One more call keeps that (`Held.call`), so
there is never a second bot, and a bot is replaced exactly when the settings no longer match
(`one_bot_at_a_time`).
-/
import ChannelBot.Proofs.Service.Fingerprint
import ChannelBot.Proofs.Service.Steps

namespace ChannelBot.Service

open Dialogue

/-- Settings that the service acted on: what it asked for, with the answers, and what came of it. -/
structure Call where
  settings : Except String Account
  turns : List (Turn surroundings)
  result : Except Fault Unit

/-- All turns of a session. -/
def log (calls : List Call) : List (Turn surroundings) := calls.flatMap Call.turns

/-- Calls of a service, one after the other, and the state that they lead to. Each bot that is made is
another one. -/
inductive Session : List Call → State → Prop
  | opened : Session [] {}
  | call {calls : List Call} {c : Call} {s s' : State} (h : Session calls s)
    (hdoes : Does (apply c.settings) s c.turns c.result s') (hpermitted : ∀ t ∈ c.turns, IsPermitted t)
    (hnew : ∀ bot, Made c.turns bot → ¬ Made (log calls) bot) : Session (calls ++ [c]) s'

/-- A bot was made and was not told to shut down. -/
def Live (turns : List (Turn surroundings)) (bot : BotId) : Prop := Made turns bot ∧ ¬ Shut turns bot

/-- A bot was made for an account, with what the account hands on. -/
def BuiltFrom (calls : List Call) (bot : BotId) (a : Account) : Prop :=
  ∃ c ∈ calls, c.settings = .ok a ∧
    ∃ mark, a.fingerprint = .ok mark ∧ ⟨.create (handed a mark), .ok bot⟩ ∈ c.turns

variable {calls : List Call} {c : Call} {s s' : State} {bot : BotId}
  {turns : List (Turn surroundings)} {bot? next? : Option (BotId × Account.Fingerprint)}

theorem log_snoc (calls : List Call) (c : Call) : log (calls ++ [c]) = log calls ++ c.turns := by
  simp [log]

theorem BuiltFrom.made {a : Account} (h : BuiltFrom calls bot a) : Made (log calls) bot := by
  obtain ⟨c, hc, -, mark, -, hmem⟩ := h
  exact ⟨_, List.mem_flatMap.mpr ⟨c, hc, hmem⟩⟩

theorem builtFrom_snoc {a : Account} :
    BuiltFrom (calls ++ [c]) bot a ↔ BuiltFrom calls bot a ∨ BuiltFrom [c] bot a := by
  simp only [BuiltFrom, List.mem_append, or_and_right, exists_or]

/-- A bot that the last call made was made for the settings of that call. -/
theorem builtFrom_last {a : Account} {mark : Account.Fingerprint} {before after : List (Turn surroundings)}
    (hsettings : c.settings = .ok a) (hmark : a.fingerprint = .ok mark)
    (hturns : c.turns = before ++ ⟨.create (handed a mark), .ok bot⟩ :: after) : BuiltFrom (calls ++ [c]) bot a := by
  refine ⟨c, by simp, hsettings, mark, hmark, ?_⟩
  rw [hturns]
  exact List.mem_append_right _ List.mem_cons_self

theorem finding_enabled {settings : Except String Account} {a : Account} (h : Finding.of settings = .enabled a) :
    settings = .ok a ∧ a.token.holds = true := by
  rcases settings with reason | b
  · cases h
  · rw [Finding.of] at h
    cases htoken : b.token.holds <;> cases henabled : b.enabled <;> simp_all

/-! ## What holds after every call -/

/-- What the service holds is true of the log: the bot that it has is the only one that is live, and is
made for settings of this fingerprint; and never were two live. -/
structure Held (calls : List Call) (bot? : Option (BotId × Account.Fingerprint)) : Prop where
  live : ∀ bot, Live (log calls) bot ↔ bot?.map Prod.fst = some bot
  known : ∀ bot, Shut (log calls) bot → Made (log calls) bot
  built : ∀ bot mark, bot? = some (bot, mark) → ∃ a, BuiltFrom calls bot a
  marked : ∀ bot mark a, bot? = some (bot, mark) → BuiltFrom calls bot a → a.fingerprint = .ok mark
  once : ∀ before, before <+: log calls → ∀ bot bot', Live before bot → Live before bot' → bot = bot'

theorem Held.opened : Held [] none where
  live := by simp [Live, Made, log]
  known := by simp [Shut, log]
  built := by simp
  marked := by simp
  once before hprefix := by
    obtain rfl := List.prefix_nil.mp hprefix
    simp [Live, Made]

/-- What began a longer log began its first part, or went on from there. -/
theorem prefix_append_cases {α : Type} {before xs ys : List α} (h : before <+: xs ++ ys) :
    before <+: xs ∨ ∃ p, before = xs ++ p ∧ p <+: ys := by
  obtain ⟨rest, hrest⟩ := h
  rcases List.append_eq_append_iff.mp hrest with ⟨between, hxs, -⟩ | ⟨p, hbefore, hys⟩
  · exact .inl ⟨between, hxs.symm⟩
  · exact .inr ⟨p, hbefore, rest, hys.symm⟩

theorem Made.mono {first : List (Turn surroundings)} (h : Made first bot) (hmem : first ⊆ turns) : Made turns bot := by
  obtain ⟨a, ha⟩ := h
  exact ⟨a, hmem ha⟩

namespace Held

/-- At most one bot is live while the service acts: it makes none, or it makes one and has shut down the
one that there was. -/
theorem once_append (h : Held calls bot?) {p : List (Turn surroundings)}
    (hp : (∀ bot, ¬ Made p bot) ∨
      ∃ new, (∀ bot, Made p bot → bot = new) ∧ ∀ bot, bot?.map Prod.fst = some bot → Shut p bot)
    {bot bot' : BotId} (hbot : Live (log calls ++ p) bot) (hbot' : Live (log calls ++ p) bot') : bot = bot' := by
  have hold : ∀ {bot}, Live (log calls ++ p) bot → ¬ Made p bot → bot?.map Prod.fst = some bot := by
    intro bot hlive hnot
    obtain ⟨hmade, hshut⟩ := hlive
    rw [made_append, or_iff_left hnot] at hmade
    exact (h.live bot).mp ⟨hmade, fun hgone => hshut (shut_append.mpr (.inl hgone))⟩
  rcases hp with hnone | ⟨new, hnew, hgone⟩
  · exact Option.some.inj ((hold hbot (hnone _)).symm.trans (hold hbot' (hnone _)))
  · have hisNew : ∀ {bot}, Live (log calls ++ p) bot → bot = new := by
      intro bot hlive
      by_contra hne
      have hcurrent := hold hlive fun hmade => hne (hnew bot hmade)
      exact hlive.2 (shut_append.mpr (.inr (hgone bot hcurrent)))
    rw [hisNew hbot, hisNew hbot']

/-- After a call that makes no bot, the bot that there was is still there, or was shut down. -/
theorem unmade (h : Held calls bot?) {shut? : Option BotId} (hmade : ∀ bot, ¬ Made c.turns bot)
    (hshut : ∀ bot, Shut c.turns bot ↔ shut? = some bot)
    (hknown : ∀ bot, shut? = some bot → bot?.map Prod.fst = some bot)
    (hnext : ∀ bot, next?.map Prod.fst = some bot ↔ bot?.map Prod.fst = some bot ∧ shut? ≠ some bot)
    (hsame : ∀ x, next? = some x → bot? = some x) : Held (calls ++ [c]) next? where
  live bot := by
    rw [log_snoc, Live, made_append, shut_append, or_iff_left (hmade bot), hshut, hnext, ← h.live, Live]
    tauto
  known bot hgone := by
    rw [log_snoc, shut_append, hshut] at hgone
    rw [log_snoc]
    refine made_append.mpr (.inl ?_)
    rcases hgone with hgone | hgone
    · exact h.known bot hgone
    · exact ((h.live bot).mpr (hknown bot hgone)).1
  built bot mark hbot := by
    obtain ⟨a, ha⟩ := h.built bot mark (hsame _ hbot)
    exact ⟨a, builtFrom_snoc.mpr (.inl ha)⟩
  marked bot mark a hbot hbuilt := by
    rcases builtFrom_snoc.mp hbuilt with hbuilt | hbuilt
    · exact h.marked bot mark a (hsame _ hbot) hbuilt
    · have hmade' := hbuilt.made
      rw [log, List.flatMap_singleton] at hmade'
      exact absurd hmade' (hmade bot)
  once before hprefix bot bot' hbot hbot' := by
    rw [log_snoc] at hprefix
    rcases prefix_append_cases hprefix with hprefix | ⟨p, rfl, hp⟩
    · exact h.once before hprefix bot bot' hbot hbot'
    · exact h.once_append (.inl fun bot hmade' => hmade bot (hmade'.mono hp.subset)) hbot hbot'

/-- After a call that makes a bot, this one is live and no other. -/
theorem created (h : Held calls bot?) {a : Account} {mark : Account.Fingerprint} {new : BotId}
    {before after : List (Turn surroundings)} (hsettings : c.settings = .ok a) (hmark : a.fingerprint = .ok mark)
    (hturns : c.turns = before ++ ⟨.create (handed a mark), .ok new⟩ :: after)
    (hbefore : Stops (bot?.map Prod.fst) before) (hafter : Stops none after)
    (hnew : ¬ Made (log calls) new) : Held (calls ++ [c]) (some (new, mark)) := by
  have hmade : ∀ bot, Made c.turns bot ↔ bot = new := by
    intro bot
    rw [hturns, made_append, made_cons, or_iff_right (hbefore.not_made bot), or_iff_left (hafter.not_made bot)]
    simp [eq_comm]
  have hshut : ∀ bot, Shut c.turns bot ↔ bot?.map Prod.fst = some bot := by
    intro bot
    rw [hturns, shut_append, shut_cons, hbefore.shut, hafter.shut]
    simp
  refine ⟨fun bot => ?_, fun bot hgone => ?_, fun bot mark' hbot => ?_, fun bot mark' b hbot hbuilt => ?_,
    fun p hprefix bot bot' hbot hbot' => ?_⟩
  · rw [log_snoc, Live, made_append, shut_append, hmade, hshut, ← h.live, Live, Option.map_some, Option.some_inj]
    constructor
    · rintro ⟨hold | rfl, hkept⟩
      · by_cases hgone : Shut (log calls) bot
        · exact absurd (.inl hgone) hkept
        · exact absurd (.inr ⟨hold, hgone⟩) hkept
      · rfl
    · rintro rfl
      refine ⟨.inr rfl, ?_⟩
      rintro (hgone | ⟨hold, -⟩)
      · exact hnew (h.known new hgone)
      · exact hnew hold
  · rw [log_snoc, shut_append, hshut, ← h.live] at hgone
    rw [log_snoc]
    exact made_append.mpr (.inl (hgone.elim (h.known bot) And.left))
  · cases hbot
    exact ⟨a, builtFrom_last hsettings hmark hturns⟩
  · cases hbot
    rcases builtFrom_snoc.mp hbuilt with hold | ⟨c', hc', hsettings', -⟩
    · exact absurd hold.made hnew
    · rw [List.mem_singleton.mp hc', hsettings] at hsettings'
      cases hsettings'
      exact hmark
  · rw [log_snoc] at hprefix
    rcases prefix_append_cases hprefix with hprefix | ⟨p, rfl, hp⟩
    · exact h.once p hprefix bot bot' hbot hbot'
    · refine h.once_append ?_ hbot hbot'
      rw [hturns] at hp
      rcases prefix_append_cases hp with hp | ⟨q, rfl, -⟩
      · exact .inl fun bot hmade' => hbefore.not_made bot (hmade'.mono hp.subset)
      · refine .inr ⟨new, fun bot hmade' => (hmade bot).mp (hmade'.mono ?_), fun bot hcurrent => ?_⟩
        · rw [hturns]
          exact hp.subset
        · exact shut_append.mpr (.inl ((hbefore.shut bot).mpr hcurrent))

/-- One more call keeps what holds. -/
theorem call (h : Held calls bot?) (hcourse : Course c.settings bot? c.turns c.result next?)
    (hnew : ∀ bot, Made c.turns bot → ¬ Made (log calls) bot) : Held (calls ++ [c]) next? := by
  generalize hsettings : c.settings = settings at hcourse
  generalize hturns : c.turns = turns at hcourse
  generalize c.result = result at hcourse
  cases hcourse with
  | stopped hfinding hstops =>
    rw [← hturns] at hstops
    exact h.unmade hstops.not_made hstops.shut (fun _ => id) (by simp) (by simp)
  | unmarked hfinding hmark hstops | kept _ hfinding hmark hcurrent hfits hstops =>
    rw [← hturns] at hstops
    exact h.unmade hstops.not_made hstops.shut (by simp) (by simp) fun _ => id
  | @replaced before after a mark answer hfinding hmark hcurrent hbefore hafter =>
    cases answer with
    | ok new =>
      have hmade : Made c.turns new := by
        rw [hturns]
        exact ⟨_, List.mem_append_right _ List.mem_cons_self⟩
      exact h.created (hsettings.trans (finding_enabled hfinding).1) hmark hturns hbefore hafter (hnew new hmade)
    | error f =>
      have hmade : ∀ bot, ¬ Made c.turns bot := by
        intro bot
        rw [hturns, made_append, made_cons]
        simp [hbefore.not_made, hafter.not_made]
      have hshut : ∀ bot, Shut c.turns bot ↔ bot?.map Prod.fst = some bot := by
        intro bot
        rw [hturns, shut_append, shut_cons, hbefore.shut, hafter.shut]
        simp
      show Held (calls ++ [c]) none
      exact h.unmade hmade hshut (fun _ => id) (by simp) (by simp)

end Held

/-- What holds after every session. -/
theorem Session.held (h : Session calls s) : Held calls s.bot := by
  induction h with
  | opened => exact .opened
  | call _ hdoes hpermitted hnew ih => exact ih.call (course_apply hdoes hpermitted) hnew

/-! ## The last call of a session -/

/-- The last call of a session began with what held before it. -/
theorem Session.last (h : Session (calls ++ [c]) s') :
    ∃ s : State, Held calls s.bot ∧ Course c.settings s.bot c.turns c.result s'.bot := by
  generalize hall : calls ++ [c] = all at h
  cases h with
  | opened => simp at hall
  | call h hdoes hpermitted hnew =>
    obtain ⟨rfl, hlast⟩ := List.append_inj' hall rfl
    cases hlast
    exact ⟨_, h.held, course_apply hdoes hpermitted⟩

/-- Without a bot, none is live. -/
theorem Held.not_live (h : Held calls none) (bot : BotId) : ¬ Live (log calls) bot :=
  fun hlive => nomatch (h.live bot).mp hlive

variable {a : Account} {settings : Except String Account} {result : Except Fault Unit}

/-- Without an enabled account there is no bot. -/
theorem Course.eq_none (h : Course settings bot? turns result next?) (hfinding : ∀ a, Finding.of settings ≠ .enabled a) :
    next? = none := by
  cases h with
  | stopped => rfl
  | unmarked h | kept _ h | replaced _ h => exact absurd h (hfinding _)

/-- If the call succeeds, the bot was made for its settings, or for ones that match them. -/
theorem Held.on_settings (h : Held (calls ++ [c]) next?) (hcourse : Course c.settings bot? c.turns c.result next?)
    (hfinding : Finding.of c.settings = .enabled a) (hresult : c.result = .ok ()) :
    ∃ bot b, next?.map Prod.fst = some bot ∧ BuiltFrom (calls ++ [c]) bot b ∧ (b = a ∨ b.Matches a) := by
  generalize hturns : c.turns = turns at hcourse
  rw [hresult] at hcourse
  generalize hok : Except.ok () = result at hcourse
  cases hcourse with
  | stopped hnot => exact absurd hfinding (hnot a)
  | unmarked => cases hok
  | @kept _ a' bot mark current _ hfinding' hmark hcurrent hfits =>
    cases hfinding.symm.trans hfinding'
    obtain ⟨b, hbuilt⟩ := h.built bot current hcurrent
    refine ⟨bot, b, by rw [hcurrent]; rfl, hbuilt, .inr ?_⟩
    exact Account.matches_of_fits (h.marked bot current b hcurrent hbuilt) hmark hfits
  | @replaced before after a' mark answer hfinding' hmark =>
    cases hfinding.symm.trans hfinding'
    cases answer with
    | error f => cases hok
    | ok new => exact ⟨new, a, rfl, builtFrom_last (finding_enabled hfinding).1 hmark hturns, .inl rfl⟩

/-- A bot is asked for exactly if there is none, or it is on settings that do not match. -/
theorem Course.asks_iff (h : Course settings bot? turns result next?) (hfinding : Finding.of settings = .enabled a)
    (hheld : Held calls bot?) (htyped : a.IsTyped) :
    (∃ given answer, ⟨.create given, answer⟩ ∈ turns) ↔
      (∀ bot, ¬ Live (log calls) bot) ∨
        ∃ bot b, Live (log calls) bot ∧ BuiltFrom calls bot b ∧ ¬ b.Matches a := by
  cases h with
  | stopped hnot => exact absurd hfinding (hnot a)
  | unmarked hfinding' hmark =>
    obtain ⟨mark, hmark'⟩ := htyped.exists_fingerprint (finding_enabled hfinding).2
    cases hfinding.symm.trans hfinding'
    cases hmark.symm.trans hmark'
  | @kept _ a' bot mark current r hfinding' hmark hcurrent hfits hstops =>
    cases hfinding.symm.trans hfinding'
    have hlive : ∀ other, Live (log calls) other ↔ bot = other := by
      intro other
      rw [hheld.live, hcurrent, Option.map_some, Option.some_inj]
    constructor
    · rintro ⟨given, answer, hmem⟩
      exact absurd hmem (hstops.asks given answer)
    · rintro (hnone | ⟨other, b, hother, hbuilt, hno⟩)
      · exact absurd ((hlive bot).mpr rfl) (hnone bot)
      · cases (hlive other).mp hother
        exact absurd (Account.matches_of_fits (hheld.marked bot current b hcurrent hbuilt) hmark hfits) hno
  | @replaced before after a' mark answer hfinding' hmark hcurrent hbefore hafter =>
    cases hfinding.symm.trans hfinding'
    refine ⟨fun _ => ?_, fun _ => ⟨_, answer, List.mem_append_right _ List.mem_cons_self⟩⟩
    cases bot? with
    | none => exact .inl hheld.not_live
    | some known =>
      obtain ⟨bot, current⟩ := known
      obtain ⟨b, hbuilt⟩ := hheld.built bot current rfl
      refine .inr ⟨bot, b, (hheld.live bot).mpr rfl, hbuilt, fun hmatches => ?_⟩
      have hfits := Account.fits_of_matches (hheld.marked bot current b rfl hbuilt) hmark htyped.keys hmatches
      rw [hcurrent bot current rfl] at hfits
      cases hfits

/-- **One bot at a time, on the current settings.** After every call of a session, each bot that was made
and is not the current one was told to shut down, and at no moment are two bots live. Without an enabled
account no bot is live. With one, if the call succeeds, one bot is live, and it was made for the settings
of the call or for settings that match them; and a bot is asked for exactly if none is live, or the
settings of the live one do not match. -/
theorem one_bot_at_a_time (h : Session (calls ++ [c]) s) :
    (∀ bot, Made (log (calls ++ [c])) bot → s.bot.map Prod.fst ≠ some bot → Shut (log (calls ++ [c])) bot) ∧
    (∀ before, before <+: log (calls ++ [c]) → ∀ bot bot', Live before bot → Live before bot' → bot = bot') ∧
    match Finding.of c.settings with
    | .missing _ | .disabled => ∀ bot, ¬ Live (log (calls ++ [c])) bot
    | .enabled a =>
      (c.result = .ok () → ∃ bot b, (∀ other, Live (log (calls ++ [c])) other ↔ other = bot) ∧
        BuiltFrom (calls ++ [c]) bot b ∧ (b = a ∨ b.Matches a)) ∧
      (a.IsTyped → ((∃ given answer, ⟨.create given, answer⟩ ∈ c.turns) ↔
        (∀ bot, ¬ Live (log calls) bot) ∨
          ∃ bot b, Live (log calls) bot ∧ BuiltFrom calls bot b ∧ ¬ b.Matches a)) := by
  have hheld := h.held
  obtain ⟨s₀, hbefore, hcourse⟩ := h.last
  refine ⟨fun bot hmade hother => ?_, hheld.once, ?_⟩
  · by_contra hkept
    exact hother ((hheld.live bot).mp ⟨hmade, hkept⟩)
  · have hnone : (∀ a, Finding.of c.settings ≠ .enabled a) → ∀ bot, ¬ Live (log (calls ++ [c])) bot := by
      intro hfinding
      rw [hcourse.eq_none hfinding] at hheld
      exact hheld.not_live
    cases hfinding : Finding.of c.settings with
    | missing reason => exact hnone fun a ha => by rw [hfinding] at ha; cases ha
    | disabled => exact hnone fun a ha => by rw [hfinding] at ha; cases ha
    | enabled a =>
      refine ⟨fun hresult => ?_, hcourse.asks_iff hfinding hbefore⟩
      obtain ⟨bot, b, hbot, hbuilt, hmatches⟩ := hheld.on_settings hcourse hfinding hresult
      refine ⟨bot, b, fun other => ?_, hbuilt, hmatches⟩
      rw [hheld.live, hbot, Option.some_inj, eq_comm]

/-! ## A session -/

/-- The console takes news. -/
def told (n : News) : Turn surroundings := ⟨.store n.notice.query, (.ok .null : Except Fault Value)⟩

/-- Settings with a token, scopes and a super user. -/
def settingsOf (token : String) (scopes : List String) (superUser : String) : Account where
  token := .str token
  refreshToken := .str "refresh"
  login := .str "bot"
  clientId := .str "id"
  clientSecret := .str "secret"
  botUserId := "1"
  scopes := scopes
  enabled := true
  superUser := .str superUser
  integrations := [("translate_url", "http://t")]

/-- A bot is made. -/
def madeCall : Call :=
  let a := settingsOf "oauth:one" ["chat", "bits"] "Owner"
  ⟨.ok a, [told .resolved, told .enabled, told (.connecting a.login),
    ⟨.create { a with token := .str "one" }, .ok 7⟩, ⟨.start 7, ()⟩], .ok ()⟩

/-- It is kept on settings that match. -/
def keptCall : Call := ⟨.ok (settingsOf "one" ["bits", "chat"] "OWNER"), [⟨.updateEnabled 7 true, .ok ()⟩], .ok ()⟩

/-- It is replaced on another token, though it fails to shut down. -/
def replacedCall : Call :=
  let a := settingsOf "two" ["bits", "chat"] "OWNER"
  let refused : Fault := .transport (.refused "gone")
  ⟨.ok a, [⟨.shutDown 7, .error refused⟩, told (.stopFailed refused), ⟨.awaitEnd 7, ()⟩, told (.stopped .replaced),
    told (.connecting a.login), ⟨.create a, .ok 8⟩, ⟨.start 8, ()⟩], .ok ()⟩

theorem permitted_told (n : News) : IsPermitted (told n) := fun _ hf => nomatch hf

theorem settings_match :
    (settingsOf "oauth:one" ["chat", "bits"] "Owner").Matches (settingsOf "one" ["bits", "chat"] "OWNER") where
  token := ⟨_, _, rfl, rfl, by decide⟩
  refreshToken := by decide
  login := by decide
  clientId := by decide
  clientSecret := by decide
  botUserId := rfl
  scopes := by decide
  superUser := ⟨_, _, rfl, rfl, by decide⟩
  integrations := .refl _

/-- The first two of the calls lead to a bot on the first settings. -/
theorem session_kept : ∃ mark, (settingsOf "oauth:one" ["chat", "bits"] "Owner").fingerprint = .ok mark ∧
    Session [madeCall, keptCall] ⟨some (7, mark), some true, some true⟩ := by
  have hmade : Session [madeCall] _ :=
    .call .opened (.ask _ (.ask _ (.ask _ (.ask _ (.ask _ (.done _)))))) (by
      simp only [madeCall, List.forall_mem_cons]
      exact ⟨permitted_told _, permitted_told _, permitted_told _, trivial, trivial, by simp⟩) (by simp [Made, log])
  have hfits := Account.fits_of_matches rfl rfl (by decide) settings_match
  have hkept : Session ([madeCall] ++ [keptCall]) _ :=
    .call hmade (does_bind.mpr (.inl ⟨[], _, (), _, rfl, (does_announce_told rfl).mpr ⟨rfl, rfl, rfl⟩,
      does_bind.mpr (.inl ⟨[], _, (), _, rfl, (does_announce_told rfl).mpr ⟨rfl, rfl, rfl⟩,
        does_kept rfl rfl hfits (.ok ())⟩)⟩)) (by
      simp only [keptCall, List.forall_mem_cons]
      exact ⟨trivial, by simp⟩) fun bot hnew => absurd (made_iff.mp hnew) (List.not_mem_nil : bot ∉ [])
  exact ⟨_, rfl, hkept⟩

/-- The last of the calls replaces the bot. -/
theorem one_bot_at_a_time_replaced :
    let a := settingsOf "two" ["bits", "chat"] "OWNER"
    let calls := [madeCall, keptCall] ++ [replacedCall]
    (∃ s, Session calls s) ∧ Shut (log calls) 7 ∧
      (∃ bot b, (∀ other, Live (log calls) other ↔ other = bot) ∧ BuiltFrom calls bot b ∧ (b = a ∨ b.Matches a)) ∧
      ∃ bot b, Live (log [madeCall, keptCall]) bot ∧ BuiltFrom [madeCall, keptCall] bot b ∧ ¬ b.Matches a := by
  intro a calls
  obtain ⟨mark, hmark, hkept⟩ := session_kept
  obtain ⟨_, _, ⟨⟩, ⟨⟩, rfl⟩ := Account.fingerprint_eq_ok hmark
  have hnew : ∀ bot, Made replacedCall.turns bot → ¬ Made (log [madeCall, keptCall]) bot := by
    intro bot hnew hold
    have hlast : replacedCall.turns.filterMap made? = [8] := rfl
    have hfirst : (log [madeCall, keptCall]).filterMap made? = [7] := rfl
    rw [made_iff, hlast, List.mem_singleton] at hnew
    rw [made_iff, hfirst, List.mem_singleton, hnew] at hold
    cases hold
  have hreplaced : Session calls _ :=
    .call hkept (.ask _ (.ask _ (.ask _ (.ask _ (.ask _ (.ask _ (.ask _ (.done _)))))))) (by
      simp only [replacedCall, List.forall_mem_cons]
      refine ⟨fun f hf => ?_, permitted_told _, trivial, permitted_told _, permitted_told _, trivial, trivial, by simp⟩
      cases hf
      rfl) hnew
  have hmade : Made (log calls) 7 :=
    ⟨_, List.mem_flatMap.mpr ⟨madeCall, .head _, .tail _ (.tail _ (.tail _ (.head _)))⟩⟩
  obtain ⟨hgone, -, hon, hasks⟩ := one_bot_at_a_time hreplaced
  refine ⟨⟨_, hreplaced⟩, hgone 7 hmade (by decide), hon rfl, ?_⟩
  have htyped : a.IsTyped := ⟨.inr ⟨_, rfl⟩, .inr ⟨_, rfl⟩, by decide⟩
  rcases (hasks htyped).mp ⟨_, _, .tail _ (.tail _ (.tail _ (.tail _ (.tail _ (.head _)))))⟩ with hnone | hchanged
  · have hsecond : Session ([madeCall] ++ [keptCall]) _ := hkept
    obtain ⟨-, -, honSecond, -⟩ := one_bot_at_a_time hsecond
    obtain ⟨bot, -, hlive, -⟩ := honSecond rfl
    exact absurd ((hlive bot).mpr rfl) (hnone bot)
  · exact hchanged

end ChannelBot.Service
