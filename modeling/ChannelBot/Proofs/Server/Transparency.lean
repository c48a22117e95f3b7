/-
What was read of the settings before makes no difference. Backends that hold the same and whose settings
show a reader the same agree; then whatever reads or writes the settings makes them equal
(`Agrees.warm_eq`). A request is answered the same by two backends that agree, asks others for the same,
and leaves them agreeing (`handle_agrees`).
-/
import ChannelBot.Proofs.Authorization.Callback

namespace ChannelBot.Server

namespace Settings

/-- Settings with the same rows that show a reader the same. -/
structure Agrees (s s' : Settings) : Prop where
  rows : s'.rows = s.rows
  current : s'.current = s.current

variable {s s' : Settings}

theorem Agrees.refl (s : Settings) : s.Agrees s := ⟨rfl, rfl⟩

theorem Agrees.warm_eq (h : s.Agrees s') : s'.warm = s.warm := by
  rw [warm, warm, h.current, h.rows]

theorem Agrees.set_eq (h : s.Agrees s') (updates : SettingRows) : s'.set updates = s.set updates := by
  rw [set, set, h.rows]

theorem Agrees.value?_eq (h : s.Agrees s') : s'.value? = s.value? := by
  funext key
  rw [value?, value?, h.current]

theorem Agrees.pieces_eq (h : s.Agrees s') : s'.pieces = s.pieces := by
  funext key
  rw [pieces, pieces, h.value?_eq]

end Settings

namespace Backend

/-- Backends that hold the same, but for what they remember of their settings. -/
structure Agrees (b b' : Backend) : Prop where
  tables : b'.tables = b.tables
  settings : b.settings.Agrees b'.settings
  bot : b'.bot = b.bot
  log : b'.log = b.log
  pending : b'.pending = b.pending
  issued : b'.issued = b.issued

/-- Two runs give the same and leave backends that agree. -/
structure Tally {α : Type} (x y : Backend × α) : Prop where
  ends : x.1.Agrees y.1
  answer : y.2 = x.2

variable {b b' : Backend} {α β : Type} {x y : Backend × α}

theorem Agrees.refl (b : Backend) : b.Agrees b := ⟨rfl, .refl _, rfl, rfl, rfl, rfl⟩

theorem Tally.of_eq (h : y = x) : Tally x y := by
  subst h
  exact ⟨.refl _, rfl⟩

theorem Tally.map (h : Tally x y) (answer : α → β) : Tally (x.1, answer x.2) (y.1, answer y.2) :=
  ⟨h.ends, congrArg answer h.answer⟩

theorem Agrees.setting?_eq (h : b.Agrees b') : b'.setting? = b.setting? := by
  funext key
  rw [setting?, setting?, h.settings.value?_eq]

/-- Once the settings are read, nothing is left that could differ. -/
theorem Agrees.warm_eq (h : b.Agrees b') : b'.warm = b.warm := by
  rw [warm, warm, h.settings.warm_eq, h.tables, h.bot, h.log, h.pending, h.issued]

theorem Agrees.onTables (h : b.Agrees b') (act : Tables → Tables × Response) :
    Tally (b.onTables act) (b'.onTables act) := by
  rw [Backend.onTables, Backend.onTables, h.tables]
  exact ⟨⟨rfl, h.settings, h.bot, h.log, h.pending, h.issued⟩, rfl⟩

/-! ## The bot's configuration -/

/-- What is shown of an account depends on what a reader sees of the settings. -/
theorem profileValue_congr (h : b'.setting? = b.setting?) (p : BotProfile) : b'.profileValue p = b.profileValue p := by
  rw [profileValue, profileValue, h]

theorem Agrees.profileValue_eq (h : b.Agrees b') (p : BotProfile) : b'.profileValue p = b.profileValue p :=
  profileValue_congr h.setting?_eq p

theorem Agrees.withBot (h : b.Agrees b') (bot : Option BotProfile) :
    Agrees { b with bot := bot } { b' with bot := bot } :=
  ⟨h.tables, h.settings, rfl, h.log, h.pending, h.issued⟩

theorem Agrees.withProfile (h : b.Agrees b') : Tally b.withProfile b'.withProfile := by
  rw [Backend.withProfile, Backend.withProfile, h.bot]
  cases b.bot with
  | some p => exact ⟨h, rfl⟩
  | none =>
    refine .of_eq ?_
    dsimp only
    rw [h.warm_eq, h.settings.pieces_eq]

theorem Agrees.putSetting (h : b.Agrees b') (key value : String) :
    (b.putSetting key value).Agrees (b'.putSetting key value) := by
  rw [Backend.putSetting, Backend.putSetting, h.settings.set_eq]
  exact ⟨h.tables, .refl _, h.bot, h.log, h.pending, h.issued⟩

theorem Agrees.showProfile_eq (h : b.Agrees b') : b'.showProfile = b.showProfile := by
  obtain ⟨hends, hp⟩ := h.withProfile
  rw [showProfile, showProfile]
  dsimp only
  rw [hp, hends.warm_eq, hends.profileValue_eq]

theorem Agrees.changeProfile_eq (h : b.Agrees b') (c : BotChange) : b'.changeProfile c = b.changeProfile c := by
  obtain ⟨hends, hp⟩ := h.withProfile
  rw [changeProfile, changeProfile]
  dsimp only
  rw [hp]
  cases c.botUserId with
  | none =>
    have hbot := hends.withBot
    dsimp only
    rw [(hbot _).warm_eq, (hbot _).profileValue_eq]
  | some id =>
    have hbot := (hends.putSetting "bot_user_id" id).withBot
    dsimp only
    rw [(hbot _).warm_eq, (hbot _).profileValue_eq]

theorem Agrees.changeTokens_eq (h : b.Agrees b') (c : BotTokens) : b'.changeTokens c = b.changeTokens c := by
  obtain ⟨hends, hp⟩ := h.withProfile
  have hbot := hends.withBot
  rw [changeTokens, changeTokens]
  dsimp only
  rw [hp, (hbot _).warm_eq, (hbot _).profileValue_eq]

theorem Agrees.pushLog (h : b.Agrees b') (now : Moment) (e : LogEntry) : Tally (b.pushLog now e) (b'.pushLog now e) := by
  rw [Backend.pushLog, Backend.pushLog, h.log]
  exact ⟨⟨h.tables, h.settings, h.bot, rfl, h.pending, h.issued⟩, rfl⟩

end Backend

/-! ## Starts and callbacks -/

namespace Authorization

variable {b b' : Backend}

theorem startBot_agrees (h : b.Agrees b') (now : Moment) (origin : String) :
    startBot b' now origin = startBot b now origin := by
  rw [startBot, startBot, h.warm_eq]

theorem startMusic_agrees (h : b.Agrees b') (now : Moment) (origin channel : String) :
    Backend.Tally (startMusic b now origin channel) (startMusic b' now origin channel) := by
  rw [startMusic, startMusic, h.tables]
  cases b.tables.channel channel with
  | absent | ambiguous => exact ⟨h, rfl⟩
  | found c =>
    refine .of_eq ?_
    dsimp only
    rw [h.warm_eq]

theorem redeem_agrees (h : b.Agrees b') (state : String) : Backend.Tally (redeem b state) (redeem b' state) := by
  rw [redeem, redeem, h.pending]
  exact ⟨⟨h.tables, h.settings, h.bot, h.log, rfl, h.issued⟩, rfl⟩

theorem comeBack_agrees (h : b.Agrees b') (now : Moment) (origin : String) (answers : List HttpOutcome)
    (code state : String) (f : Flow) :
    Backend.Tally (comeBack b now origin answers code state f) (comeBack b' now origin answers code state f) := by
  cases f with
  | bot =>
    refine .of_eq ?_
    rw [comeBack, comeBack, botCallback, botCallback, h.warm_eq]
  | music =>
    obtain ⟨htaken, hpurpose⟩ := redeem_agrees h state
    rw [comeBack, comeBack, musicCallback_eq, musicCallback_eq, hpurpose, h.tables]
    dsimp only
    split
    next name _ =>
      split
      next => exact ⟨htaken, rfl⟩
      next => exact ⟨htaken, rfl⟩
      next c _ =>
        rw [htaken.warm_eq]
        exact .of_eq rfl
    next => exact ⟨htaken, rfl⟩

end Authorization

/-! ## All requests -/

namespace Backend

variable {b b' : Backend}

theorem Tally.replying {x y : Backend × Response} (h : Tally x y) : Tally (Backend.replying x) (Backend.replying y) :=
  h.map fun response => (⟨response, []⟩ : Reply)

theorem Agrees.checked (h : b.Agrees b') {α : Type} {c : Checked α} {use use' : α → Backend × Reply}
    (huse : ∀ a, Tally (use a) (use' a)) : Tally (b.checked c use) (b'.checked c use') := by
  cases c with
  | valid a => exact huse a
  | invalid vs => exact ⟨h, rfl⟩

/-- A request at an endpoint is served the same. -/
theorem Agrees.serve (h : b.Agrees b') (now : Moment) (answers : List HttpOutcome) (r : Request) (content : Content)
    (e : Endpoint) : Tally (b.serve now answers r content e) (b'.serve now answers r content e) := by
  have htables : ∀ act, Tally (Backend.replying (b.onTables act)) (Backend.replying (b'.onTables act)) :=
    fun act => (h.onTables act).replying
  have hcallback : ∀ f : Flow, Tally (b.serve now answers r content f.callback) (b'.serve now answers r content f.callback) := by
    intro f
    rw [Authorization.serve_callback, Authorization.serve_callback]
    rcases r.callback_cases with ⟨-, response, -, hspot⟩ | ⟨code, state, -, hgoes⟩
    · rw [hspot, hspot]
      exact ⟨h, rfl⟩
    · rw [hgoes, hgoes]
      exact Authorization.comeBack_agrees h now r.origin answers code state f
  cases e with
  | front | health => exact ⟨h, rfl⟩
  | commandsPage | listChannels | listRefreshTokens =>
    rw [Backend.serve, Backend.serve, h.tables]
    exact ⟨h, rfl⟩
  | showProfile =>
    rw [Backend.serve, Backend.serve, h.showProfile_eq]
    exact .of_eq rfl
  | changeProfile => exact h.checked fun p => .of_eq (by rw [h.changeProfile_eq])
  | changeTokens => exact h.checked fun p => .of_eq (by rw [h.changeTokens_eq])
  | pushLog => exact h.checked fun p => (h.pushLog now p).replying
  | showLog =>
    rw [Backend.serve, Backend.serve]
    refine h.checked fun n => ⟨h, ?_⟩
    rw [showLog, showLog, h.log]
  | streamLog =>
    rw [Backend.serve, Backend.serve, h.log]
    exact ⟨⟨h.tables, h.settings, h.bot, rfl, h.pending, h.issued⟩, rfl⟩
  | addChannel | changeSigil | addCommand | addRedeem | changeTarget | changeCredential =>
    exact h.checked fun p => htables _
  | startBot => exact .of_eq (by rw [Backend.serve, Backend.serve, Authorization.startBot_agrees h])
  | startMusic c => exact (Authorization.startMusic_agrees h now r.origin c).replying
  | botCallback => exact hcallback .bot
  | musicCallback => exact hcallback .music
  | _ => exact htables _

/-- Nobody can tell what was read before. -/
theorem handle_agrees (h : b.Agrees b') (now : Moment) (answers : List HttpOutcome) (r : Request) :
    Tally (b.handle now answers r) (b'.handle now answers r) := by
  rcases r.dispatch now answers with ⟨response, hspot⟩ | ⟨e, -, -, hserved⟩
  · rw [hspot, hspot]
    exact ⟨h, rfl⟩
  · rw [hserved, hserved]
    exact h.serve now answers r _ e

end Backend

end ChannelBot.Server
