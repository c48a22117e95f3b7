/-
All that the backend holds, and its requests about the bot's configuration and the log.
-/
import ChannelBot.Server.Channels
import ChannelBot.Server.LogBook
import ChannelBot.Server.Normal
import ChannelBot.Server.Settings

namespace ChannelBot.Server

/-- The bot's account, as far as it is known. Scopes are kept in one text. -/
structure BotProfile where
  login : Option String := none
  displayName : Option String := none
  scopes : Option String := none
  access : Option String := none
  refresh : Option String := none
  expiresAt : Option Moment := none
  enabled : Bool := false
  deriving Repr, DecidableEq

/-- What an authorization that was begun is for. -/
inductive Purpose where
  | bot
  | music (channel : String)
  deriving Repr, DecidableEq

/-- An authorization that was begun: its state text, its purpose, and when it began. -/
structure PendingState where
  state : String
  purpose : Purpose
  created : Moment
  deriving Repr, DecidableEq

/-- All that the backend holds. -/
structure Backend where
  tables : Tables := {}
  settings : Settings := {}
  bot : Option BotProfile := none
  log : LogBook := {}
  pending : List PendingState := []
  /-- How many state texts were given out. -/
  issued : Nat := 0
  deriving Repr

namespace Backend

/-- Lets a request about the tables act on them. -/
def onTables (b : Backend) (act : Tables → Tables × Response) : Backend × Response :=
  let (t, r) := act b.tables
  ({ b with tables := t }, r)

/-- The value of a setting. -/
def setting? (b : Backend) (key : String) : Option String := b.settings.value? key

/-- The backend after a reading of its settings. -/
def warm (b : Backend) : Backend := { b with settings := b.settings.warm }

/-- Scopes as the one text that is kept. -/
def scopesText? (scopes : List String) : Option String :=
  let text := Text.unwords scopes
  if text.isEmpty then none else some text

/-- The bot's account, created on first use with the scopes from the settings. -/
def withProfile (b : Backend) : Backend × BotProfile :=
  match b.bot with
  | some p => (b, p)
  | none =>
    let p : BotProfile := { scopes := scopesText? (b.settings.pieces "bot_app_scopes") }
    ({ b.warm with bot := some p }, p)

/-- The settings that the worker gets along with the account. -/
def sharedSettings : List String :=
  ["super_user", "openweathermap_api_key", "translate_url", "spotify_client_id",
    "spotify_client_secret"]

/-- Whether there is a text that is not empty. -/
def isGiven : Option String → Bool
  | some s => !s.isEmpty
  | none => false

/-- The answer that shows the bot's configuration; what is not there is left out. -/
def profileValue (b : Backend) (p : BotProfile) : Value :=
  let given := fun (key : String) (value : Option String) => match value with
    | some s => [(key, Value.str s)]
    | none => []
  .obj (given "login" p.login ++ given "display_name" p.displayName ++
    [("scopes", .list ((Text.words (p.scopes.getD "")).map .str)),
     ("enabled", .bool p.enabled)] ++
    given "expires_at" (p.expiresAt.map Moment.text) ++
    [("token_present", .bool (isGiven p.access && isGiven p.refresh))] ++
    given "access_token" p.access ++ given "refresh_token" p.refresh ++
    given "client_id" (b.setting? "twitch_client_id") ++
    given "client_secret" (b.setting? "twitch_client_secret") ++
    given "bot_user_id" (b.setting? "bot_user_id") ++
    sharedSettings.flatMap fun key => given key (b.setting? key))

/-- Shows the bot's configuration. -/
def showProfile (b : Backend) : Backend × Response :=
  let (b, p) := b.withProfile
  (b.warm, .ok (b.profileValue p))

/-- Writes a setting. -/
def putSetting (b : Backend) (key value : String) : Backend :=
  { b with settings := (b.settings.set [(key, some value)]).warm }

/-- Changes the given parts of the bot's configuration; blank texts stand for nothing. -/
def changeProfile (b : Backend) (c : BotChange) : Backend × Response :=
  let (b, p) := b.withProfile
  let p :=
    { p with
      enabled := c.enabled.getD p.enabled
      scopes := match c.scopes with
        | some scopes => scopesText? (Scope.normalize scopes)
        | none => p.scopes
      displayName := match c.displayName with
        | some s => Settings.filled? s
        | none => p.displayName
      login := match c.login with
        | some s => Settings.filled? s
        | none => p.login }
  let b := match c.botUserId with
    | some id => b.putSetting "bot_user_id" id
    | none => b
  let b := { b with bot := some p }
  (b.warm, .ok (b.profileValue p))

/-- Puts new tokens into the bot's configuration, with their scopes if there are any. -/
def changeTokens (b : Backend) (c : BotTokens) : Backend × Response :=
  let (b, p) := b.withProfile
  let p :=
    { p with
      access := some c.access
      refresh := some c.refresh
      expiresAt := c.expiresAt.map (·.shown)
      scopes := (scopesText? (Scope.normalize c.scopes)).or p.scopes }
  let b := { b with bot := some p }
  (b.warm, .ok (b.profileValue p))

/-- The event that an entry of the worker makes, at its own time or now. -/
def logEvent (now : Moment) (e : LogEntry) : Value :=
  .obj [("type", .str "log"), ("level", .str e.level), ("message", .str e.message),
    ("source", Value.ofText? e.source), ("timestamp", .str (e.timestamp.getD ⟨now, none⟩).text),
    ("metadata", .obj (e.metadata.getD []))]

/-- Logs an event of the worker. -/
def pushLog (b : Backend) (now : Moment) (e : LogEntry) : Backend × Response :=
  ({ b with log := b.log.broadcast (logEvent now e) }, .done)

/-- Shows the last events. An event with a number that JSON cannot write makes it fail. -/
def showLog (b : Backend) (limit : Int) : Response :=
  let events := Value.list (b.log.latest limit)
  if events.isWritable then .ok events else .crash

end Backend

end ChannelBot.Server
