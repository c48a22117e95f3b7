/-
The backend's settings: rows of a table, and a copy of what they amount to, kept from the first
reading until the next writing. Some settings have defaults, which count while there is no row.
-/
import ChannelBot.Text.Blank
import ChannelBot.Value.Basic

namespace ChannelBot.Server

/-- Settings by key; a setting can be there without a value. -/
abbrev SettingRows := List (String × Option String)

/-- The stored settings, and what was read of them last. -/
structure Settings where
  rows : SettingRows := []
  cached : Option SettingRows := none
  deriving Repr, DecidableEq

namespace Settings

/-- The values that settings without a row have. -/
def defaults : List (String × String) :=
  [("bot_app_scopes",
    "user:read:chat user:write:chat user:bot channel:read:redemptions " ++
      "channel:edit:commercial moderator:manage:banned_users")]

/-- The environment variables that settings are taken from at the start. -/
def environmentKeys : List (String × String) :=
  [("twitch_client_id", "TWITCH_CLIENT_ID"),
   ("twitch_client_secret", "TWITCH_CLIENT_SECRET"),
   ("bot_redirect_uri", "BOT_TWITCH_REDIRECT_URI"),
   ("bot_app_scopes", "BOT_APP_SCOPES"),
   ("super_user", "SUPER_USER"),
   ("openweathermap_api_key", "OPENWEATHERMAP_API_KEY"),
   ("translate_url", "TRANSLATE_URL"),
   ("spotify_client_id", "SPOTIFY_CLIENT_ID"),
   ("spotify_client_secret", "SPOTIFY_CLIENT_SECRET"),
   ("spotify_redirect_uri", "SPOTIFY_REDIRECT_URI")]

/-- Whether there is a row under a key. -/
def hasRow (key : String) (rows : SettingRows) : Bool := rows.any (·.1 == key)

/-- Rows together with the defaults of the keys that they lack. -/
def withDefaults (rows : SettingRows) : SettingRows :=
  rows ++ (defaults.filter fun d => !hasRow d.1 rows).map fun (k, v) => (k, some v)

/-- What a reader sees. -/
def current (s : Settings) : SettingRows := s.cached.getD (withDefaults s.rows)

/-- The settings after a reading. -/
def warm (s : Settings) : Settings := { s with cached := some s.current }

/-- A text without white space around it, if anything is left. -/
def filled? (value : String) : Option String :=
  let t := Text.trim value
  if t.isEmpty then none else some t

/-- The value that a reader sees under a key, blank ones not counting. -/
def value? (s : Settings) (key : String) : Option String :=
  match s.current.lookup key with
  | some (some v) => filled? v
  | _ => none

/-- The pieces of a setting between white space and commas. -/
def pieces (s : Settings) (key : String) : List String :=
  match s.value? key with
  | some v => Text.words (.ofList (v.toList.map fun c => if c == ',' then ' ' else c))
  | none => []

/-- Puts a value under a key. -/
def put (key : String) (value : Option String) : SettingRows → SettingRows
  | [] => [(key, value)]
  | (k, v) :: rest => if k == key then (k, value) :: rest else (k, v) :: put key value rest

/-- Writes settings, trimmed, blank ones as nothing; what was read before is forgotten. -/
def set (s : Settings) (updates : SettingRows) : Settings where
  rows := updates.foldl (fun rows (k, v) => put k (v.bind filled?) rows) s.rows
  cached := none

/-- Whether a row has a value that is not empty. -/
def hasValue (key : String) (rows : SettingRows) : Bool :=
  match rows.lookup key with
  | some (some v) => !v.isEmpty
  | _ => false

/-- Takes over a setting from the environment, unless it has a value. -/
def adopt (environment : List (String × String)) (rows : SettingRows)
    (source : String × String) : SettingRows :=
  match (environment.lookup source.2).bind filled? with
  | some v => if hasValue source.1 rows then rows else put source.1 (some v) rows
  | none => rows

/-- Takes settings over from the environment and writes the defaults of those without a row.
A default that competes with a value from the environment for a new row makes it fail. -/
def bootstrap? (environment : List (String × String)) (s : Settings) : Option Settings :=
  let adopted := environmentKeys.foldl (adopt environment) s.rows
  let fresh := defaults.filter fun d => !hasRow d.1 s.rows
  if fresh.any fun d => hasRow d.1 adopted then none
  else some { rows := adopted ++ fresh.map fun (k, v) => (k, some v), cached := none }

end Settings

end ChannelBot.Server
