/-
The account that the bot runs on, as the backend's configuration gives it. A configuration that
lacks a credential is no account; the reason names what is missing. Credentials are handed on as
they are given; they are texts, unless the store holds something else in their place. Two
accounts with one fingerprint need no new bot.
-/
import ChannelBot.Fault
import ChannelBot.Text.Blank
import ChannelBot.Text.Case
import ChannelBot.Value.Equal
import ChannelBot.Value.Order

namespace ChannelBot

/-- Credentials and options of a bot. -/
structure Account where
  token : Value
  refreshToken : Value
  login : Value
  clientId : Value
  clientSecret : Value
  botUserId : String
  scopes : List String
  enabled : Bool
  superUser : Value
  integrations : List (String × String)
  deriving Repr, DecidableEq

/-- What the worker's environment gives where the configuration has nothing. -/
structure Environment where
  clientId : Option String := none
  clientSecret : Option String := none
  botUserId : Option String := none
  superUser : Option String := none
  deriving Repr, DecidableEq

namespace Account

/-- The options that configure outside services. -/
def integrationKeys : List String :=
  ["openweathermap_api_key", "translate_url", "spotify_client_id", "spotify_client_secret"]

/-- A token without the marker that chat clients put in front. -/
def bareToken (token : String) : String := (Text.afterLead? "oauth:" token).getD token

/-- A value that counts as something. -/
def given? (v : Value) : Option Value := if v.holds then some v else none

/-- The first value that counts as something under one of the keys. -/
def first? (config : List (String × Value)) : List String → Option Value
  | [] => none
  | key :: keys => (((Value.lookup? key config).bind given?).or (first? config keys))

/-- The scopes in a text or a list. -/
def scopesOf : Value → List String
  | .str s => Text.words s
  | .list items => (items.filter Value.holds).map Value.display
  | _ => []

/-- The account in a configuration, or why there is none. -/
def ofConfig (env : Environment) (config : Value) : Except String Account :=
  let fields : Option (List (String × Value)) := match config with
    | .obj fields => some fields
    | v => if v.holds then none else some []
  match fields with
  | none => .error "Backend returned invalid bot configuration payload"
  | some fields =>
    let token := first? fields ["access_token", "token"]
    let refresh := first? fields ["refresh_token"]
    let login := first? fields ["login", "bot_login"]
    let clientId := (first? fields ["client_id"]).or (given? (.ofText? env.clientId))
    let clientSecret := (first? fields ["client_secret"]).or (given? (.ofText? env.clientSecret))
    let botUserId := (first? fields ["bot_user_id", "bot_id"]).or (given? (.ofText? env.botUserId))
    match token, refresh, login, clientId, clientSecret, botUserId with
    | some token, some refresh, some login, some clientId, some clientSecret, some botUserId =>
      .ok
        { token := token
          refreshToken := refresh
          login := login
          clientId := clientId
          clientSecret := clientSecret
          botUserId := botUserId.display
          scopes := scopesOf ((Value.lookup? "scopes" fields).getD .null)
          enabled := ((Value.lookup? "enabled" fields).getD .null).holds
          superUser := (first? fields ["super_user"]).getD (.ofText? env.superUser)
          integrations := integrationKeys.filterMap fun key =>
            (first? fields [key]).map fun v => (key, v.display) }
    | _, _, _, _, _, _ =>
      let required := [("access_token", token), ("refresh_token", refresh), ("login", login),
        ("client_id", clientId), ("client_secret", clientSecret), ("bot_user_id", botUserId)]
      let missing := (required.filter (·.2.isNone)).map (·.1)
      .error ("Missing bot credentials: " ++ String.intercalate ", " missing)

/-- What decides whether a running bot fits an account. -/
structure Fingerprint where
  token : String
  refreshToken : Value
  login : Value
  clientId : Value
  clientSecret : Value
  botUserId : String
  scopes : List String
  superUser : String
  integrations : List (String × String)
  deriving Repr, DecidableEq

/-- Whether two fingerprints are of accounts that one bot serves: their parts count as equal. -/
def Fingerprint.fits (a b : Fingerprint) : Bool :=
  a.token == b.token && a.refreshToken.same b.refreshToken && a.login.same b.login &&
    a.clientId.same b.clientId && a.clientSecret.same b.clientSecret &&
    a.botUserId == b.botUserId && a.scopes == b.scopes && a.superUser == b.superUser &&
    a.integrations == b.integrations

/-- The fingerprint of an account: the token bare, the scopes in order, the super user in lower
case; no refresh token and no super user count as empty ones. A token or a super user that is no
text has none. -/
def fingerprint (a : Account) : Except Fault Fingerprint := do
  let token ← a.token.needText "removeprefix"
  let superUser ← (a.superUser.orElse (.str "")).needText "lower"
  return {
    token := bareToken token
    refreshToken := a.refreshToken.orElse (.str "")
    login := a.login
    clientId := a.clientId
    clientSecret := a.clientSecret
    botUserId := a.botUserId
    scopes := Text.sorted a.scopes
    superUser := Text.lower superUser
    integrations := Text.sortedOn (·.1) a.integrations }

end Account

end ChannelBot
