/-
Authorization of the bot account and of channels' music accounts. A start gives out a state
text; the callback that brings it back trades its code for tokens with the provider. A state
text is good for one callback, of its own purpose.
-/
import ChannelBot.Server.Backend
import ChannelBot.Server.Normal
import ChannelBot.Value.Access

namespace ChannelBot.Server

/-- What a request leads to: its answer, and the requests made to others on the way. -/
structure Reply where
  response : Response
  calls : List HttpRequest := []
  deriving Repr

namespace Authorization

/-- How many seconds a state text is good for. -/
def lifetime : Nat := 600

/-- How many seconds to wait for a provider. -/
def patience : Nat := 10

/-- What the music service is asked for. -/
def musicScopes : String :=
  "user-read-currently-playing user-read-playback-state user-read-recently-played"

/-- Drops the state texts that are too old, and gives out a new one. -/
def issue (b : Backend) (now : Moment) (purpose : Purpose) : Backend × String :=
  let state := s!"state-{b.issued + 1}"
  let fresh := b.pending.filter fun p => now.micros ≤ p.created.micros + lifetime * Moment.second
  ({ b with pending := fresh ++ [⟨state, purpose, now⟩], issued := b.issued + 1 }, state)

/-- Takes a state text out; it is gone whatever it was for. -/
def redeem (b : Backend) (state : String) : Backend × Option Purpose :=
  ({ b with pending := b.pending.filter (·.state != state) },
    (b.pending.find? (·.state == state)).map (·.purpose))

/-- The address to come back to: a setting, or the backend's own. -/
def returnAddress (b : Backend) (origin key path : String) : String :=
  (b.setting? key).getD (origin ++ path)

/-- Where the bot's authorization comes back to. -/
def botReturn (b : Backend) (origin : String) : String :=
  returnAddress b origin "bot_redirect_uri" "/auth/callback"

/-- Where a music account's authorization comes back to. -/
def musicReturn (b : Backend) (origin : String) : String :=
  returnAddress b origin "spotify_redirect_uri" "/spotify/callback"

/-- The id and the secret of the application in two settings, if both are there. -/
def application? (b : Backend) (idKey secretKey : String) : Option (String × String) :=
  match b.setting? idKey, b.setting? secretKey with
  | some id, some secret => some (id, secret)
  | _, _ => none

/-- The application of the bot. -/
def botApplication? (b : Backend) : Option (String × String) :=
  application? b "twitch_client_id" "twitch_client_secret"

/-- The application of the music service. -/
def musicApplication? (b : Backend) : Option (String × String) :=
  application? b "spotify_client_id" "spotify_client_secret"

/-- Sends the browser to authorize the bot account. -/
def startBot (b : Backend) (now : Moment) (origin : String) : Backend × Response :=
  let b := b.warm
  match botApplication? b with
  | none => (b, .refusal 500 "Twitch OAuth not configured")
  | some (id, _) =>
    let (b, state) := issue b now .bot
    (b, .redirect ("https://id.twitch.tv/oauth2/authorize?" ++ Percent.encodeForm
      [("client_id", id), ("redirect_uri", botReturn b origin), ("response_type", "code"),
       ("scope", Text.unwords (b.settings.pieces "bot_app_scopes")), ("state", state),
       ("force_verify", "true")]))

/-- Sends the browser to authorize the music account of a channel. -/
def startMusic (b : Backend) (now : Moment) (origin channel : String) : Backend × Response :=
  match b.tables.channel channel with
  | .absent => (b, .missing "channel not found")
  | .ambiguous => (b, .crash)
  | .found c =>
    let b := b.warm
    match musicApplication? b with
    | none => (b, .refusal 500 "Spotify OAuth not configured")
    | some (id, _) =>
      let (b, state) := issue b now (.music c.name)
      (b, .redirect ("https://accounts.spotify.com/authorize?" ++ Percent.encodeForm
        [("client_id", id), ("response_type", "code"), ("redirect_uri", musicReturn b origin),
         ("scope", musicScopes), ("state", state)]))

/-- Why a trade with a provider failed. -/
inductive TradeFault where
  /-- The provider refuses, cannot be reached, or leaves something out. -/
  | provider
  /-- The answer has a shape that nobody expects. -/
  | crash
  deriving Repr, DecidableEq

/-- A missing part is the provider's failure; a part of an odd shape is not foreseen. -/
def TradeFault.ofShape (f : ShapeFault) : TradeFault :=
  match f.kind with
  | .key | .index | .value => .provider
  | .attribute | .type | .overflow => .crash

/-- The answer to a failed trade. -/
def TradeFault.response (provider : String) : TradeFault → Response
  | .provider =>
    ⟨502, .page (Page.failed ("Could not complete authorization with " ++ provider ++ "."))⟩
  | .crash => .crash

/-- The content of a provider's answer. -/
def answerValue : HttpOutcome → Except TradeFault Value
  | .answered r =>
    if r.status ≥ 400 then .error .provider
    else (Json.read r.body).mapError fun _ => .provider
  | .failed _ | .timedOut => .error .provider

/-- A part of a provider's answer. -/
def part {α : Type} (x : Except ShapeFault α) : Except TradeFault α := x.mapError .ofShape

/-- A value as a column of texts keeps it. -/
def column (v : Value) : Except TradeFault (Option String) :=
  match Column.text? v with
  | some t => .ok t
  | none => .error .crash

/-- The moment when a grant ends, if it says how long it lasts. -/
def expiry (now : Moment) (expiresIn : Value) : Except TradeFault (Option Moment) :=
  if expiresIn.holds then
    match expiresIn.toInteger with
    | .ok n => match now.addSeconds? n with
      | some m => .ok (some m)
      | none => .error .crash
    | .error _ => .error .crash
  else .ok none

/-- The scopes of a grant, in a text or a list; anything else than texts is not foreseen. -/
def grantedScopes (v : Value) : Except TradeFault (List String) :=
  if !v.holds then .ok []
  else match v with
    | .str s => .ok (Text.words s)
    | v => match v.elements with
      | .ok items => items.mapM fun
        | .str s => .ok s
        | _ => .error .crash
      | .error _ => .error .crash

/-- The next answer of the others, and those after it; without one the line is dead. -/
def next (answers : List HttpOutcome) : HttpOutcome × List HttpOutcome :=
  match answers with
  | a :: rest => (a, rest)
  | [] => (.failed "", [])

/-- The account that a grant and its owner make. -/
def grantedProfile (now : Moment) (grant owner access : Value) : Except TradeFault BotProfile := do
  let scopes ← grantedScopes ((grant.field? "scope").getD .null)
  let login ← part (owner.get "login")
  let displayName ← part (owner.get "display_name")
  let expiresAt ← expiry now ((grant.field? "expires_in").getD .null)
  return {
    login := ← column login
    displayName := ← column (displayName.orElse login)
    scopes := Backend.scopesText? (Scope.normalize scopes)
    access := ← column access
    refresh := ← column ((grant.field? "refresh_token").getD .null)
    expiresAt := expiresAt
    enabled := true }

/-- The event that tells of a new account. -/
def completed (now : Moment) (login : Option String) : Value :=
  .obj [("type", .str "oauth_complete"), ("level", .str "info"),
    ("message", .str ("Bot access token acquired for " ++ (Value.ofText? login).display)),
    ("timestamp", .str now.text)]

/-- Asks for the bot's tokens. -/
def botTokenRequest (id secret code returnTo : String) : HttpRequest where
  method := "POST"
  url := "https://id.twitch.tv/oauth2/token"
  form := [("client_id", .str id), ("client_secret", .str secret), ("code", .str code),
    ("grant_type", .str "authorization_code"), ("redirect_uri", .str returnTo)]
  patience := some patience

/-- Asks whose tokens they are. -/
def ownerRequest (id : String) (access : Value) : HttpRequest where
  method := "GET"
  url := "https://api.twitch.tv/helix/users"
  headers := [("Authorization", "Bearer " ++ access.display), ("Client-Id", id)]
  patience := some patience

/-- Stores a new account. -/
def storeProfile (b : Backend) (now : Moment) (p : BotProfile) (ownerId : Value) : Backend :=
  let b := { b with bot := some p }.putSetting "bot_user_id" (ownerId.orElse (.str "")).display
  { b with log := b.log.broadcast (completed now p.login) }

/-- The second half of the bot's callback: grant and owner are there. -/
def finishBot (b : Backend) (now : Moment) (grant owner access : Value) : Backend × Response :=
  let (b, _) := b.withProfile
  match grantedProfile now grant owner access with
  | .error f => (b, f.response "Twitch")
  | .ok p =>
    (storeProfile b now p ((owner.field? "id").getD .null),
      ⟨200, .page (Page.authorized (p.displayName.getD ""))⟩)

/-- The trade of the bot's callback: the grant, its access token and its owner, or why there are
none; and the requests made. -/
def tradeBot (b : Backend) (origin id secret code : String) (answers : List HttpOutcome) :
    Except TradeFault (Value × Value × Value) × List HttpRequest :=
  let tokens := botTokenRequest id secret code (botReturn b origin)
  let (answer, answers) := next answers
  match (do
      let grant ← answerValue answer
      let access ← part (grant.member "access_token")
      return (grant, access) : Except TradeFault (Value × Value)) with
  | .error f => (.error f, [tokens])
  | .ok (grant, access) =>
    let owner := do
      let v ← answerValue (next answers).1
      part (do (← v.member "data").first)
    (owner.map fun o => (grant, access, o), [tokens, ownerRequest id access])

/-- The page that refuses a callback. -/
def refused (status : Nat) (reason : String) : Response := ⟨status, .page (Page.failed reason)⟩

/-- The answer to a state text that is not good here. -/
def expired : Response := refused 400 "state expired or invalid"

/-- The bot's authorization comes back. -/
def botCallback (b : Backend) (now : Moment) (origin : String) (answers : List HttpOutcome)
    (code state : String) : Backend × Reply :=
  let b := b.warm
  match botApplication? b with
  | none => (b, { response := refused 500 "Twitch OAuth not configured" })
  | some (id, secret) =>
    match redeem b state with
    | (b, some .bot) =>
      match tradeBot b origin id secret code answers with
      | (.error f, calls) => (b, ⟨f.response "Twitch", calls⟩)
      | (.ok (grant, access, owner), calls) =>
        let (b, response) := finishBot b now grant owner access
        (b, ⟨response, calls⟩)
    | (b, _) => (b, { response := expired })

/-- Asks for a channel's music tokens. -/
def musicTokenRequest (b : Backend) (origin code : String) : HttpRequest where
  method := "POST"
  url := "https://accounts.spotify.com/api/token"
  form := [("grant_type", .str "authorization_code"), ("code", .str code),
    ("redirect_uri", .str (musicReturn b origin))]
  credentials := some ((b.setting? "spotify_client_id").getD "",
    (b.setting? "spotify_client_secret").getD "")
  patience := some patience

/-- The credentials that a grant makes. -/
def grantedCredential (now : Moment) (answer : HttpOutcome) : Except TradeFault Credential := do
  let grant ← answerValue answer
  let refresh ← part (grant.member "refresh_token")
  let access ← column ((grant.field? "access_token").getD .null)
  let expiresAt ← expiry now ((grant.field? "expires_in").getD .null)
  match ← column refresh with
  | some refresh => return ⟨access, refresh, expiresAt⟩
  | none => throw .crash

/-- A music account's authorization comes back. -/
def musicCallback (b : Backend) (now : Moment) (origin : String) (answers : List HttpOutcome)
    (code state : String) : Backend × Reply :=
  match redeem b state with
  | (b, some (.music channel)) =>
    match b.tables.channel channel with
    | .absent => (b, { response := refused 404 "channel not found" })
    | .ambiguous => (b, { response := .crash })
    | .found c =>
      let b := b.warm
      let calls := [musicTokenRequest b origin code]
      match grantedCredential now (next answers).1 with
      | .error f => (b, ⟨f.response "Spotify", calls⟩)
      | .ok k =>
        ({ b with tables := b.tables.putCredential c.id k },
          ⟨⟨200, .page (Page.connected c.name)⟩, calls⟩)
  | (b, _) => (b, { response := expired })

end Authorization

end ChannelBot.Server
