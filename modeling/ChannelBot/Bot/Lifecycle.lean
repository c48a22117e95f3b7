/-
A bot's programs: what it does when it is ready, enabled or disabled, when its tokens change,
when a line of chat or a redemption comes in, and when it is shut down.
-/
import ChannelBot.Bot.Delivery
import ChannelBot.Router.Route
import ChannelBot.Refresh.State
import ChannelBot.Stream.Redemption
import ChannelBot.Value.Order

namespace ChannelBot.Bot

/-- What a bot is set up with besides its memory. -/
structure Setup where
  rules : Router.Rules
  services : Action.Services

/-- What a bot is made for: an account with its options, as it is given. -/
structure Order where
  token : Value
  refreshToken : Value
  login : Value
  botId : Value
  scopes : Value
  enabled : Value
  superUser : Value
  options : Value
  deriving Repr, DecidableEq

namespace Order

/-- The settings of the outside services. -/
def services (o : Order) : Except ShapeFault Action.Services := do
  let options := o.options.orElse (.obj [])
  let option := fun (key : String) => options.get key
  let weatherKey ← option "openweathermap_api_key"
  let base ← option "translate_url"
  let base ← if base.holds then
      match base with
      | .str s => pure (some s)
      | v => throw (.noOperation v.shape "rstrip")
    else pure none
  let id ← option "spotify_client_id"
  let secret ← option "spotify_client_secret"
  let shown := fun (v : Value) => if v.holds then v.display else ""
  return { weatherKey := shown weatherKey, languagesBase := base, music := ⟨shown id, shown secret⟩ }

/-- The gate for the super user. -/
def gate (o : Order) : Except ShapeFault Gate :=
  if o.superUser.holds then
    match o.superUser with
    | .str s => .ok (Gate.ofConfigured (some s))
    | v => .error (.noOperation v.shape "lower")
  else .ok (Gate.ofConfigured none)

/-- Whether the account is complete. -/
def isComplete (o : Order) : Bool :=
  o.token.holds && o.refreshToken.holds && o.login.holds && o.botId.holds

/-- Why a bot without an account is not made. -/
def missingAccount : Fault := .other "token, refresh_token, login, and bot_id are required"

/-- The bot for an account: its setup and its memory. `messages` is what came of reading the
messages file. -/
def fulfil (o : Order) (messages : Except Fault Messages) : Except Fault (Setup × Memory) := do
  if !o.isComplete then throw missingAccount
  let messages ← messages
  let scopes ← ((o.scopes.orElse (.list [])).elements).mapError .shape
  let services ← o.services.mapError .shape
  let gate ← o.gate.mapError .shape
  return (⟨⟨gate, messages⟩, services⟩,
    { login := o.login
      botId := o.botId.display
      token := o.token
      refreshToken := o.refreshToken
      scopes := scopes
      enabled := o.enabled })

end Order

/-- How many messages may wait to be sent. -/
def queueLimit : Nat := 1000

/-- How long the bot is silent after each message. -/
def sendDelay : Nat := Moment.second

/-! ## The parts of the bot as programs -/

/-- Answers what an action asks. -/
def actionProgram : (q : Action.Query) → Dialogue surroundings (Action.Answer q)
  | .store q => askStore q
  | .web r => Dialogue.query (I := surroundings) (.web r)
  | .enqueue m => Dialogue.query (I := surroundings) (.enqueue m)
  | .pause d => Dialogue.query (I := surroundings) (.pause d)
  | .commercial c n => startCommercial c n

/-- Answers what routing asks. -/
def routerProgram (s : Setup) : (q : Router.Query) → Dialogue surroundings (Router.Answer q)
  | .store q => askStore q
  | .act name args channel =>
    Dialogue.through actionProgram (Action.invoke s.services name args channel)
  | .join login => join login
  | .part login => part login
  | .enqueue m => Dialogue.query (I := surroundings) (.enqueue m)
  | .sigil channel => do
    let m ← Dialogue.query (I := surroundings) (.memory id)
    return m.sigils.lookup channel
  | .keepSigil channel sigil => do
    let _ ← Dialogue.query (I := surroundings) (.memory fun m =>
      { m with sigils := assign channel sigil m.sigils })
  | .dropSigil channel => do
    let _ ← Dialogue.query (I := surroundings) (.memory fun m =>
      { m with sigils := forget channel m.sigils })

/-- Routes a line of chat. -/
def route (s : Setup) (line channel caller : String) (badges : List String)
    (heard : Option Heard) : Program Router.Result :=
  Dialogue.through (routerProgram s) (Router.route s.rules line channel caller badges heard)

/-- Runs a body as a redemption does. -/
def runCustom (s : Setup) (body : Value) (args : List String) (channel : String)
    (caller : Value) : Program Value :=
  Dialogue.through (routerProgram s) (Router.runCustom s.rules body args channel caller)

/-- Answers what a redemption asks. -/
def redemptionProgram (s : Setup) :
    (q : Redemption.Query) → Dialogue surroundings (Redemption.Answer q)
  | .login id => resolveLogin id
  | .action title channel => match title.addressPart with
    | .ok title => askStore (.redeem title channel)
    | .error f => return .error (.shape f)
  | .run body args channel user => runCustom s body args channel user
  | .say channel text => do
    let _ ← Dialogue.query (I := surroundings) (.enqueue (.say channel text))
    return .ok ()

/-- Handles a redemption. -/
def redeem (s : Setup) (known : List (String × String)) (channelId : String) (details : Value) :
    Program Unit :=
  Dialogue.through (redemptionProgram s) (Redemption.handle known channelId details)

/-- Answers what a refresh asks. -/
def refreshProgram (s : Setup) : (q : Refresh.Query) → Dialogue surroundings (Refresh.Answer q)
  | .grant token => do
    let outcome ← Dialogue.query (I := surroundings)
      (.web (Spotify.tokenRequest s.services.music token))
    return Spotify.decodeGrant outcome
  | .now => Dialogue.query (I := surroundings) .now
  | .store q => askStore q

/-- Refreshes the tokens of a channel. -/
def refresh (s : Setup) (state : Refresh.State) :
    Dialogue surroundings (Refresh.State × Except Fault Int) :=
  Dialogue.through (refreshProgram s) (Refresh.once state)

/-! ## Services -/

/-- Starts the refresh loop of a channel, which lists and objects cannot be. -/
def startRefreshingFor (channel refreshToken : Value) : Program Unit := do
  match channel with
  | .list _ | .obj _ => .fail (.shape (.notKey channel.shape))
  | _ => let _ ← ask (.startRefreshing channel refreshToken)

/-- Starts refresh loops for rows of the store. -/
def refreshRows : List Value → Program Unit
  | [] => pure ()
  | row :: rest => do
    let channel ← Attempt.ofExcept ((row.get "channel").mapError .shape)
    let token ← Attempt.ofExcept ((row.get "refresh_token").mapError .shape)
    if channel.holds && token.holds then startRefreshingFor channel token
    refreshRows rest

/-- Starts the refresh loops of all channels that have a refresh token. The result is how many loops
there are then. -/
def startRefreshing : Program Nat := do
  let rows : Value ← askStore .refreshTokens
  refreshRows (← Attempt.ofExcept (rows.elements.mapError .shape))
  ask .countRefreshing

/-- Starts what an enabled bot does. -/
def startServices : Program Unit := do
  syncChannels
  match ← Attempt.sure startRefreshing.outcome with
  | .ok _ => pure ()
  | .error (.store f) =>
    tell "error" ("Failed to start token refresh: " ++ f.reason) "spotify" []
  | .error f => .fail f
  let _ ← ask .startStream

/-- Ends what an enabled bot does. -/
def stopServices : Program Unit := do
  let _ ← ask .stopStream
  let _ ← ask .stopRefreshing
  let m ← remember
  leaveAll (m.channelIds.map (·.1))

/-- Tells the console that the bot has started. -/
def greet (greeting : Value) : Program Unit := do
  let query := .pushLog (.str "info") greeting (.obj [("event", .str "lifecycle")])
  Attempt.ofExcept (Notice.heard (← Attempt.sure (askStore query).outcome))

/-- The connection to chat is there. -/
def becomeReady (s : Setup) : Program Unit := do
  let _ ← ask .startOutbound
  let m ← remember
  if m.enabled.holds then startServices
  change fun m => { m with ready := true }
  greet (s.rules.messages.entry .botStarted)

/-- Enables or disables the bot, once it is ready. -/
def updateEnabled (enabled : Value) : Program Unit := do
  let m ← remember
  if m.enabled.same enabled then return
  change fun m => { m with enabled := enabled }
  let _ ← ask .awaitReady
  if enabled.holds then
    tell "info" "Enabling bot" "lifecycle" []
    startServices
  else
    tell "info" "Disabling bot" "lifecycle" []
    stopServices

/-- Shuts the bot down. -/
def shutdown : Program Unit := do
  match ← Attempt.sure stopServices.outcome with
  | .ok _ | .error (.transport _) => pure ()
  | .error f => .fail f
  let _ ← ask .stopOutbound

/-! ## Tokens -/

/-- The moment when tokens end that last so many seconds from now. -/
def expiryAfter (expiresIn : Value) : Program (Option String) := do
  match expiresIn with
  | .null => return none
  | v =>
    let now : Moment ← ask .now
    let seconds ← Attempt.ofExcept (v.toInteger.mapError .shape)
    match now.addSeconds? seconds with
    | some m => return some (Refresh.expiryText m)
    | none => .fail (.shape .dateOverflow)

/-- Hands tokens to the store. A store that does not take them is of no account. -/
def persistTokens (token refreshToken expiresIn : Value) (scopes : List Value) :
    Program Unit := do
  let expiry ← expiryAfter expiresIn
  let query := .updateBotTokens token refreshToken (Value.ofText? expiry) (.list scopes)
  match ← Attempt.sure (askStore query).outcome with
  | .ok _ | .error (.store _) => return
  | .error f => .fail f

/-- Gives the tokens to the platform, which says what they are good for. -/
def loadTokens : Program Unit := do
  let m ← remember
  if !m.token.holds || !m.refreshToken.holds then
    .fail (.other "Bot credentials are unavailable")
  match (← ask (.addToken m.token m.refreshToken) : Except String TokenGrant) with
  | .error words => .fail (.other words)
  | .ok grant =>
    change fun m => { m with scopes := grant.scopes }
    persistTokens m.token m.refreshToken (.int grant.expiresIn) grant.scopes

/-- Takes over new tokens of an account, if it is the bot's own. -/
def takeTokens (userId token refreshToken scopes expiresIn : Value) : Program Unit := do
  let m ← remember
  if userId.display != m.botId then return
  change fun m => { m with token := token, refreshToken := refreshToken }
  let scopes ← Attempt.ofExcept (scopes.elements.mapError .shape)
  change fun m => { m with scopes := scopes }
  persistTokens token refreshToken expiresIn scopes

end ChannelBot.Bot
