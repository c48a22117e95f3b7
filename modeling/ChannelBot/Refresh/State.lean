/-
Keeping a channel's access token for the music service fresh: one refresh asks the provider for
a grant, hands it to the store, and only then takes it over.
-/
import ChannelBot.Attempt
import ChannelBot.Provider.Spotify
import ChannelBot.Store.Query
import ChannelBot.Time.Calendar

namespace ChannelBot.Refresh

/-- What is known of a channel's tokens. The channel is a name, unless the store gives something
else. -/
structure State where
  channel : Value
  refreshToken : Value
  currentToken : Value := .null
  expiry : Option Moment := none
  deriving Repr

/-- How many seconds before its end a token is replaced. -/
def margin : Nat := 60

/-- How many seconds to wait after a failure. -/
def retryDelay : Nat := 60

/-- What a refresh asks its surroundings. -/
inductive Query where
  | grant (refreshToken : Value)
  | now
  | store (q : StoreQuery)

/-- The answers. -/
abbrev Answer : Query → Type
  | .grant _ => Except Fault Spotify.Grant
  | .now => Moment
  | .store q => storeAnswer q

/-- The surroundings of a refresh. -/
abbrev surroundings : Interface := ⟨Query, Answer⟩

/-- Asks for a grant. -/
def askGrant (refreshToken : Value) : Dialogue surroundings (Except Fault Spotify.Grant) :=
  Dialogue.query (I := surroundings) (.grant refreshToken)

/-- Asks for the time. -/
def askTime : Dialogue surroundings Moment :=
  Dialogue.query (I := surroundings) .now

/-- Asks the store. -/
def askStore (q : StoreQuery) : Dialogue surroundings (storeAnswer q) :=
  Dialogue.query (I := surroundings) (.store q)

/-- A moment of universal time in writing. -/
def expiryText (m : Moment) : String := (Timestamp.mk m (some 0)).text

/-- Whether a failure is one to be expected, after which the refresh is tried again. -/
def isExpected : Fault → Bool
  | .provider _ | .store _ | .timeout => true
  | _ => false

/-- The update that a grant leads to in the store. -/
def update (channel : String) (g : Spotify.Grant) (expiry : Moment) : StoreQuery :=
  .updateSpotifyToken channel g.accessToken (.str (expiryText expiry)) g.refreshToken

/-- The state after a grant that the store has taken. -/
def State.accept (s : State) (g : Spotify.Grant) (expiry : Moment) : State :=
  { s with
    currentToken := g.accessToken
    expiry := some expiry
    refreshToken := g.refreshToken.orElse s.refreshToken }

/-- How many seconds to wait after a grant. -/
def wait (g : Spotify.Grant) : Int := max (g.expiresIn - margin) 0

/-- What a failure leads to: a wait, if it is one to be expected. -/
def afterFault (s : State) (f : Fault) : State × Except Fault Int :=
  (s, if isExpected f then .ok retryDelay else .error f)

/-- One refresh: the state after it, and how many seconds to wait, or the fault that nobody
expects. -/
def once (s : State) : Dialogue surroundings (State × Except Fault Int) := do
  match ← askGrant s.refreshToken with
  | .error f => return afterFault s f
  | .ok g =>
    let now ← askTime
    match now.addSeconds? g.expiresIn with
    | none => return afterFault s (.shape .dateOverflow)
    | some expiry =>
      match s.channel.addressPart with
      | .error f => return afterFault s (.shape f)
      | .ok channel =>
        match ← askStore (update channel g expiry) with
        | .error f => return afterFault s f
        | .ok _ => return (s.accept g expiry, .ok (wait g))

end ChannelBot.Refresh
