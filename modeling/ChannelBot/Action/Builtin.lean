/-
The actions that command bodies may call.
-/
import ChannelBot.Action.Registry
import ChannelBot.Attempt
import ChannelBot.Number.Integer
import ChannelBot.Outbound.Message
import ChannelBot.Provider.Spotify
import ChannelBot.Provider.Languages
import ChannelBot.Provider.Weather
import ChannelBot.Store.Query
import ChannelBot.Time.Calendar

namespace ChannelBot.Action

/-- What an action asks its surroundings. -/
inductive Query where
  | store (q : StoreQuery)
  | web (r : HttpRequest)
  | enqueue (m : Outgoing)
  /-- Waits so many microseconds. -/
  | pause (duration : Nat)
  | commercial (channel : String) (seconds : Int)

/-- The answers. -/
abbrev Answer : Query → Type
  | .store q => storeAnswer q
  | .web _ => HttpOutcome
  | .enqueue _ => Unit
  | .pause _ => Unit
  | .commercial .. => Except Fault Unit

/-- The surroundings of an action. -/
abbrev surroundings : Interface := ⟨Query, Answer⟩

/-- What an action does with its arguments in a channel. Null stands for no answer. -/
abbrev Handler : Type := List Value → String → Attempt surroundings Value

/-- Asks the store. -/
def askStore (q : StoreQuery) : Attempt surroundings q.Result :=
  .of (Dialogue.query (I := surroundings) (.store q))

/-- Makes a request to a provider. -/
def askWeb (r : HttpRequest) : Dialogue surroundings HttpOutcome :=
  Dialogue.query (I := surroundings) (.web r)

/-- Says something in a channel. -/
def sayText (channel text : String) : Outgoing := .say channel (.str text)

/-- Puts a message into the queue. -/
def enqueue (m : Outgoing) : Attempt surroundings Unit :=
  .sure (Dialogue.query (I := surroundings) (.enqueue m))

/-- Waits. -/
def pause (duration : Nat) : Attempt surroundings Unit :=
  .sure (Dialogue.query (I := surroundings) (.pause duration))

/-- The services that actions use. -/
structure Services where
  weatherKey : String := ""
  languagesBase : Option String := none
  music : Spotify.Client := ⟨"", ""⟩
  deriving Repr, DecidableEq

/-- How many seconds pass between a hit and its execution. -/
def hitDelay : Nat := 15

/-- How many seconds a hit lasts. -/
def hitSeconds : Nat := 600

/-- The order that silences a user for a number of seconds. -/
def timeoutOrder (user : String) (seconds : Int) : String :=
  "/timeout " ++ user ++ " " ++ toString seconds

/-- The first argument, which an action must have. -/
def need (action : String) : List Value → Attempt surroundings Value
  | a :: _ => pure a
  | [] => .fail (.script (.refused ("missing argument for " ++ action)))

/-- The first argument as a part of an address. -/
def needName (action : String) (args : List Value) : Attempt surroundings String := do
  Attempt.ofExcept ((← need action args).addressPart.mapError .shape)

/-- Answers. -/
def ping : Handler := fun _ _ => pure (.str "pong!")

/-- Tells the weather at a place. -/
def weather (s : Services) : Handler := fun args _ => do
  let place ← need "weather" args
  let outcome ← Attempt.sure (askWeb (Weather.request s.weatherKey place))
  match Weather.decode place outcome with
  | .ok report => return .str report.text
  | .error (.provider (.unknownPlace _)) => return .str "location not found"
  | .error (.provider f) => return .str ("Failed getting weather: " ++ f.message)
  | .error f => .fail f

/-- Puts a text into another language. -/
def translate (s : Services) : Handler := fun args _ => do
  let text ← needName "translate" args
  let base := Languages.base s.languagesBase
  let outcome ← Attempt.sure (askWeb (Languages.request base text))
  match Languages.decode outcome with
  | .ok phrase => return .str phrase.line
  | .error (.provider f) => return .str ("error when translating: " ++ f.message)
  | .error f => .fail f

/-- The access token of a channel for the music service, if it has one. -/
def musicToken (channel : String) : Attempt surroundings (Option String) := do
  match ← Attempt.sure (askStore (.spotifyTokens channel)).outcome with
  | .ok tokens =>
    let token : Value ← Attempt.ofExcept ((Value.get "access_token" tokens).mapError .shape)
    return if token.holds then some token.display else none
  | .error (.store f) => if f.isMissing then return none else .fail (.store f)
  | .error f => .fail f

/-- Asks the music service for a channel; `empty` is said where it has nothing to tell. -/
def music (url : String) (read : HttpOutcome → Except Fault Value) (empty : String) :
    Handler := fun _ channel => do
  match ← musicToken channel with
  | none => return .str "not configured for this channel"
  | some token =>
    let outcome ← Attempt.sure (askWeb (Spotify.request url token))
    match read outcome with
    | .ok answer => return answer.orElse (.str empty)
    | .error (.provider f) => return .str ("error: " ++ f.message)
    | .error f => .fail f

/-- What plays now. -/
def readSong (o : HttpOutcome) : Except Fault Value := Value.ofText? <$> Spotify.decodeSong o

/-- What was played last. -/
def readRecent (o : HttpOutcome) : Except Fault Value := Value.ofText? <$> Spotify.decodeRecent o

/-- Opens a hit on a user, waits, and silences the user for so many seconds unless a guard has come.
The guard is used up either way. -/
def hitmanFor (seconds : Int) : Handler := fun args channel => do
  let user ← needName "hitman" args
  let _ ← askStore (.addTarget channel user)
  enqueue (sayText channel ("Timing out " ++ user ++ " in " ++ toString hitDelay ++ " seconds..."))
  pause (hitDelay * Moment.second)
  let guarded : Bool ← askStore (.isProtected channel user)
  let _ ← askStore (.setProtection channel user false (.bool true))
  if guarded then return .null
  enqueue (.raw channel (.str (timeoutOrder user seconds)))
  return .str (user ++ " timed out for " ++ toString (seconds / 60) ++ " minutes!")

/-- A hit of the usual length. -/
def hitman : Handler := hitmanFor hitSeconds

/-- Guards a user. -/
def bodyguard : Handler := fun args channel => do
  let user ← needName "bodyguard" args
  let _ ← askStore (.setProtection channel user true .null)
  enqueue (sayText channel (user ++ " has been guarded!"))
  return .null

/-- Starts a commercial break. -/
def commercial : Handler := fun args channel => do
  let length ← need "commercial" args
  match length.toInteger with
  | .ok seconds =>
    Attempt.of (Dialogue.query (I := surroundings) (.commercial channel seconds))
    return .null
  | .error f =>
    if f.kind = .value then
      .fail (.script (.refused ("invalid commercial length \"" ++ length.display ++ "\"")))
    else .fail (.shape f)

/-- All actions. -/
def registry (s : Services) : Registry Handler where
  handlers :=
    [("ping", ping),
     ("weather", weather s),
     ("translate", translate s),
     ("spotify", music Spotify.playerUrl readSong "no song is currently playing"),
     ("playlist", music Spotify.playerUrl Spotify.decodePlaylist "no playlist is currently playing"),
     ("lastsong", music Spotify.recentUrl readRecent "no recently played song"),
     ("hitman", hitman),
     ("bodyguard", bodyguard),
     ("commercial", commercial)]

/-- Runs an action by its name. -/
def invoke (s : Services) (name : String) (args : List Value) (channel : String) :
    Attempt surroundings Value :=
  match (registry s).find? name with
  | some handler => handler args channel
  | none => .fail (.script (.unknownAction name))

end ChannelBot.Action
