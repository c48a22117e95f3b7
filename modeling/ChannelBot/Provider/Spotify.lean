/-
The music service: what a listener plays now, from which list, what was played last, and new
access tokens for refresh tokens.
-/
import ChannelBot.Provider.Exchange

namespace ChannelBot.Spotify

/-- The address of the player. -/
def playerUrl : String := "https://api.spotify.com/v1/me/player"

/-- The address that lists the last track. -/
def recentUrl : String := playerUrl ++ "/recently-played?limit=1"

/-- The address that grants tokens. -/
def tokenUrl : String := "https://accounts.spotify.com/api/token"

/-- A question to the player. -/
def request (url accessToken : String) : HttpRequest where
  method := "GET"
  url := url
  headers := [("Authorization", "Bearer " ++ accessToken)]

/-- The player's fields; null where there are none. An `error` field is a fault whatever the
status. -/
def player (o : HttpOutcome) : Except Fault Value := do
  let (status, data) ← Exchange.read .spotify o
  match data.field? "error" with
  | some error =>
    let message := match error with
      | .obj fields => (Value.lookup? "message" fields).getD .null
      | v => v
    throw (.provider (.reported .spotify message.display))
  | none =>
    if status ≥ 400 then
      throw (.provider (.reported .spotify s!"spotify returned {status}"))
    match data with
    | .obj _ => return data
    | _ => return .null

/-- Milliseconds as minutes and seconds. -/
def clock (ms : Int) : String :=
  let seconds := Int.fdiv ms 1000
  let rest := (Int.fmod seconds 60).toNat
  toString (Int.fdiv seconds 60) ++ ":" ++ (if rest < 10 then "0" else "") ++ toString rest

/-- The track that plays, with its position. -/
def nowPlaying (player item : Value) : Except ShapeFault String := do
  let artists ← match item with
    | .obj fields => ((Value.lookup? "artists" fields).getD (.list [])).elements
    | v => throw (.noOperation v.shape "get")
  let names ← artists.mapM (·.member "name")
  let artists := String.intercalate ", " (← Value.texts 0 names)
  let position ← (((player.field? "progress_ms").getD .null).orElse (.int 0)).toInteger
  let length ← (((item.field? "duration_ms").getD .null).orElse (.int 0)).toInteger
  let name ← item.member "name"
  return artists ++ " - " ++ name.display ++ " [" ++ clock position ++ "/" ++ clock length ++ "]"

/-- A malformed answer, if the fault is of one of these classes; any other fault is passed on. -/
def malformed {α : Type} (kinds : List FaultKind) : Except ShapeFault α → Except Fault α
  | .ok a => .ok a
  | .error f =>
    if kinds.contains f.kind then .error (.provider (.malformed .spotify f)) else .error (.shape f)

/-- Reads what plays now; none if nothing does. -/
def decodeSong (o : HttpOutcome) : Except Fault (Option String) := do
  let p ← player o
  let item := (p.field? "item").getD .null
  if item.holds then some <$> malformed [.attribute, .key, .type, .value] (nowPlaying p item)
  else return none

/-- Reads the address of the list that plays now; null if none does. -/
def decodePlaylist (o : HttpOutcome) : Except Fault Value := do
  let p ← player o
  let context := ((p.field? "context").getD .null).orElse (.obj [])
  let addresses ← (context.get "external_urls").mapError .shape
  ((addresses.orElse (.obj [])).get "spotify").mapError .shape

/-- The track of a list of plays. -/
def lastPlayed (plays : Value) : Except ShapeFault String := do
  let track ← (← plays.first).member "track"
  let artist ← (← (← track.member "artists").first).member "name"
  let name ← track.member "name"
  return artist.display ++ " - " ++ name.display

/-- Reads what was played last; none if nothing was. -/
def decodeRecent (o : HttpOutcome) : Except Fault (Option String) := do
  let p ← player o
  let plays := (p.field? "items").getD .null
  if plays.holds then some <$> malformed [.key, .index, .type] (lastPlayed plays) else return none

/-- The application's credentials. -/
structure Client where
  id : String
  secret : String
  deriving Repr, DecidableEq

/-- The question for a new access token. -/
def tokenRequest (c : Client) (refreshToken : Value) : HttpRequest where
  method := "POST"
  url := tokenUrl
  form := [("grant_type", .str "refresh_token"), ("refresh_token", refreshToken),
    ("client_id", .str c.id), ("client_secret", .str c.secret)]

/-- A granted access token, how many seconds it lasts, and the refresh token that replaces the
old one, if any. -/
structure Grant where
  accessToken : Value
  expiresIn : Int
  refreshToken : Value
  deriving Repr

/-- Reads a grant. -/
def decodeGrant (o : HttpOutcome) : Except Fault Grant := do
  let (status, data) ← Exchange.read .spotify o
  let refused := fun (detail : Value) =>
    Fault.provider (.reported .spotify s!"token refresh failed ({status}): {detail.display}")
  match data with
  | .obj fields =>
    match Value.lookup? "access_token" fields with
    | some access =>
      if status ≥ 400 then throw (refused (description fields))
      let seconds ← malformed [.type, .value]
        ((Value.lookup? "expires_in" fields).getD (.int 3600)).toInteger
      return ⟨access, seconds, (Value.lookup? "refresh_token" fields).getD .null⟩
    | none => throw (refused (description fields))
  | v => throw (refused v)
where
  /-- What an answer says about a refusal. -/
  description (fields : List (String × Value)) : Value :=
    ((Value.lookup? "error_description" fields).getD .null).orElse
      ((Value.lookup? "error" fields).getD .null)

end ChannelBot.Spotify
