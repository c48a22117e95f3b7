/-
What the worker asks of the store, and how each question travels: `StoreQuery.request` gives
method, path and payload, `StoreQuery.decode` reads the outcome. Names of channels, triggers,
titles and users in paths are single segments, whatever characters they hold; what a payload
carries goes as it is.
-/
import ChannelBot.Command
import ChannelBot.Fault
import ChannelBot.Http
import ChannelBot.Text.Percent

namespace ChannelBot

/-- The sigil of a channel for which none is set. -/
def defaultSigil : String := "!"

/-- A question to the store. -/
inductive StoreQuery where
  | botConfig
  | updateBotTokens (access refresh expiresAt scopes : Value)
  | pushLog (level message metadata : Value)
  | channels
  | addChannel (channel sigil : Value)
  | removeChannel (channel : String)
  | sigilOf (channel : String)
  | command (trigger channel : String)
  | commands (channel : String)
  | addCommand (trigger body : Value) (channel : String) (permission : Value)
  | deleteCommand (trigger channel : String)
  | redeem (title channel : String)
  | addRedeem (title action : Value) (channel : String)
  | deleteRedeem (title channel : String)
  | addTarget (channel user : String)
  | isProtected (channel user : String)
  | setProtection (channel user : String) (guarded : Bool) (completed : Value)
  | spotifyTokens (channel : String)
  | refreshTokens
  | updateSpotifyToken (channel : String) (access expiresAt refresh : Value)
  deriving Repr

/-- A request to the store: method, path and payload. -/
structure StoreRequest where
  method : String
  path : String
  payload : Option Value
  deriving Repr

namespace StoreQuery

/-- The path of a channel. -/
def channelPath (channel : String) : String := "/channels/" ++ Percent.encode channel

/-- The path of a thing that belongs to a channel. -/
def itemPath (channel kind item : String) : String :=
  channelPath channel ++ "/" ++ kind ++ "/" ++ Percent.encode item

/-- How a question is put. -/
def request : StoreQuery → StoreRequest
  | .botConfig => ⟨"GET", "/bot/config", none⟩
  | .updateBotTokens access refresh expiresAt scopes =>
    ⟨"POST", "/bot/config/tokens", some (.obj
      [("access_token", access), ("refresh_token", refresh),
       ("expires_at", expiresAt), ("scopes", scopes)])⟩
  | .pushLog level message metadata =>
    ⟨"POST", "/bot/logs", some (.obj
      [("level", level), ("message", message), ("metadata", metadata.orElse (.obj [])),
       ("source", .str "bot")])⟩
  | .channels => ⟨"GET", "/channels", none⟩
  | .addChannel channel sigil =>
    ⟨"POST", "/channels", some (.obj (("channel_name", channel) ::
      if sigil.holds then [("prefix", sigil)] else []))⟩
  | .removeChannel channel => ⟨"DELETE", channelPath channel, none⟩
  | .sigilOf channel => ⟨"GET", channelPath channel, none⟩
  | .command trigger channel => ⟨"GET", itemPath channel "commands" trigger, none⟩
  | .commands channel => ⟨"GET", channelPath channel ++ "/commands", none⟩
  | .addCommand trigger body channel permission =>
    ⟨"POST", channelPath channel ++ "/commands", some (.obj
      [("trigger", trigger), ("body", body), ("permission", permission)])⟩
  | .deleteCommand trigger channel => ⟨"DELETE", itemPath channel "commands" trigger, none⟩
  | .redeem title channel => ⟨"GET", itemPath channel "redeems" title, none⟩
  | .addRedeem title action channel =>
    ⟨"POST", channelPath channel ++ "/redeems", some (.obj
      [("title", title), ("action", action)])⟩
  | .deleteRedeem title channel => ⟨"DELETE", itemPath channel "redeems" title, none⟩
  | .addTarget channel user => ⟨"POST", itemPath channel "hitman" user, none⟩
  | .isProtected channel user => ⟨"GET", itemPath channel "hitman" user, none⟩
  | .setProtection channel user guarded completed =>
    ⟨"PUT", itemPath channel "hitman" user, some (.obj (("protected", .bool guarded) ::
      match completed with
      | .null => []
      | v => [("completed", v)]))⟩
  | .spotifyTokens channel => ⟨"GET", channelPath channel ++ "/spotify", none⟩
  | .refreshTokens => ⟨"GET", "/spotify/refresh_tokens", none⟩
  | .updateSpotifyToken channel access expiresAt refresh =>
    ⟨"PUT", channelPath channel ++ "/spotify/token", some (.obj
      ([("access_token", access), ("expires_at", expiresAt)] ++
        if refresh.holds then [("refresh_token", refresh)] else []))⟩

/-- What the answer to a question is. -/
def Result : StoreQuery → Type
  | .command .. => Option Command
  | .isProtected .. => Bool
  | _ => Value

/-- The reason that an answer with an error status gives: its `detail` field or, failing that,
its whole content; a list of reasons is joined. -/
def reason (q : StoreRequest) (r : HttpResponse) : String :=
  let ofJson : Value :=
    if Text.startsWith "application/json" r.contentType then
      match Json.read r.body with
      | .ok data => match data.field? "detail" with
        | some detail => detail
        | none => data.orElse (.str "")
      | .error _ => .str ""
    else .str ""
  let detail := if ofJson.holds then ofJson else .str r.body
  let text := match detail with
    | .list items => String.intercalate ", " (items.map Value.display)
    | v => v.display
  if text.isEmpty then q.method ++ " " ++ q.path ++ " failed" else text

/-- The content of the outcome of a request. -/
def content (q : StoreRequest) : HttpOutcome → Except Fault Value
  | .failed m => .error (.store ⟨0, q.method ++ " " ++ q.path ++ ": " ++ m, some (.line m)⟩)
  | .timedOut => .error .timeout
  | .answered r =>
    if r.status ≥ 400 then .error (.store ⟨r.status, reason q r, none⟩)
    else if Text.startsWith "application/json" r.contentType then
      (Json.read r.body).mapError (.json r.body)
    else .ok (.str r.body)

/-- Turns a missing thing into a result. -/
def orMissing {α : Type} (dflt : α) (read : Value → Except Fault α) :
    Except Fault Value → Except Fault α
  | .ok v => read v
  | .error (.store f) => if f.isMissing then .ok dflt else .error (.store f)
  | .error f => .error f

/-- The command in a row of the store. -/
def readCommand (channel : String) (row : Value) : Except Fault (Option Command) := do
  let level ← match row with
    | .obj fields => pure ((Value.lookup? "permission" fields).getD (.str "all"))
    | v => throw (.shape (.noOperation v.shape "get"))
  let permission ← match Permission.ofValue level with
    | .ok p => pure p
    | .error m => throw (.store ⟨500, m, some (.value m)⟩)
  let trigger ← (row.member "trigger").mapError .shape
  let body ← (row.member "body").mapError .shape
  return some ⟨trigger, channel, permission, body, .custom⟩

/-- Reads the outcome of a question. -/
def decode (q : StoreQuery) (o : HttpOutcome) : Except Fault q.Result :=
  let c := content q.request o
  match q with
  | .sigilOf _ =>
    orMissing (.str defaultSigil) (fun row => do
      return (← (row.get "prefix").mapError .shape).orElse (.str defaultSigil)) c
  | .command _ channel => orMissing none (readCommand channel) c
  | .redeem .. =>
    orMissing .null (fun row => (row.get "action").mapError .shape) c
  | .isProtected .. =>
    orMissing false (fun row => do
      return (← (row.get "protected").mapError .shape).holds) c
  | .botConfig => c
  | .updateBotTokens .. => c
  | .pushLog .. => c
  | .channels => c
  | .addChannel .. => c
  | .removeChannel _ => c
  | .commands _ => c
  | .addCommand .. => c
  | .deleteCommand .. => c
  | .addRedeem .. => c
  | .deleteRedeem .. => c
  | .addTarget .. => c
  | .setProtection .. => c
  | .spotifyTokens _ => c
  | .refreshTokens => c
  | .updateSpotifyToken .. => c

end StoreQuery

/-- The interface of the store. -/
abbrev storeAnswer (q : StoreQuery) : Type := Except Fault q.Result

end ChannelBot
