/-
The bodies that requests carry: what each kind of request has to say and what it may leave out.
-/
import ChannelBot.Server.Validation
import ChannelBot.Store.Query
import ChannelBot.Text.Units

namespace ChannelBot.Server

/-- The body of a request as far as it can be read without knowing what it should say. -/
inductive Content where
  | none
  | broken
  /-- Bytes that are no text, or a number with too many digits. -/
  | unreadable
  | value (v : Value)
  deriving Repr

/-- Reads the body of a request; an order mark at its start is no part of it. -/
def Content.read : Option String → Content
  | Option.none => .none
  | some body =>
    if body.isEmpty then .none
    else match Units.decode? (Utf8.encode body.toList) with
      | Option.none => .unreadable
      | some text =>
        match Json.read (.ofList (if text.head? == some '\ufeff' then text.drop 1 else text)) with
        | .ok v => .value v
        | .error (.tooLong _) => .unreadable
        | .error _ => .broken

/-- Reads the fields of a body. -/
def Content.check {α : Type} (read : List (String × Value) → Checked α) (c : Content) :
    Checked α :=
  Checked.under (.field "body") <| match c with
    | .value (.obj fields) => read fields
    | .value v => Checked.broken .object v
    | _ => Checked.broken .present .null

/-- A channel to register. -/
structure NewChannel where
  name : String
  sigil : String
  deriving Repr, DecidableEq

/-- The most characters that a sigil may have. -/
def sigilLimit : Nat := 8

/-- Reads a channel to register. -/
def NewChannel.read (body : List (String × Value)) : Checked NewChannel :=
  ((Checked.required "channel_name" Checked.filledText body).map NewChannel.mk).also
    (Checked.optional "prefix" defaultSigil (Checked.shortText sigilLimit) body)

/-- Reads the sigil to set for a channel. -/
def readSigil (body : List (String × Value)) : Checked String :=
  Checked.required "prefix" (Checked.shortText sigilLimit) body

/-- A command to add. -/
structure NewCommand where
  trigger : String
  body : String
  permission : Permission
  deriving Repr, DecidableEq

/-- Reads a command to add. -/
def NewCommand.read (body : List (String × Value)) : Checked NewCommand :=
  (((Checked.required "trigger" Checked.filledText body).map NewCommand.mk).also
    (Checked.required "body" Checked.filledText body)).also
    (Checked.optional "permission" .everyone Checked.permission body)

/-- A redemption to react to. -/
structure NewRedeem where
  title : String
  action : String
  deriving Repr, DecidableEq

/-- Reads a redemption to react to. -/
def NewRedeem.read (body : List (String × Value)) : Checked NewRedeem :=
  ((Checked.required "title" Checked.filledText body).map NewRedeem.mk).also
    (Checked.required "action" Checked.filledText body)

/-- What to set for a target. -/
structure TargetChange where
  guarded : Bool
  completed : Option Bool
  deriving Repr, DecidableEq

/-- Reads what to set for a target. -/
def TargetChange.read (body : List (String × Value)) : Checked TargetChange :=
  ((Checked.required "protected" Checked.truth body).map TargetChange.mk).also
    (Checked.optional "completed" none (Checked.orNull Checked.truth) body)

/-- A new access token of the music service, its expiry, and a new refresh token if there is
one. -/
structure MusicTokens where
  access : String
  expiresAt : Option Timestamp
  refresh : Option String
  deriving Repr, DecidableEq

/-- Reads new tokens of the music service. -/
def MusicTokens.read (body : List (String × Value)) : Checked MusicTokens :=
  (((Checked.required "access_token" Checked.text body).map MusicTokens.mk).also
    (Checked.optional "expires_at" none (Checked.orNull Checked.time) body)).also
    (Checked.optional "refresh_token" none (Checked.orNull Checked.text) body)

/-- The parts of the bot's configuration to change. -/
structure BotChange where
  enabled : Option Bool
  scopes : Option (List String)
  displayName : Option String
  login : Option String
  botUserId : Option String
  deriving Repr, DecidableEq

/-- Reads the parts of the bot's configuration to change. -/
def BotChange.read (body : List (String × Value)) : Checked BotChange :=
  (((((Checked.optional "enabled" none (Checked.orNull Checked.truth) body).map
      BotChange.mk).also
    (Checked.optional "scopes" none (Checked.orNull Checked.texts) body)).also
    (Checked.optional "display_name" none (Checked.orNull Checked.text) body)).also
    (Checked.optional "login" none (Checked.orNull Checked.text) body)).also
    (Checked.optional "bot_user_id" none (Checked.orNull Checked.text) body)

/-- New tokens of the bot. -/
structure BotTokens where
  access : String
  refresh : String
  expiresAt : Option Timestamp
  scopes : List String
  deriving Repr, DecidableEq

/-- Reads new tokens of the bot. -/
def BotTokens.read (body : List (String × Value)) : Checked BotTokens :=
  ((((Checked.required "access_token" Checked.text body).map BotTokens.mk).also
    (Checked.required "refresh_token" Checked.text body)).also
    (Checked.optional "expires_at" none (Checked.orNull Checked.time) body)).also
    (Checked.optional "scopes" [] Checked.texts body)

/-- An event to log. -/
structure LogEntry where
  message : String
  level : String
  source : Option String
  timestamp : Option Timestamp
  metadata : Option (List (String × Value))
  deriving Repr

/-- Reads an event to log. -/
def LogEntry.read (body : List (String × Value)) : Checked LogEntry :=
  (((((Checked.required "message" Checked.text body).map LogEntry.mk).also
    (Checked.optional "level" "info" Checked.text body)).also
    (Checked.optional "source" none (Checked.orNull Checked.text) body)).also
    (Checked.optional "timestamp" none (Checked.orNull Checked.time) body)).also
    (Checked.optional "metadata" none (Checked.orNull Checked.fields) body)

end ChannelBot.Server
