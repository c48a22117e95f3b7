/-
Messages of the queue handed to the chat platform. A raw line that orders a time-out is carried
out as one; all else is sent as a message.
-/
import ChannelBot.Bot.Membership
import ChannelBot.Number.Integer

namespace ChannelBot.Bot

/-- The start of an order to silence a user. -/
def timeoutLead : String := "/timeout "

/-- How many seconds an order lasts that does not say. -/
def timeoutSeconds : Int := 600

/-- The user and the seconds of an order to silence someone. -/
def readTimeout (order : String) : Except Fault (String × Int) :=
  match Text.words order with
  | _ :: user :: seconds :: _ => match Number.readInt seconds with
    | .ok n => .ok (user, n)
    | .error _ => .error (.shape (.badInteger seconds))
  | [_, user] => .ok (user, timeoutSeconds)
  | _ => .error (.shape (.tooShort .list))

/-- Silences a user in a channel. -/
def silence (channelId login order : String) : Program Unit := do
  let (user, seconds) ← Attempt.ofExcept (readTimeout order)
  let id ← userId user
  platform (ask (.silence channelId login id seconds))
  tell "info"
    ("Timed out " ++ user ++ " in " ++ login ++ " for " ++ toString seconds ++ "s") "moderation"
    [("channel", .str login), ("user", .str user)]

/-- Sends a text to a channel, as an answer to a message if one is given. -/
def sendText (channelId login : String) (text : Value) (replyTo : Option String) :
    Program Unit := do
  match (← ask (.sendMessage channelId login text replyTo) : Except String Unit) with
  | .ok _ =>
    tell "info" ("Sent message to " ++ login) "message"
      [("channel", .str login), ("sent_text", text)]
  | .error words =>
    tell "error" ("Failed to send message to " ++ login ++ ": " ++ words) "message"
      [("channel", .str login), ("error", .str words)]
    .fail (.transport (.refused words))

/-- The id of a channel, joined or not. -/
def channelId (login : String) : Program String := do
  let m ← remember
  match m.channelIds.lookup login with
  | some id => if id.isEmpty then userId login else return id
  | none => userId login

/-- Delivers a message. -/
def deliver (m : Outgoing) : Program Unit := do
  let login := Text.lower m.channel
  let id ← channelId login
  match m with
  | .raw _ text =>
    let order ← Attempt.ofExcept (text.needText "startswith")
    if Text.startsWith timeoutLead order then silence id login order
    else sendText id login text none
  | .say _ text => sendText id login text none
  | .reply text heard => sendText id login text heard.id

/-- Starts a commercial break in a channel. -/
def startCommercial (channel : String) (seconds : Int) : Program Unit := do
  let login := Text.lower channel
  let id ← userId login
  platform (ask (.commercial id login seconds))

end ChannelBot.Bot
