/-
Topics of the event stream, the request that subscribes to them, and the frames that come. Most frames
are passed over; one that reports a redemption on a topic of the redemption family starts its handling,
and one that asks for a new connection ends this one.
-/
import ChannelBot.Text.Blank
import ChannelBot.Value.Access
import ChannelBot.Value.Display
import ChannelBot.Value.Read

namespace ChannelBot.Stream

/-- The family of topics that report redemptions. -/
def redemptionTopics : String := "community-points-channel-v1"

/-- The topic of a channel's redemptions. -/
def channelTopic (channelId : String) : String := redemptionTopics ++ "." ++ channelId

/-- The request to listen to topics. -/
def listenRequest (topics : List String) (token : Value) (nonce : String) : Value :=
  .obj
    [("type", .str "LISTEN"), ("nonce", .str nonce),
     ("data", .obj
       [("topics", .list (topics.map .str)), ("auth_token", token.orElse (.str ""))])]

/-- What a frame asks for. -/
inductive Frame where
  | nothing
  | reconnect
  /-- A redemption in the channel of this id. -/
  | redemption (channelId : String) (details : Value)
  deriving Repr

namespace Frame

/-- The type of the messages that report redemptions. -/
def redemptionType : String := "reward-redeemed"

/-- What follows the last dot of a topic, or the whole topic. -/
def topicId (topic : String) : String :=
  .ofList (topic.toList.reverse.takeWhile (· != '.')).reverse

/-- The topic of a message and the message in it, if the frame is well formed. -/
def message? (frame : Value) : Option (Value × Value) :=
  match frame.member "data" with
  | .error _ => none
  | .ok data =>
    match data.member "topic", data.member "message" with
    | .ok topic, .ok (.str text) => match Json.read text with
      | .ok message => some (topic, message)
      | .error _ => none
    | _, _ => none

/-- What a message on a topic asks for. -/
def ofMessage (topic message : Value) : Except ShapeFault Frame :=
  match topic with
  | .str topic =>
    if Text.startsWith redemptionTopics topic then do
      let type ← message.get "type"
      if type.text? == some redemptionType then
        let data ← message.get "data"
        let details ← (data.orElse (.obj [])).get "redemption"
        return .redemption (topicId topic) (details.orElse (.obj []))
      else return .nothing
    else return .nothing
  | v => .error (.noOperation v.shape "startswith")

/-- Reads a frame. A text that is no JSON object, or a message without topic or content, asks
for nothing; parts of the wrong shape further inside are a fault. -/
def read (text : String) : Except ShapeFault Frame :=
  match Json.read text with
  | .ok (.obj fields) =>
    match Value.lookup? "type" fields with
    | some (.str "RECONNECT") => .ok .reconnect
    | some (.str "MESSAGE") => match message? (.obj fields) with
      | some (topic, message) => ofMessage topic message
      | none => .ok .nothing
    | _ => .ok .nothing
  | _ => .ok .nothing

end Frame

end ChannelBot.Stream
