/-
Messages on their way to chat.
-/
import ChannelBot.Value.Equal

namespace ChannelBot

/-- A message of chat, as far as an answer to it needs to know. -/
structure Heard where
  id : Option String
  channel : Option String
  deriving Repr, DecidableEq

/-- A message on its way to chat. What it says is a text, unless a stored command shows
something else. -/
inductive Outgoing where
  | say (channel : String) (text : Value)
  | reply (text : Value) (heard : Heard)
  /-- A line that chat takes as an order. -/
  | raw (channel : String) (text : Value)
  deriving Repr, DecidableEq

namespace Outgoing

/-- The channel that a message goes to; a reply goes where the line that it answers came from. -/
def channel : Outgoing → String
  | .say c _ | .raw c _ => c
  | .reply _ heard => heard.channel.getD ""

/-- What a message says. -/
def text : Outgoing → Value
  | .say _ t | .raw _ t | .reply t _ => t

/-- The name of a kind of message. -/
def kindName : Outgoing → String
  | .say .. => "Say"
  | .reply .. => "Reply"
  | .raw .. => "Raw"

end Outgoing

end ChannelBot
