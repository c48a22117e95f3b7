/-
The connection to the event stream. It looks up its topics, connects, listens until the
connection ends, waits a little, and begins again, until it is stopped.
-/
import ChannelBot.Stream.Frame
import ChannelBot.Text.Case
import ChannelBot.Text.Order
import ChannelBot.Time.Calendar

namespace ChannelBot.Stream

/-- Where the connection stands. -/
inductive Standing where
  | disconnected
  | connecting
  | subscribed
  | listening
  deriving Repr, DecidableEq

/-- The name of a standing. -/
def Standing.name : Standing → String
  | .disconnected => "disconnected"
  | .connecting => "connecting"
  | .subscribed => "subscribed"
  | .listening => "listening"

/-- How long to wait before a new connection. -/
def reconnectDelay : Nat := 5 * Moment.second

/-- How long it takes from one sign of life to the next. -/
def heartbeat : Nat := 60 * Moment.second

/-- The address of the stream. -/
def address : String := "wss://pubsub-edge.twitch.tv"

/-- The connection: whether it is run at all, the topics it asked for, the login of each channel
id, whether it is open, and when it connects again or gives its next sign of life. -/
structure Client where
  standing : Standing := .disconnected
  running : Bool := false
  topics : List String := []
  known : List (String × String) := []
  isOpen : Bool := false
  connectAt : Option Nat := none
  beatAt : Option Nat := none
  deriving Repr, DecidableEq

/-- The logins to look up, each once and in order. -/
def loginsToResolve (joined : List String) : List String :=
  Text.sorted ((joined.filter (!·.isEmpty)).map Text.lower).eraseDups

/-- The login of each id; a later one replaces an earlier one. -/
def knownIds (ids : List (String × String)) : List (String × String) :=
  ids.foldl (fun known (login, id) =>
    if known.any (·.1 == id) then known.map fun e => if e.1 == id then (id, login) else e
    else known ++ [(id, login)]) []

/-- The topics of channels, in the order of their ids. -/
def topicsOf (known : List (String × String)) : List String :=
  (Text.sorted (known.map (·.1))).map channelTopic

namespace Client

/-- Begins to run, unless it does. -/
def start (c : Client) (now : Nat) : Client :=
  if c.running then c else { c with running := true, connectAt := some now }

/-- Ends for good. -/
def stop (c : Client) : Client :=
  { c with
    standing := .disconnected, running := false, isOpen := false, connectAt := none
    beatAt := none }

/-- The topics are looked up. -/
def resolving (c : Client) : Client := { c with standing := .connecting, connectAt := none }

/-- The topics that were found. -/
def resolved (c : Client) (ids : List (String × String)) : Client :=
  let known := knownIds ids
  { c with known := known, topics := topicsOf known }

/-- The connection is there. -/
def opened (c : Client) (now : Nat) : Client :=
  { c with standing := .listening, isOpen := true, beatAt := some (now + heartbeat) }

/-- The connection has ended, or did not come about: it is tried again later. -/
def ended (c : Client) (now : Nat) : Client :=
  { c with
    standing := .disconnected, isOpen := false, beatAt := none
    connectAt := some (now + reconnectDelay) }

end Client

end ChannelBot.Stream
