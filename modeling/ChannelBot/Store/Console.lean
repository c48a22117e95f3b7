/-
What the worker tells the console: log entries that it hands to the store. A store that does
not take an entry is of no account.
-/
import ChannelBot.Store.Query
import ChannelBot.Value.Equal

namespace ChannelBot

/-- Something worth telling, with the event that it belongs to. -/
structure Notice where
  level : String
  message : String
  event : String
  details : List (String × Value) := []
  deriving Repr, DecidableEq

namespace Notice

/-- How a notice is handed to the store. -/
def query (n : Notice) : StoreQuery :=
  .pushLog (.str n.level) (.str n.message) (.obj (n.details ++ [("event", .str n.event)]))

/-- What comes of a notice: only a failure that is not the store's own. -/
def heard {α : Type} : Except Fault α → Except Fault Unit
  | .ok _ | .error (.store _) => .ok ()
  | .error f => .error f

end Notice

end ChannelBot
