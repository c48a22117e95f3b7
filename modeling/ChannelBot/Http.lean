/-
Requests and their outcomes, as the clients of the store and of the providers see them.
-/
import ChannelBot.Value.Read

namespace ChannelBot

/-- A request. The address is the one handed to the transport; query and form parameters stand
apart from it. -/
structure HttpRequest where
  method : String
  url : String
  headers : List (String × String) := []
  query : List (String × Value) := []
  form : List (String × Value) := []
  payload : Option Value := none
  /-- User name and password. -/
  credentials : Option (String × String) := none
  /-- How many seconds to wait for an answer. -/
  patience : Option Nat := none
  deriving Repr

/-- An answer with a status. -/
structure HttpResponse where
  status : Int
  contentType : String
  body : String
  deriving Repr, DecidableEq

/-- What came of a request. -/
inductive HttpOutcome where
  | answered (r : HttpResponse)
  /-- The connection failed, with this message. -/
  | failed (message : String)
  | timedOut
  deriving Repr, DecidableEq

end ChannelBot
