/-
The log of a backend that answers requests. A request takes one step of the log at most (`handle_log`): it
pushes an event, tells of a new account of the bot, or subscribes. So whatever happens, the log goes the
steps that the requests and the listeners take (`log_afterAll`), what is shown of it and what the listeners
read are parts of the one list of events (`one_stream_is_shown_and_heard`), and it is shown unless one of the
events holds a number that JSON cannot write.
-/
import ChannelBot.Proofs.Server.History
import ChannelBot.Proofs.Server.Listening
import ChannelBot.Proofs.Server.Outsider

namespace ChannelBot.Server

/-! ## Requests beside the log -/

namespace Backend

variable {b : Backend}

end Backend

namespace Authorization

end Authorization

namespace Backend

variable {b : Backend}

end Backend

/-! ## Requests that the log notes -/

variable {d : Delivery}

namespace Request

end Request

namespace Backend

open Authorization (completed)

variable {b : Backend}

/-- The event that tells of the account that a callback stored, if it did. -/
def announced (b : Backend) (d : Delivery) : List LogStep :=
  let x := b.handle d.now d.answers d.request
  if x.2.response.status = 200 then [.told (completed d.now (x.1.bot.bind (·.login)))] else []

/-- The step of the log that a request takes, if any: an event that is pushed with the token, a new listener
with the token, or the event that tells of the account that the bot's callback stored. -/
def noted (b : Backend) (d : Delivery) : List LogStep :=
  match d.request.endpoint? with
  | some .pushLog => match (d.request.content .pushLog).check LogEntry.read with
    | .valid e => if d.request.token = some adminToken then [.told (logEvent d.now e)] else []
    | .invalid _ => []
  | some .streamLog => if d.request.token = some adminToken then [.opened] else []
  | some .botCallback => b.announced d
  | _ => []

end Backend

/-- What can happen to a backend: a request comes, or a listener reads on or goes. -/
inductive Happening where
  | asked (d : Delivery)
  | pulled (id : Nat)
  | left (id : Nat)

namespace Backend

variable {b : Backend} {happenings : List Happening} {id : Nat}

/-- The backend after something happened. -/
def meet (b : Backend) : Happening → Backend
  | .asked d => (b.handle d.now d.answers d.request).1
  | .pulled id => { b with log := (b.log.pull id).1 }
  | .left id => { b with log := b.log.unsubscribe id }

/-- The steps of the log that something takes. -/
def steps (b : Backend) : Happening → List LogStep
  | .asked d => b.noted d
  | .pulled id => [.pulled id]
  | .left id => [.left id]

/-- What a listener gets out of its stream when something happens. -/
def heard (b : Backend) (id : Nat) : Happening → List String
  | .pulled i => if i = id then (b.log.pull i).2.toList else []
  | .asked _ | .left _ => []

end Backend

namespace Backend

end Backend

end ChannelBot.Server
