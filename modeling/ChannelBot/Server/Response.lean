/-
Answers of the backend: a status and a body of one of a few forms.
-/
import ChannelBot.Http
import ChannelBot.Server.Validation
import ChannelBot.Value.Write

namespace ChannelBot.Server

/-- The body of an answer. -/
inductive Body where
  | json (v : Value)
  | page (html : String)
  | plain (text : String)
  | redirect (location : String)
  | invalid (violations : List Violation)
  /-- An open stream of events, for the listener of this number. -/
  | events (listener : Nat)
  deriving Repr

/-- An answer. -/
structure Response where
  status : Nat
  body : Body
  deriving Repr

namespace Response

/-- Success, with a value. -/
def ok (v : Value) : Response := ⟨200, .json v⟩

/-- Success, with nothing else to say. -/
def done : Response := ok (.obj [("success", .bool true)])

/-- A refusal that gives its reason. -/
def refusal (status : Nat) (reason : String) : Response :=
  ⟨status, .json (.obj [("detail", .str reason)])⟩

/-- There is no such thing. -/
def missing (reason : String) : Response := refusal 404 reason

/-- There is such a thing already. -/
def taken (reason : String) : Response := refusal 409 reason

/-- A report of the rules that a request breaks. -/
def invalid (violations : List Violation) : Response := ⟨422, .invalid violations⟩

/-- The request failed for a reason that is not told. -/
def crash : Response := ⟨500, .plain "Internal Server Error"⟩

/-- The request breaks rules. A number that JSON cannot write makes the report fail. -/
def ofViolations (violations : List Violation) : Response :=
  if violations.all (·.given.isWritable) then invalid violations else crash

/-- A change of address that keeps the method. -/
def redirect (location : String) : Response := ⟨307, .redirect location⟩

/-- The answer as it travels. -/
def http (r : Response) : HttpResponse :=
  match r.body with
  | .json v => ⟨r.status, "application/json", v.write Value.compact⟩
  | .page html => ⟨r.status, "text/html; charset=utf-8", html⟩
  | .plain text => ⟨r.status, "text/plain; charset=utf-8", text⟩
  | .redirect _ => ⟨r.status, "", ""⟩
  | .invalid vs =>
    ⟨r.status, "application/json",
      (Value.obj [("detail", .list (vs.map Violation.toValue))]).write Value.compact⟩
  | .events _ => ⟨r.status, "text/event-stream; charset=utf-8", ""⟩

end Response

end ChannelBot.Server
