/-
What all providers have in common: the outcome of a request is read as a status and a value,
and a failed connection is the provider's own fault.
-/
import ChannelBot.Fault
import ChannelBot.Http
import ChannelBot.Text.Blank

namespace ChannelBot.Exchange

/-- Whether a text holds another one. -/
def holdsText (part : List Char) : List Char → Bool
  | [] => part.isEmpty
  | c :: r => part.isPrefixOf (c :: r) || holdsText part r

/-- The status and content of an outcome: nothing for status 204, a JSON value if the content
type says so, else text. -/
def read (provider : Provider) : HttpOutcome → Except Fault (Int × Value)
  | .failed m =>
    .error (.provider (.reported provider (if m.isEmpty then "ClientError" else m)))
  | .timedOut => .error (.provider (.reported provider "TimeoutError"))
  | .answered r =>
    if r.status == 204 then .ok (r.status, .null)
    else if holdsText "json".toList r.contentType.toList then
      match Json.read r.body with
      | .ok v => .ok (r.status, v)
      | .error e => .error (.json r.body e)
    else .ok (r.status, .str r.body)

end ChannelBot.Exchange
