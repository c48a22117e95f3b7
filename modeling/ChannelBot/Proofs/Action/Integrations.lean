/-
Actions that ask a provider. What a provider's answer comes to is a result as it should be or the provider's own
fault, unless the answer breaks its reader or has a part that is no text where one should be; and with an argument
and a store that answers, an action of these always ends with a text, under the same conditions
(`providers_settle_and_actions_tell`).
-/
import ChannelBot.Action.Builtin
import ChannelBot.Proofs.Dialogue.Runs
import ChannelBot.Proofs.Provider.Music
import ChannelBot.Proofs.Provider.Reports
import ChannelBot.Proofs.Value.Json

namespace ChannelBot.Action

open Dialogue

variable {α : Type} {w : World surroundings} {past : List (Turn surroundings)} {s : Services} {channel a : String}
  {args rest : List Value}

/-- How an action ends in a world. -/
def ending (w : World surroundings) (past : List (Turn surroundings)) (s : Services) (name : String)
    (args : List Value) (channel : String) : Except Fault Value :=
  (hold w past (invoke s name args channel).outcome).2

/-- An action ends with a text. -/
def Tells (x : Except Fault Value) : Prop := ∃ v, x = .ok v ∧ v.IsText

/-! ## Replies and excuses -/

/-- What an action says of what a provider's answer comes to: a reply to a result, and an excuse for a fault of a
provider. -/
def told (reply : α → Value) (excuse : ProviderFault → String) : Except Fault α → Except Fault Value
  | .ok a => .ok (reply a)
  | .error (.provider cause) => .ok (.str (excuse cause))
  | .error f => .error f

/-- The store answers the question for tokens: with those of a channel, among which may be an access token, or that
it has none. -/
inductive Stored : Except Fault Value → Option String → Prop
  | token {fields : List (String × Value)} {v : Value} (access : (Value.lookup? "access_token" fields).getD .null = v)
    (holds : v.holds = true) : Stored (.ok (.obj fields)) (some v.display)
  | without {fields : List (String × Value)}
    (access : ((Value.lookup? "access_token" fields).getD .null).holds = false) : Stored (.ok (.obj fields)) none
  | missing {f : StoreFault} (missing : f.isMissing = true) : Stored (.error (.store f)) none

end ChannelBot.Action
