/-
Handling one redemption: find the channel, fetch the action for the reward's title, run it for
the redeeming user, and say what it answers. A failure on the way ends it in silence.
-/
import ChannelBot.Attempt
import ChannelBot.Text.Blank

namespace ChannelBot.Redemption

/-- What the handling of a redemption asks its surroundings. -/
inductive Query where
  /-- The login of a channel by its id. -/
  | login (channelId : String)
  /-- The action for a reward's title in a channel. -/
  | action (title : Value) (channel : String)
  /-- Running an action for a user. -/
  | run (body : Value) (args : List String) (channel : String) (user : Value)
  | say (channel : String) (text : Value)

/-- The answers. -/
abbrev Answer : Query → Type
  | .login _ => Except Fault (Option String)
  | .action .. => Except Fault Value
  | .run .. => Except Fault Value
  | .say .. => Except Fault Unit

/-- The surroundings of a redemption. -/
abbrev surroundings : Interface := ⟨Query, Answer⟩

/-- Asks for the login of a channel. -/
def askLogin (channelId : String) : Attempt surroundings (Option String) :=
  .of (Dialogue.query (I := surroundings) (.login channelId))

/-- Asks for the action for a reward; null stands for none. -/
def askAction (title : Value) (channel : String) : Attempt surroundings Value :=
  .of (Dialogue.query (I := surroundings) (.action title channel))

/-- Runs an action. -/
def runAction (body : Value) (args : List String) (channel : String) (user : Value) :
    Attempt surroundings Value :=
  .of (Dialogue.query (I := surroundings) (.run body args channel user))

/-- Says something in a channel. -/
def say (channel : String) (text : Value) : Attempt surroundings Unit :=
  .of (Dialogue.query (I := surroundings) (.say channel text))

/-- A text, unless it is empty. -/
def filled? : Option String → Option String
  | some s => if s.isEmpty then none else some s
  | none => none

/-- The login of a channel: from the table of known ids, or by asking. -/
def channelLogin (known : List (String × String)) (channelId : String) :
    Attempt surroundings (Option String) :=
  match filled? (known.lookup channelId) with
  | some login => pure (some login)
  | none => do return filled? (← askLogin channelId)

/-- The arguments that the user gives: the words of the input, if the reward asks for one. -/
def arguments (reward details : Value) : Except ShapeFault (List String) := do
  if (← reward.get "is_user_input_required").holds then
    match (← details.get "user_input").orElse (.str "") with
    | .str s => return Text.words s
    | v => throw (.noOperation v.shape "split")
  else return []

/-- The channel and the text that the action for a redemption answers, if it does. -/
def answer (known : List (String × String)) (channelId : String) (reward details title user : Value) :
    Attempt surroundings (Option (String × Value)) := do
  match ← channelLogin known channelId with
  | none => return none
  | some channel =>
    match ← askAction title channel with
    | .null => return none
    | body =>
      let args ← Attempt.ofExcept ((arguments reward details).mapError .shape)
      let text ← runAction body args channel user
      return if text.holds then some (channel, text) else none

/-- Handles a redemption in the channel of an id. -/
def handle (known : List (String × String)) (channelId : String) (details : Value) :
    Attempt surroundings Unit := do
  let shaped := fun {α : Type} (x : Except ShapeFault α) =>
    (Attempt.ofExcept (x.mapError .shape) : Attempt surroundings α)
  let reward := (← shaped (details.get "reward")).orElse (.obj [])
  let title ← shaped (reward.get "title")
  let user := (← shaped (details.get "user")).orElse (.obj [])
  let user := (← shaped (user.get "login")).orElse (.str "")
  if title.holds then
    match ← Attempt.sure (answer known channelId reward details title user).outcome with
    | .ok (some (channel, text)) => say channel text
    | _ => return

end ChannelBot.Redemption
