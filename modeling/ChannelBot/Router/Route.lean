/-
From a line of chat to its effects: the sigil of the channel, the command that the line calls,
the gate, and what the command does. A line that calls nothing, or an unknown command, has no
effect.
-/
import ChannelBot.Action.Builtin
import ChannelBot.Line
import ChannelBot.Messages.Catalogue
import ChannelBot.Script.Interpret
import ChannelBot.Value.Order

namespace ChannelBot.Router

/-- What routing asks its surroundings. -/
inductive Query where
  | store (q : StoreQuery)
  /-- Runs an action of the registry. -/
  | act (name : String) (args : List Value) (channel : String)
  | join (login : String)
  | part (login : String)
  | enqueue (m : Outgoing)
  /-- The remembered sigil of a channel. -/
  | sigil (channel : String)
  | keepSigil (channel : String) (sigil : Value)
  | dropSigil (channel : String)

/-- The answers. -/
abbrev Answer : Query → Type
  | .store q => storeAnswer q
  | .act .. => Except Fault Value
  | .join _ => Except Fault Unit
  | .part _ => Except Fault Unit
  | .enqueue _ => Unit
  | .sigil _ => Option Value
  | .keepSigil .. => Unit
  | .dropSigil _ => Unit

/-- The surroundings of routing. -/
abbrev surroundings : Interface := ⟨Query, Answer⟩

/-- A piece of routing. -/
abbrev Routing (α : Type) : Type := Attempt surroundings α

/-- Asks the store. -/
def askStore (q : StoreQuery) : Routing q.Result :=
  .of (Dialogue.query (I := surroundings) (.store q))

/-- Runs an action. -/
def act (channel name : String) (args : List Value) : Routing Value :=
  .of (Dialogue.query (I := surroundings) (.act name args channel))

/-- Puts a message into the queue. -/
def enqueue (m : Outgoing) : Routing Unit :=
  .sure (Dialogue.query (I := surroundings) (.enqueue m))

/-- What came of a line. -/
inductive Outcome where
  | ignored
  | unknown
  | denied
  | replied
  | silent
  | error
  deriving Repr, DecidableEq

/-- The name of an outcome. -/
def Outcome.name : Outcome → String
  | .ignored => "ignored"
  | .unknown => "unknown"
  | .denied => "denied"
  | .replied => "replied"
  | .silent => "silent"
  | .error => "error"

/-- What came of a line: the outcome, the text that was answered, and the command called. -/
structure Result where
  outcome : Outcome
  text : Option Value := none
  command : Option Command := none
  deriving Repr, DecidableEq

/-- How lines are judged and answered. -/
structure Rules where
  gate : Gate
  messages : Messages
  deriving Repr

/-- The text of a message. -/
def Rules.text (r : Rules) (m : Message) (args : List (String × TemplateArg)) : Routing Value :=
  .ofExcept ((r.messages.text m args).map .str)

/-- The sigil of a channel: remembered, or from the store, or the default while the store does
not give it. -/
def loadSigil (channel : String) : Routing Value := do
  let known ← Attempt.sure (Dialogue.query (I := surroundings) (.sigil channel))
  match known.filter (·.holds) with
  | some s => return s
  | none =>
    match ← Attempt.sure (askStore (.sigilOf channel)).outcome with
    | .ok s =>
      let s : Value := s
      Attempt.sure (Dialogue.query (I := surroundings) (.keepSigil channel s))
      return s
    | .error (.store _) => return .str defaultSigil
    | .error f => .fail f

/-- The command that a trigger calls in a channel; built-in ones come first. -/
def resolve (trigger channel : String) : Routing (Option Command) :=
  match Command.builtin? trigger with
  | some c => pure (some c)
  | none => askStore (.command trigger channel)

/-- A fault that says that a thing is there already. -/
def isTaken : Fault → Bool
  | .store f => f.isTaken
  | _ => false

/-- A fault that says that a thing is not there. -/
def isMissing : Fault → Bool
  | .store f => f.isMissing
  | _ => false

/-- Whether a change in the store was made, or met what it wanted to bring about. -/
def tried {α : Type} (isMet : Fault → Bool) (x : Routing α) : Routing Bool := do
  match ← Attempt.sure x.outcome with
  | .ok _ => return true
  | .error f => if isMet f then return false else .fail f

/-- A channel as an argument names it. -/
def channelName (arg : String) : String := Text.lower (Text.dropLeading '#' arg)

/-- A text as an argument of a message. -/
def textArg (name value : String) : List (String × TemplateArg) := [(name, .text value)]

/-- Adds a command. -/
def addCommand (r : Rules) (l : Line) (channel : String) : Routing Value :=
  match Text.firstWord? l.rest with
  | none => r.text .missingArguments []
  | some (trigger, body) =>
    if body.isEmpty then r.text .missingArguments []
    else if (Command.builtin? trigger).isSome then
      r.text .commandExists (textArg "trigger" trigger)
    else do
      let query := .addCommand (.str trigger) (.str body) channel (.str Permission.everyone.name)
      if ← tried isTaken (askStore query) then r.text .commandAdded (textArg "trigger" trigger)
      else r.text .commandExists (textArg "trigger" trigger)

/-- Removes a command. -/
def deleteCommand (r : Rules) (l : Line) (channel : String) : Routing Value :=
  match l.args with
  | [] => r.text .missingCommand []
  | trigger :: _ => do
    if ← tried isMissing (askStore (.deleteCommand trigger channel)) then
      r.text .commandRemoved (textArg "trigger" trigger)
    else r.text .commandNotFound (textArg "trigger" trigger)

/-- Shows the body of a command. -/
def showCommand (r : Rules) (l : Line) (channel : String) : Routing Value :=
  match l.args with
  | [] => r.text .commandNotSpecified []
  | trigger :: _ => do
    match ← resolve trigger channel with
    | none => r.text .noSuchCommand []
    | some c => if c.isBuiltin then r.text .builtinCommand [] else return c.body

/-- Lists the commands of a channel, in order. -/
def listCommands (r : Rules) (channel : String) : Routing Value := do
  let answer : Value ← askStore (.commands channel)
  let names ← Attempt.ofExcept ((answer.elements >>= Value.sorted).mapError .shape)
  if names.isEmpty then r.text .commandListEmpty []
  else
    let texts ← Attempt.ofExcept ((Value.texts 0 names).mapError .shape)
    r.text .commandList (textArg "commands" (String.intercalate ", " texts))

/-- Registers a channel and joins it. -/
def join (r : Rules) (l : Line) : Routing Value :=
  match l.args with
  | [] => r.text .missingChannel []
  | arg :: _ => do
    let target := channelName arg
    let _ ← tried isTaken (askStore (.addChannel (.str target) .null))
    Attempt.of (Dialogue.query (I := surroundings) (.join target))
    return .null

/-- Removes a channel, or the current one, and leaves it. -/
def part (l : Line) (channel : String) : Routing Value := do
  let target := match l.args with
    | arg :: _ => channelName arg
    | [] => channel
  let _ ← tried isMissing (askStore (.removeChannel target))
  Attempt.sure (Dialogue.query (I := surroundings) (.dropSigil target))
  Attempt.of (Dialogue.query (I := surroundings) (.part target))
  return .null

/-- The two sides of the first equals sign, trimmed. -/
def sides? (s : String) : Option (String × String) :=
  match s.toList.dropWhile (· != '=') with
  | [] => none
  | _ :: after =>
    some (Text.trim (.ofList (s.toList.takeWhile (· != '='))), Text.trim (.ofList after))

/-- Adds the action for a redemption. -/
def addRedeem (r : Rules) (l : Line) (channel : String) : Routing Value :=
  match sides? l.rest with
  | none => r.text .redeemUsage []
  | some (title, body) =>
    if title.isEmpty || body.isEmpty then r.text .redeemUsage []
    else do
      if ← tried isTaken (askStore (.addRedeem (.str title) (.str body) channel)) then
        r.text .redeemAdded (textArg "title" title)
      else r.text .redeemExists (textArg "title" title)

/-- Removes the action for a redemption. -/
def deleteRedeem (r : Rules) (l : Line) (channel : String) : Routing Value :=
  let title := Text.trim l.rest
  if title.isEmpty then r.text .redeemUsage []
  else do
    if ← tried isMissing (askStore (.deleteRedeem title channel)) then
      r.text .redeemRemoved (textArg "title" title)
    else r.text .redeemNotFound (textArg "title" title)

/-- Does what a command does. What comes of it is its answer, if it counts as something. -/
def execute (r : Rules) (c : Command) (l : Line) (channel : String) (caller : Value) :
    Routing Value :=
  match c.kind with
  | .custom =>
    Value.ofText? <$>
      Script.interpret (fun e => throw (.script e)) (act channel) c.body ⟨l.args, caller⟩
  | .addCommand => addCommand r l channel
  | .deleteCommand => deleteCommand r l channel
  | .showCommand => showCommand r l channel
  | .listCommands => listCommands r channel
  | .join => join r l
  | .part => part l channel
  | .addRedeem => addRedeem r l channel
  | .deleteRedeem => deleteRedeem r l channel

/-- The message that tells of a fault. -/
def faultMessage : Fault → Message
  | .store _ | .transport _ => .storeError
  | _ => .executionError

/-- The text that tells of a fault. -/
def Rules.faultText (r : Rules) (m : Message) (f : Fault) : Routing Value :=
  r.text m [("error", .ofFault f)]

/-- Answers in a channel: to the message that was heard, if there is one. -/
def respond (channel : String) (text : Value) (heard : Option Heard) : Routing Unit :=
  enqueue (match heard with
    | some heard => .reply text heard
    | none => .say channel text)

/-- Runs a command that the gate lets through, and answers with its text. -/
def run (r : Rules) (c : Command) (l : Line) (channel caller : String)
    (heard : Option Heard) : Routing Result := do
  let (outcome, text) ← match ← Attempt.sure (execute r c l channel (.str caller)).outcome with
    | .ok text => pure (Outcome.replied, text)
    | .error f => do pure (Outcome.error, ← r.faultText (faultMessage f) f)
  if !text.holds then return ⟨.silent, none, some c⟩
  respond channel text heard
  return ⟨outcome, some text, some c⟩

/-- Routes a line of chat. -/
def route (r : Rules) (line channel caller : String) (badges : List String)
    (heard : Option Heard) : Routing Result := do
  let sigil ← loadSigil channel
  match ← Attempt.ofExcept ((Line.read sigil line).mapError .shape) with
  | none => return { outcome := .ignored }
  | some l =>
    match ← Attempt.sure (resolve l.trigger channel).outcome with
    | .error (.store f) =>
      let text ← r.faultText .storeError (.store f)
      respond channel text heard
      return { outcome := .error, text := some text }
    | .error f => .fail f
    | .ok none => return { outcome := .unknown }
    | .ok (some c) =>
      if r.gate.allows c.permission badges caller then run r c l channel caller heard
      else
        let text ← r.text .permissionDenied []
        respond channel text heard
        return ⟨.denied, some text, some c⟩

/-- Runs a body for anybody, as the action for a redemption. -/
def runCustom (r : Rules) (body : Value) (args : List String) (channel : String)
    (caller : Value) : Routing Value :=
  execute r ⟨.str "redeem", channel, .everyone, body, .custom⟩
    ⟨"redeem", args, Text.unwords args⟩ channel caller

end ChannelBot.Router
