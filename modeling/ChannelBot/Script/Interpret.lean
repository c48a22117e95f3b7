/-
Running a body. It is compiled as a whole before the first action runs, so a faulty body has no
effect at all; then its steps run in order, and their texts are joined.
-/
import ChannelBot.Script.Compile

namespace ChannelBot.Script

/-- What the steps put out, in order; an action whose answer counts as nothing adds nothing. -/
def runSteps {m : Type → Type} [Monad m] (invoke : String → List Value → m Value) :
    List Step → m (List Value)
  | [] => pure []
  | .emit text :: rest => do
    let pieces ← runSteps invoke rest
    return .str text :: pieces
  | .invoke action args :: rest => do
    let answer ← invoke action args
    let pieces ← runSteps invoke rest
    return if answer.holds then answer :: pieces else pieces

/-- The text that pieces make together, all of which must be texts. -/
def joined (pieces : List Value) : Except Fault String :=
  match Value.texts 0 pieces with
  | .ok texts => .ok (String.join texts)
  | .error f => .error (.shape f)

/-- A text, unless it is empty. -/
def nonempty? (s : String) : Option String := if s.isEmpty then none else some s

/-- Runs a body: `fail` reports why it cannot be run, `invoke` runs an action. -/
def interpret {m : Type → Type} [Monad m] (fail : {α : Type} → Fault → m α)
    (invoke : String → List Value → m Value) (body : Value) (call : Call) :
    m (Option String) :=
  match bodyText body >>= fun text => compile text call with
  | .error e => fail e
  | .ok steps => do
    match joined (← runSteps invoke steps) with
    | .error e => fail e
    | .ok text => return nonempty? text

end ChannelBot.Script
