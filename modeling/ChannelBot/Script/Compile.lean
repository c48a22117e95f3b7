/-
Variables and their values. Compiling a body replaces each variable in the arguments of its
blocks by what the call gives for it; nothing that is put in is looked at again.

`$$` stands for all arguments of the call joined by spaces, `$user` for the caller, and a
dollar sign with ASCII digits for the argument of that number.
-/
import ChannelBot.Number.Integer
import ChannelBot.Script.Parse
import ChannelBot.Value.Equal

namespace ChannelBot.Script

/-- What a body is run with. The caller is a login, unless the source of the call gives
something else. -/
structure Call where
  args : List String
  caller : Value
  deriving Repr, DecidableEq

/-- A step of a compiled body: text to put out, or an action to run. -/
inductive Step where
  | emit (text : String)
  | invoke (action : String) (args : List Value)
  deriving Repr, DecidableEq

/-- Whether a text is a row of ASCII digits. -/
def isIndex (s : List Char) : Bool := !s.isEmpty && s.all Text.isAsciiDigit

/-- The value of a variable; its first character is the dollar sign. -/
def resolveVariable (token : String) (call : Call) : Except Fault Value :=
  let name := token.toList.drop 1
  if name == ['$'] then .ok (.str (Text.unwords call.args))
  else if name == "user".toList then .ok call.caller
  else if isIndex name then
    match Number.ofDigits name with
    | .error _ => .error (.shape (.tooManyDigits name.length))
    | .ok index =>
      match call.args[index]? with
      | some arg => .ok (.str arg)
      | none => .error (.missingArgument index)
  else .error (.invalidVariable token)

/-- The value of a token: itself, unless it starts with a dollar sign. -/
def resolveToken (call : Call) (token : String) : Except Fault Value :=
  if token.toList.head? == some '$' then resolveVariable token call else .ok (.str token)

/-- The step for a piece of a body. -/
def resolve (call : Call) : Segment → Except Fault Step
  | .literal text => .ok (.emit text)
  | .block action tokens _ => (tokens.mapM (resolveToken call)).map (.invoke action ·)

/-- The text of a stored body. An empty list or object has no steps either; nothing else is a
body. -/
def bodyText : Value → Except Fault String
  | .str s => .ok s
  | .list [] | .obj [] => .ok ""
  | .list items => .error (.shape (.noOperation (Value.list items).shape "find"))
  | .obj fields => .error (.shape (.noOperation (Value.obj fields).shape "find"))
  | v => .error (.shape (.noLength v.shape))

/-- Takes a body apart and gives every variable in it its value. -/
def compile (body : String) (call : Call) : Except Fault (List Step) := do
  (← parse body).mapM (resolve call)

end ChannelBot.Script
