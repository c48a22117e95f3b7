/-
What can go wrong with a stored command body: it breaks the block grammar, a variable has no
value, an action does not exist or refuses its arguments, or a value is not of the kind that it
should be.
-/
import ChannelBot.Value.Access

namespace ChannelBot.Script

/-- The cause for which a body is not run, or not run to its end. -/
inductive Fault where
  /-- A block without any token, whose brace is at this position. -/
  | emptyBlock (position : Nat)
  /-- A block that is never closed, whose brace is at this position. -/
  | unterminated (position : Nat)
  /-- A positional variable beyond the arguments of the call. -/
  | missingArgument (index : Nat)
  /-- A token that starts as a variable and names none. -/
  | invalidVariable (token : String)
  /-- A value that cannot be used where it is put: a piece of the output that is no text, or a
  number of too many digits. -/
  | shape (cause : ShapeFault)
  /-- A block whose action is not registered. -/
  | unknownAction (name : String)
  /-- An action that does not accept its arguments, in its own words. -/
  | refused (reason : String)
  deriving Repr, DecidableEq

end ChannelBot.Script
