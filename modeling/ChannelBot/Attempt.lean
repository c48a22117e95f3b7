/-
Dialogues that may fail, and so do not go on.
-/
import ChannelBot.Dialogue
import ChannelBot.Fault

namespace ChannelBot

/-- A dialogue that ends with a value or with a fault. -/
abbrev Attempt (I : Interface) (α : Type) : Type := ExceptT Fault (Dialogue I) α

namespace Attempt

variable {I : Interface} {α : Type}

/-- A dialogue whose result says whether it failed. -/
def of (x : Dialogue I (Except Fault α)) : Attempt I α := x

/-- A dialogue that does not fail. -/
def sure (x : Dialogue I α) : Attempt I α := ExceptT.lift x

/-- A failure. -/
def fail (f : Fault) : Attempt I α := throw f

/-- What is there already, or a failure. -/
def ofExcept : Except Fault α → Attempt I α
  | .ok a => pure a
  | .error f => throw f

/-- The dialogue, with its failure as a result. -/
def outcome (x : Attempt I α) : Dialogue I (Except Fault α) := x

end Attempt

end ChannelBot
