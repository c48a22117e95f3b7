/-
The table of actions that command bodies may call. A name is registered once.
-/
import ChannelBot.Script.Fault

namespace ChannelBot

/-- Handlers by the name of their action, in the order of registration. -/
structure Registry (Handler : Type) where
  handlers : List (String × Handler)

namespace Registry

variable {Handler : Type}

/-- No actions. -/
def empty : Registry Handler := ⟨[]⟩

/-- The handler of an action. -/
def find? (r : Registry Handler) (name : String) : Option Handler :=
  (r.handlers.find? (·.1 == name)).map (·.2)

/-- Whether there is an action of a name. -/
def contains (r : Registry Handler) (name : String) : Bool := (r.find? name).isSome

/-- Adds an action; none if the name is taken. -/
def register? (r : Registry Handler) (name : String) (handler : Handler) :
    Option (Registry Handler) :=
  if r.contains name then none else some ⟨r.handlers ++ [(name, handler)]⟩

/-- The wording for a name that is taken. -/
def takenMessage (name : String) : String := s!"action {name} already registered"

/-- The names of all actions in ascending order. -/
def names (r : Registry Handler) : List String :=
  (r.handlers.map (·.1)).mergeSort fun a b => decide (a ≤ b)

end Registry

end ChannelBot
