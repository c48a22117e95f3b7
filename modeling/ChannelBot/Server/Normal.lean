/-
The forms in which the backend keeps what it is given: names of channels without white space around
them, leading number signs and capitals; lists of authorization scopes, trimmed, without blanks and
repetitions, in the order in which they were first given; and values from outside in columns of texts,
where numbers become their text, and lists, objects and integers of more than 64 bits fit no column.
-/
import ChannelBot.Number.Column
import ChannelBot.Text.Blank
import ChannelBot.Text.Case
import ChannelBot.Value.Basic

namespace ChannelBot.ChannelName

/-- A name without white space around it, without leading number signs, in lower case. -/
def normalize (name : String) : String := Text.lower (Text.dropLeading '#' (Text.trim name))

end ChannelBot.ChannelName

namespace ChannelBot.Scope

/-- Keeps the first occurrence of each text that is not in `seen`. -/
def distinct (seen : List String) : List String → List String
  | [] => []
  | s :: rest => if seen.contains s then distinct seen rest else s :: distinct (s :: seen) rest

/-- The scopes of a list as they are kept. -/
def normalize (scopes : List String) : List String :=
  distinct [] ((scopes.map Text.trim).filter (!·.isEmpty))

end ChannelBot.Scope

namespace ChannelBot.Server.Column

/-- The text that a column keeps of a value, none standing for null; or nothing, if no column
takes the value. -/
def text? : Value → Option (Option String)
  | .null => some none
  | .bool b => some (some (if b then "1" else "0"))
  | .int n => if -0x8000000000000000 ≤ n ∧ n < 0x8000000000000000 then some (some (toString n)) else none
  | .real x => some (if x.isNaN then none else some (Number.columnText x))
  | .str s => some (some s)
  | .list _ | .obj _ => none

end ChannelBot.Server.Column
