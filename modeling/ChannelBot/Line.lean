/-
Chat lines that call a command: the channel's sigil, the trigger, and the rest of the line.
-/
import ChannelBot.Text.Blank
import ChannelBot.Value.Access

namespace ChannelBot

/-- A line that calls a command. `rest` is what follows the trigger with its inner spacing kept;
`args` are its words. -/
structure Line where
  trigger : String
  args : List String
  rest : String
  deriving Repr, DecidableEq

namespace Line

/-- Reads a line of chat under the sigil of its channel; none if it calls no command. -/
def parse? (sigil raw : String) : Option Line :=
  if sigil.isEmpty then none
  else
    match Text.afterLead? sigil (Text.trim raw) with
    | none => none
    | some tail =>
      match Text.firstWord? tail with
      | none => none
      | some (trigger, rest) =>
        let rest := Text.trim rest
        some ⟨trigger, Text.words rest, rest⟩

/-- Reads a line of chat that may be missing; a missing line is an empty one. -/
def ofText? (sigil : String) (raw : Option String) : Option Line := parse? sigil (raw.getD "")

/-- Reads a line of chat under what the store holds for the sigil of its channel. Only a text can
be the start of a line. -/
def read (sigil : Value) (raw : String) : Except ShapeFault (Option Line) :=
  if !sigil.holds then .ok none
  else match sigil with
    | .str s => .ok (parse? s raw)
    | v => .error (.noLead v.shape)

end Line

end ChannelBot
