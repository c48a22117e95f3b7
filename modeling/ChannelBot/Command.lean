/-
Commands, stored and built in. A built-in command belongs to no channel: its channel is the
empty text, and its level is fixed by the table `builtins`.
-/
import ChannelBot.Permission
import ChannelBot.Value.Equal

namespace ChannelBot

/-- What a command does. -/
inductive CommandKind where
  /-- Runs its body. -/
  | custom
  | addCommand
  | deleteCommand
  | showCommand
  | listCommands
  | join
  | part
  | addRedeem
  | deleteRedeem
  deriving Repr, DecidableEq

/-- The name of a kind. -/
def CommandKind.name : CommandKind → String
  | .custom => "custom"
  | .addCommand => "addcmd"
  | .deleteCommand => "delcmd"
  | .showCommand => "showcmd"
  | .listCommands => "listcmd"
  | .join => "join"
  | .part => "part"
  | .addRedeem => "addredeem"
  | .deleteRedeem => "delredeem"

/-- A command: the word that calls it, the channel it belongs to, the level it asks for, and
what it does. Word and body of a stored command are what the store gives for them. -/
structure Command where
  trigger : Value
  channel : String
  permission : Permission
  body : Value := .str ""
  kind : CommandKind := .custom
  deriving Repr, DecidableEq

namespace Command

/-- A command of no channel. -/
def isBuiltin (c : Command) : Bool := c.channel == ""

/-- The commands that exist in every channel. -/
def builtins : List Command :=
  [⟨.str "ping", "", .everyone, .str "\x7bping\x7d", .custom⟩,
   ⟨.str "addcmd", "", .moderators, .str "", .addCommand⟩,
   ⟨.str "delcmd", "", .moderators, .str "", .deleteCommand⟩,
   ⟨.str "showcmd", "", .everyone, .str "", .showCommand⟩,
   ⟨.str "commands", "", .everyone, .str "", .listCommands⟩,
   ⟨.str "help", "", .everyone, .str "", .listCommands⟩,
   ⟨.str "join", "", .superUser, .str "", .join⟩,
   ⟨.str "part", "", .superUser, .str "", .part⟩,
   ⟨.str "addredeem", "", .moderators, .str "", .addRedeem⟩,
   ⟨.str "delredeem", "", .moderators, .str "", .deleteRedeem⟩]

/-- The built-in command of a name. -/
def builtin? (trigger : String) : Option Command :=
  builtins.find? (·.trigger.text? == some trigger)

end Command

end ChannelBot
