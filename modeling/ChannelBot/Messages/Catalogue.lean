/-
The messages of the bot. Each has a default template; the messages file may replace them, and
an empty or missing replacement leaves the default.
-/
import ChannelBot.Messages.Document
import ChannelBot.Messages.Template

namespace ChannelBot

/-- The messages that the bot sends. -/
inductive Message where
  | botStarted
  | permissionDenied
  | executionError
  | storeError
  | missingArguments
  | missingCommand
  | missingChannel
  | commandAdded
  | commandExists
  | commandRemoved
  | commandNotFound
  | commandNotSpecified
  | noSuchCommand
  | builtinCommand
  | commandList
  | commandListEmpty
  | redeemAdded
  | redeemExists
  | redeemRemoved
  | redeemNotFound
  | redeemUsage
  deriving Repr, DecidableEq

namespace Message

/-- The key of a message in the messages file. -/
def key : Message → String
  | .botStarted => "bot_started"
  | .permissionDenied => "permission_denied"
  | .executionError => "execution_error"
  | .storeError => "store_error"
  | .missingArguments => "missing_arguments"
  | .missingCommand => "missing_command"
  | .missingChannel => "missing_channel"
  | .commandAdded => "command_added"
  | .commandExists => "command_exists"
  | .commandRemoved => "command_removed"
  | .commandNotFound => "command_not_found"
  | .commandNotSpecified => "command_not_specified"
  | .noSuchCommand => "no_such_command"
  | .builtinCommand => "builtin_command"
  | .commandList => "command_list"
  | .commandListEmpty => "command_list_empty"
  | .redeemAdded => "redeem_added"
  | .redeemExists => "redeem_exists"
  | .redeemRemoved => "redeem_removed"
  | .redeemNotFound => "redeem_not_found"
  | .redeemUsage => "redeem_usage"

/-- The default template of a message. -/
def default : Message → String
  | .botStarted => "Bot started"
  | .permissionDenied => "you do not have the permissions to use this command!"
  | .executionError => "Execution error: \x7berror\x7d"
  | .storeError => "error: \x7berror\x7d"
  | .missingArguments => "missing arguments"
  | .missingCommand => "missing command"
  | .missingChannel => "missing channel"
  | .commandAdded => "successfully added command \"\x7btrigger\x7d\""
  | .commandExists => "command \"\x7btrigger\x7d\" already exists"
  | .commandRemoved => "successfully removed command \"\x7btrigger\x7d\""
  | .commandNotFound => "command \"\x7btrigger\x7d\" not found"
  | .commandNotSpecified => "command not specified"
  | .noSuchCommand => "no such command"
  | .builtinCommand => "built-in command"
  | .commandList => "Custom commands: \x7bcommands\x7d"
  | .commandListEmpty => "no custom commands"
  | .redeemAdded => "successfully added redeem \"\x7btitle\x7d\""
  | .redeemExists => "redeem \"\x7btitle\x7d\" already exists"
  | .redeemRemoved => "successfully removed redeem \"\x7btitle\x7d\""
  | .redeemNotFound => "redeem \"\x7btitle\x7d\" not found"
  | .redeemUsage => "usage: addredeem <reward title> = <action>"

/-- All messages. -/
def all : List Message :=
  [.botStarted, .permissionDenied, .executionError, .storeError, .missingArguments,
   .missingCommand, .missingChannel, .commandAdded, .commandExists, .commandRemoved,
   .commandNotFound, .commandNotSpecified, .noSuchCommand, .builtinCommand, .commandList,
   .commandListEmpty, .redeemAdded, .redeemExists, .redeemRemoved, .redeemNotFound, .redeemUsage]

end Message

/-- The replacements that a messages file gives. -/
structure Messages where
  given : List (String × Value)
  deriving Repr

namespace Messages

/-- No replacements. -/
def defaults : Messages := ⟨[]⟩

/-- The replacements that the text of a messages file gives. -/
def read (source : String) : Except Yaml.Fault Messages := (readDocument source).map (⟨·⟩)

/-- Whether a replacement stands for what a key without one stands for: a message's default, or
nothing. -/
def isDefault (key : String) (v : Value) : Bool :=
  match Message.all.find? (·.key == key), v with
  | some msg, .str s => s == msg.default
  | none, .null => true
  | _, _ => false

/-- The replacements that differ from the defaults. -/
def changes (m : Messages) : List (String × Value) :=
  m.given.filter fun (k, v) => !isDefault k v

/-- What stands for a message: its replacement, if that counts as something, or its default. -/
def entry (m : Messages) (msg : Message) : Value :=
  ((Value.lookup? msg.key m.given).getD .null).orElse (.str msg.default)

/-- The template of a message, which must be a text. -/
def template (m : Messages) (msg : Message) : Except ShapeFault String :=
  match m.entry msg with
  | .str s => .ok s
  | v => .error (.noOperation v.shape "format")

/-- The text of a message. -/
def text (m : Messages) (msg : Message) (args : List (String × TemplateArg)) :
    Except Fault String := do
  let t ← (m.template msg).mapError .shape
  (Template.fill t args).mapError .template

end Messages

end ChannelBot
