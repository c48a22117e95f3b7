/-
Who may run a command. The levels are ordered from everybody to the one super user; the gate
decides by badges, and for the last level by login alone.
-/
import ChannelBot.Text.Blank
import ChannelBot.Text.Case
import ChannelBot.Value.Display

namespace ChannelBot

/-- The level of caller that a command asks for. -/
inductive Permission where
  | everyone
  | subscribers
  | moderators
  | superUser
  deriving Repr, DecidableEq

namespace Permission

/-- The levels in ascending order. -/
def levels : List Permission := [.everyone, .subscribers, .moderators, .superUser]

/-- The place of a level in the order. -/
def rank : Permission → Nat
  | .everyone => 0
  | .subscribers => 1
  | .moderators => 2
  | .superUser => 3

/-- The name of a level, in capitals. -/
def capitals : Permission → String
  | .everyone => "ALL"
  | .subscribers => "SUBS"
  | .moderators => "MODS"
  | .superUser => "SUPER"

/-- The name of a level. -/
def name : Permission → String
  | .everyone => "all"
  | .subscribers => "subs"
  | .moderators => "mods"
  | .superUser => "super"

/-- The level that a text names, in any case and with any white space around it. -/
def ofName? (s : String) : Option Permission :=
  levels.find? fun p => Text.isUpperForm p.capitals (Text.trim s)

/-- The level that a value names by its text, or the words that refuse it. -/
def ofValue (v : Value) : Except String Permission :=
  match ofName? v.display with
  | some p => .ok p
  | none => .error s!"invalid permissions \"{v.display}\""

end Permission

/-- The gate: the login of the super user in lower case, if there is one. -/
structure Gate where
  superUser : Option String
  deriving Repr, DecidableEq

namespace Gate

/-- The badges of those who moderate a channel. -/
def moderatorBadges : List String := ["broadcaster", "moderator"]

/-- The badges that count as a subscription. -/
def subscriberBadges : List String := "subscriber" :: moderatorBadges

/-- A gate for a configured super user; an empty name is none. -/
def ofConfigured (login : Option String) : Gate :=
  match login with
  | some s => ⟨if (Text.lower s).isEmpty then none else some (Text.lower s)⟩
  | none => ⟨none⟩

/-- Whether a caller with these badges may run a command of this level. -/
def allows (g : Gate) (level : Permission) (badges : List String) (caller : String) : Bool :=
  match level with
  | .everyone => true
  | .superUser => g.superUser == some (Text.lower caller)
  | .moderators => badges.any fun b => moderatorBadges.contains (Text.lower b)
  | .subscribers => badges.any fun b => subscriberBadges.contains (Text.lower b)

end Gate

end ChannelBot
