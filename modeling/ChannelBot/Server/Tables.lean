/-
The tables of the backend. Rows of commands, redemptions, targets and music credentials belong
to a channel through its number, and go when it goes. Numbers of deleted channels may be given
out again.
-/
import ChannelBot.Permission
import ChannelBot.Server.Normal
import ChannelBot.Time.Calendar

namespace ChannelBot.Server

/-- What a search for one row finds. -/
inductive Search (α : Type) where
  | absent
  | found (a : α)
  | ambiguous
  deriving Repr, DecidableEq

/-- The result of a search, by the rows that match. -/
def Search.of {α : Type} : List α → Search α
  | [] => .absent
  | [a] => .found a
  | _ => .ambiguous

/-- A text with the ASCII capitals in lower case, as the tables compare names. -/
def folded (s : String) : String := .ofList (s.toList.map Char.toLower)

/-- A registered channel. -/
structure ChannelRow where
  id : Nat
  name : String
  sigil : String
  deriving Repr, DecidableEq

/-- A row that belongs to a channel under a key. -/
structure OwnedRow (α : Type) where
  owner : Nat
  key : String
  content : α
  deriving Repr, DecidableEq

namespace OwnedRow

variable {α : Type}

/-- Whether a row belongs to a channel under a key. -/
def isAt (owner : Nat) (key : String) (r : OwnedRow α) : Bool := r.owner == owner && r.key == key

/-- The contents that belong to a channel, with their keys. -/
def ofOwner (owner : Nat) (rows : List (OwnedRow α)) : List (OwnedRow α) :=
  rows.filter (·.owner == owner)

/-- The rows of all other channels. -/
def withoutOwner (owner : Nat) (rows : List (OwnedRow α)) : List (OwnedRow α) :=
  rows.filter (·.owner != owner)

/-- The row of a channel under a key. -/
def find (owner : Nat) (key : String) (rows : List (OwnedRow α)) : Search (OwnedRow α) :=
  .of (rows.filter (isAt owner key))

/-- Adds a row, unless there is one of that channel under that key. -/
def insert? (r : OwnedRow α) (rows : List (OwnedRow α)) : Option (List (OwnedRow α)) :=
  if rows.any (isAt r.owner r.key) then none else some (rows ++ [r])

/-- Drops the rows of a channel under a key. -/
def erase (owner : Nat) (key : String) (rows : List (OwnedRow α)) : List (OwnedRow α) :=
  rows.filter fun r => !isAt owner key r

/-- Replaces the content of the rows of a channel under a key. -/
def update (owner : Nat) (key : String) (content : α) (rows : List (OwnedRow α)) :
    List (OwnedRow α) :=
  rows.map fun r => if isAt owner key r then { r with content := content } else r

end OwnedRow

/-- What a command of a channel does, and who may run it. -/
structure CommandContent where
  body : String
  permission : Permission
  deriving Repr, DecidableEq

/-- Whether a target is guarded, and whether its hit is over. -/
structure TargetFlags where
  guarded : Bool
  completed : Bool
  deriving Repr, DecidableEq

/-- The tokens of a channel for the music service. -/
structure Credential where
  access : Option String
  refresh : String
  expiresAt : Option Moment
  deriving Repr, DecidableEq

/-- All tables. -/
structure Tables where
  channels : List ChannelRow := []
  commands : List (OwnedRow CommandContent) := []
  redeems : List (OwnedRow String) := []
  targets : List (OwnedRow TargetFlags) := []
  credentials : List (Nat × Credential) := []
  deriving Repr, DecidableEq

namespace Tables

/-- The channel of a name, in any case and with or without a leading number sign. -/
def channel (t : Tables) (name : String) : Search ChannelRow :=
  .of (t.channels.filter fun c => folded c.name == ChannelName.normalize name)

/-- The number that the next channel gets. -/
def nextId (t : Tables) : Nat := (t.channels.map (·.id)).foldl max 0 + 1

/-- Registers a channel, unless there is one of exactly that name. -/
def insertChannel? (t : Tables) (name sigil : String) : Option (Tables × ChannelRow) :=
  if t.channels.any (·.name == name) then none
  else
    let row : ChannelRow := ⟨t.nextId, name, sigil⟩
    some ({ t with channels := t.channels ++ [row] }, row)

/-- Sets the sigil of a channel. -/
def setSigil (t : Tables) (id : Nat) (sigil : String) : Tables :=
  { t with channels := t.channels.map fun c => if c.id == id then { c with sigil := sigil } else c }

/-- Drops a channel with everything that belongs to it. -/
def eraseChannel (t : Tables) (id : Nat) : Tables where
  channels := t.channels.filter (·.id != id)
  commands := OwnedRow.withoutOwner id t.commands
  redeems := OwnedRow.withoutOwner id t.redeems
  targets := OwnedRow.withoutOwner id t.targets
  credentials := t.credentials.filter (·.1 != id)

/-- The target of a channel that a user is, in any case. -/
def target (t : Tables) (owner : Nat) (user : String) : Search (OwnedRow TargetFlags) :=
  .of (t.targets.filter fun r => r.owner == owner && folded r.key == Text.lower user)

/-- The music credentials of a channel. -/
def credential? (t : Tables) (owner : Nat) : Option Credential :=
  (t.credentials.find? (·.1 == owner)).map (·.2)

/-- Puts the music credentials of a channel. -/
def putCredential (t : Tables) (owner : Nat) (c : Credential) : Tables :=
  { t with credentials :=
      if t.credentials.any (·.1 == owner) then
        t.credentials.map fun r => if r.1 == owner then (owner, c) else r
      else t.credentials ++ [(owner, c)] }

end Tables

end ChannelBot.Server
