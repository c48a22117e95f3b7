/-
Requests about channels and what belongs to them. Each takes the tables to new tables and an
answer; a refused request leaves them as they are.
-/
import ChannelBot.Server.Page
import ChannelBot.Server.Payload
import ChannelBot.Server.Response
import ChannelBot.Server.Tables
import ChannelBot.Text.Order

namespace ChannelBot.Server

/-- The answer that shows a channel. -/
def ChannelRow.toValue (c : ChannelRow) : Value :=
  .obj [("channel_name", .str c.name), ("prefix", .str c.sigil)]

/-- The answer that shows a command. -/
def commandValue (trigger : String) (c : CommandContent) : Value :=
  .obj [("trigger", .str trigger), ("body", .str c.body), ("permission", .str c.permission.name)]

/-- The answer that shows a redemption. -/
def redeemValue (title action : String) : Value :=
  .obj [("title", .str title), ("action", .str action)]

/-- The answer that shows a target. -/
def targetValue (user : String) (f : TargetFlags) : Value :=
  .obj [("user", .str user), ("protected", .bool f.guarded), ("completed", .bool f.completed)]

/-- A moment as a value, null standing for its absence. -/
def momentValue : Option Moment → Value
  | some m => .str m.text
  | none => .null

/-- The answer that shows music credentials. -/
def Credential.toValue (c : Credential) : Value :=
  .obj [("access_token", Value.ofText? c.access), ("refresh_token", .str c.refresh),
    ("expires_at", momentValue c.expiresAt)]

namespace Tables

/-- Goes on with the one row that a search finds. -/
def withOne {α : Type} (t : Tables) (missing : String) (use : α → Tables × Response) :
    Search α → Tables × Response
  | .found a => use a
  | .absent => (t, .missing missing)
  | .ambiguous => (t, .crash)

/-- Goes on with the channel of a name. -/
def withChannel (t : Tables) (name : String) (use : ChannelRow → Tables × Response) :
    Tables × Response :=
  t.withOne "channel not found" use (t.channel name)

/-! ## Channels -/

/-- All channels, in the order of their names. -/
def listChannels (t : Tables) : Response :=
  .ok (.list ((Text.sortedOn (·.name) t.channels).map ChannelRow.toValue))

/-- Registers a channel. -/
def addChannel (t : Tables) (p : NewChannel) : Tables × Response :=
  match t.channel p.name with
  | .absent => match t.insertChannel? (ChannelName.normalize p.name) p.sigil with
    | some (t, row) => (t, .ok row.toValue)
    | none => (t, .crash)
  | .found _ => (t, .taken "channel already exists")
  | .ambiguous => (t, .crash)

/-- Shows a channel. -/
def showChannel (t : Tables) (name : String) : Tables × Response :=
  t.withChannel name fun c => (t, .ok c.toValue)

/-- Sets the sigil of a channel. -/
def changeSigil (t : Tables) (name sigil : String) : Tables × Response :=
  t.withChannel name fun c =>
    (t.setSigil c.id sigil, .ok ({ c with sigil := sigil } : ChannelRow).toValue)

/-- Removes a channel and all that belongs to it. -/
def removeChannel (t : Tables) (name : String) : Tables × Response :=
  t.withChannel name fun c => (t.eraseChannel c.id, .done)

/-! ## Commands -/

/-- The triggers of a channel's commands, in order. -/
def listCommands (t : Tables) (name : String) : Tables × Response :=
  t.withChannel name fun c =>
    (t, .ok (.list ((Text.sorted ((OwnedRow.ofOwner c.id t.commands).map (·.key))).map .str)))

/-- Adds a command to a channel. -/
def addCommand (t : Tables) (name : String) (p : NewCommand) : Tables × Response :=
  t.withChannel name fun c =>
    let content : CommandContent := ⟨p.body, p.permission⟩
    match OwnedRow.insert? ⟨c.id, p.trigger, content⟩ t.commands with
    | some rows => ({ t with commands := rows }, .ok (commandValue p.trigger content))
    | none => (t, .taken "command already exists")

/-- Goes on with a command of a channel. -/
def withCommand (t : Tables) (name trigger : String)
    (use : OwnedRow CommandContent → Tables × Response) : Tables × Response :=
  t.withChannel name fun c =>
    t.withOne "command not found" use (OwnedRow.find c.id trigger t.commands)

/-- Shows a command of a channel. -/
def showCommand (t : Tables) (name trigger : String) : Tables × Response :=
  t.withCommand name trigger fun r => (t, .ok (commandValue r.key r.content))

/-- Removes a command from a channel. -/
def removeCommand (t : Tables) (name trigger : String) : Tables × Response :=
  t.withCommand name trigger fun r =>
    ({ t with commands := OwnedRow.erase r.owner r.key t.commands }, .done)

/-- The page that lists a channel's commands, in the order of their triggers. -/
def commandsPage (t : Tables) (name : String) : Response :=
  match t.channel name with
  | .found c =>
    let rows := Text.sortedOn (·.key) (OwnedRow.ofOwner c.id t.commands)
    ⟨200, .page (Page.commands c.name
      (rows.map fun r => [c.sigil ++ r.key, r.content.body, r.content.permission.name]))⟩
  | .absent => ⟨404, .page (Page.unknownChannel name)⟩
  | .ambiguous => .crash

/-! ## Redemptions -/

/-- Adds a redemption to a channel. -/
def addRedeem (t : Tables) (name : String) (p : NewRedeem) : Tables × Response :=
  t.withChannel name fun c =>
    match OwnedRow.insert? ⟨c.id, p.title, p.action⟩ t.redeems with
    | some rows => ({ t with redeems := rows }, .ok (redeemValue p.title p.action))
    | none => (t, .taken "redeem already exists")

/-- Goes on with a redemption of a channel. -/
def withRedeem (t : Tables) (name title : String)
    (use : OwnedRow String → Tables × Response) : Tables × Response :=
  t.withChannel name fun c =>
    t.withOne "redeem not found" use (OwnedRow.find c.id title t.redeems)

/-- Shows a redemption of a channel. -/
def showRedeem (t : Tables) (name title : String) : Tables × Response :=
  t.withRedeem name title fun r => (t, .ok (redeemValue r.key r.content))

/-- Removes a redemption from a channel. -/
def removeRedeem (t : Tables) (name title : String) : Tables × Response :=
  t.withRedeem name title fun r =>
    ({ t with redeems := OwnedRow.erase r.owner r.key t.redeems }, .done)

/-! ## Targets -/

/-- Writes the flags of a target: of the row that is there, or of a new one. -/
def writeTarget (t : Tables) (owner : Nat) (user : String)
    (change : TargetFlags → TargetFlags) : Tables × Response :=
  match t.target owner user with
  | .found r =>
    let flags := change r.content
    ({ t with targets := OwnedRow.update owner r.key flags t.targets },
      .ok (targetValue r.key flags))
  | .absent =>
    let flags := change ⟨false, false⟩
    match OwnedRow.insert? ⟨owner, Text.lower user, flags⟩ t.targets with
    | some rows => ({ t with targets := rows }, .ok (targetValue (Text.lower user) flags))
    | none => (t, .crash)
  | .ambiguous => (t, .crash)

/-- Opens a hit on a user. A guard that stands is kept. -/
def addTarget (t : Tables) (name user : String) : Tables × Response :=
  t.withChannel name fun c =>
    t.writeTarget c.id user fun f => { f with completed := false }

/-- Shows a target of a channel. -/
def showTarget (t : Tables) (name user : String) : Tables × Response :=
  t.withChannel name fun c =>
    t.withOne "hitman target not found"
      (fun r : OwnedRow TargetFlags => (t, .ok (targetValue r.key r.content)))
      (t.target c.id user)

/-- Sets the flags of a target. -/
def changeTarget (t : Tables) (name user : String) (p : TargetChange) : Tables × Response :=
  t.withChannel name fun c =>
    t.writeTarget c.id user fun f => ⟨p.guarded, p.completed.getD f.completed⟩

/-! ## Music credentials -/

/-- Goes on with the music credentials of a channel. -/
def withCredential (t : Tables) (name : String)
    (use : ChannelRow → Credential → Tables × Response) : Tables × Response :=
  t.withChannel name fun c =>
    match t.credential? c.id with
    | some k => use c k
    | none => (t, .missing "spotify not configured")

/-- Shows the music credentials of a channel. -/
def showCredential (t : Tables) (name : String) : Tables × Response :=
  t.withCredential name fun _ k => (t, .ok k.toValue)

/-- Puts new tokens into the music credentials of a channel. The expiry is kept as the clock
showed it, without its offset; an empty refresh token replaces nothing. -/
def changeCredential (t : Tables) (name : String) (p : MusicTokens) : Tables × Response :=
  t.withCredential name fun c k =>
    let refresh := match p.refresh with
      | some r => if r.isEmpty then k.refresh else r
      | none => k.refresh
    let k : Credential := ⟨some p.access, refresh, p.expiresAt.map (·.shown)⟩
    (t.putCredential c.id k, .ok k.toValue)

/-- The refresh tokens of all channels that have credentials, in the order of their names. -/
def listRefreshTokens (t : Tables) : Response :=
  let rows := t.credentials.flatMap fun (owner, k) =>
    (t.channels.filter (·.id == owner)).map fun c => (c.name, k.refresh)
  .ok (.list ((Text.sortedOn (·.1) rows).map fun (name, refresh) =>
    .obj [("channel", .str name), ("refresh_token", .str refresh)]))

end Tables

end ChannelBot.Server
