/-
The channels that a bot is in. A channel is joined by a subscription to its messages; logins are
kept in lower case. Only one join goes on at a time.
-/
import ChannelBot.Bot.Worker
import ChannelBot.Text.Case

namespace ChannelBot.Bot

/-- The ids of logins, in lower case: those of joined channels, then those that the platform
gives. -/
def resolveUserIds (logins : List String) : Program (List (String × String)) := do
  let wanted := logins.map Text.lower
  let m ← remember
  let known := wanted.foldl (fun found login => match m.channelIds.lookup login with
    | some id => assign login id found
    | none => found) []
  let missing := wanted.filter fun login => (known.lookup login).isNone
  if missing.isEmpty then return known
  let users : List User ← platform (ask (.usersNamed missing))
  return users.foldl (fun found u => assign (Text.lower u.name) u.id found) known

/-- The login of a channel by its id: of a joined one, or as the platform says. -/
def resolveLogin (id : String) : Program (Option String) := do
  let m ← remember
  match m.channelIds.find? (·.2 == id) with
  | some (login, _) => return some login
  | none =>
    let users : List User ← platform (ask (.usersWithId id))
    return users.head?.map fun u => Text.lower u.name

/-- The id of a login. -/
def userId (login : String) : Program String := do
  let ids ← resolveUserIds [login]
  match ids.lookup (Text.lower login) with
  | some id => if id.isEmpty then .fail unknown else return id
  | none => .fail unknown
where
  /-- The platform does not know the login. -/
  unknown : Fault := .transport (.unknownChannel login)

/-- Subscribes to a channel that is not joined yet; the answer says whether it was. -/
def subscribe (login : String) : Program Bool := do
  let m ← remember
  if (m.subscriptions.lookup login).isSome then return false
  let channelId ← userId login
  let subscription : String ← platform (ask (.subscribe channelId))
  change fun m =>
    { m with
      subscriptions := assign login subscription m.subscriptions
      channelIds := assign login channelId m.channelIds }
  return true

/-- Runs a program while no other one joins a channel. -/
def alone {α : Type} (x : Program α) : Program α := do
  let _ ← ask .lockJoins
  let result ← Attempt.sure x.outcome
  let _ ← ask .unlockJoins
  Attempt.ofExcept result

/-- Joins a channel. -/
def join (channel : String) : Program Unit := do
  let login := Text.lower channel
  if ← alone (subscribe login) then
    tell "info" ("Joined channel " ++ login) "join" [("channel", .str login)]

/-- Forgets a channel, and ends its subscription. -/
def leave (login : String) : Program Unit := do
  let before : Memory ← ask (.memory fun m =>
    { m with
      subscriptions := forget login m.subscriptions
      channelIds := forget login m.channelIds })
  match before.subscriptions.lookup login with
  | some id =>
    if id.isEmpty then return
    else platform (ask (.unsubscribe id))
  | none => return

/-- Leaves a channel. -/
def part (channel : String) : Program Unit := do
  let login := Text.lower channel
  leave login
  tell "info" ("Parted channel " ++ login) "part" [("channel", .str login)]

/-- Leaves channels one after the other; the first failure ends it. -/
def leaveAll : List String → Program Unit
  | [] => pure ()
  | login :: rest => do
    leave login
    leaveAll rest

/-- Joins the channels in rows of the store that are not joined. One that cannot be joined is
told of and passed over. -/
def joinRows : List Value → Program Unit
  | [] => pure ()
  | row :: rest => do
    let name ← Attempt.ofExcept ((row.member "channel_name").mapError .shape)
    let login := Text.lower name.display
    let m ← remember
    if (m.channelIds.lookup login).isNone then
      match ← Attempt.sure (join login).outcome with
      | .ok _ => pure ()
      | .error (.transport cause) =>
        tell "error" ("Failed to join channel " ++ login ++ ": " ++ cause.message) "join_error"
          [("channel", .str login), ("error", .str cause.message)]
      | .error f => .fail f
    joinRows rest

/-- Joins all channels that the store lists. -/
def syncChannels : Program Unit := do
  let rows : Value ← askStore .channels
  joinRows (← Attempt.ofExcept (rows.elements.mapError .shape))

end ChannelBot.Bot
