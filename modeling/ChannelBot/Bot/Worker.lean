/-
What the programs of a running bot may ask: the store, the providers, the chat platform, its own
memory, and the tasks beside them. A program waits at `pause`, at `enqueue` while the queue is
full, at `lockJoins` while another one holds the lock, and at `awaitReady`; between these points
nothing else of the bot goes on.
-/
import ChannelBot.Attempt
import ChannelBot.Outbound.Message
import ChannelBot.Store.Console
import ChannelBot.Time.Calendar

namespace ChannelBot.Bot

/-- A user of the chat platform. -/
structure User where
  name : String
  id : String
  deriving Repr, DecidableEq

/-- What the platform says of a token. -/
structure TokenGrant where
  scopes : List Value
  expiresIn : Int
  deriving Repr, DecidableEq

/-- What a bot remembers. The account's fields are as they were given. -/
structure Memory where
  login : Value
  botId : String
  token : Value
  refreshToken : Value
  scopes : List Value
  enabled : Value
  ready : Bool := false
  /-- The id of each joined channel by its login. -/
  channelIds : List (String × String) := []
  /-- The subscription of each joined channel. -/
  subscriptions : List (String × String) := []
  /-- Whether someone is joining a channel. -/
  joining : Bool := false
  /-- The sigils of channels that were asked for. -/
  sigils : List (String × Value) := []
  deriving Repr, DecidableEq

/-- Puts something under a key: in place if the key is there, else at the end. -/
def assign {α : Type} (key : String) (a : α) : List (String × α) → List (String × α)
  | [] => [(key, a)]
  | (k, b) :: rest => if k == key then (k, a) :: rest else (k, b) :: assign key a rest

/-- Drops a key. -/
def forget {α : Type} (key : String) (entries : List (String × α)) : List (String × α) :=
  entries.filter (·.1 != key)

/-- What a program may ask. -/
inductive Query where
  | store (q : StoreQuery)
  | web (r : HttpRequest)
  /-- Changes the memory; the answer is what it was before. -/
  | memory (change : Memory → Memory)
  | now
  | usersNamed (logins : List String)
  | usersWithId (id : String)
  | subscribe (channelId : String)
  | unsubscribe (id : String)
  | sendMessage (channelId login : String) (text : Value) (replyTo : Option String)
  | silence (channelId login userId : String) (seconds : Int)
  | commercial (channelId login : String) (seconds : Int)
  | addToken (token refreshToken : Value)
  | lockJoins
  | unlockJoins
  | awaitReady
  | enqueue (m : Outgoing)
  | pause (duration : Nat)
  | startOutbound
  | stopOutbound
  | startStream
  | stopStream
  | startRefreshing (channel refreshToken : Value)
  /-- How many refresh loops there are. -/
  | countRefreshing
  | stopRefreshing

/-- The answers. The platform's failures come with their words. -/
abbrev Answer : Query → Type
  | .store q => storeAnswer q
  | .web _ => HttpOutcome
  | .memory _ => Memory
  | .now => Moment
  | .usersNamed _ | .usersWithId _ => Except String (List User)
  | .subscribe _ => Except String String
  | .unsubscribe _ | .sendMessage .. | .silence .. | .commercial .. => Except String Unit
  | .addToken .. => Except String TokenGrant
  | .countRefreshing => Nat
  | _ => Unit

/-- The surroundings of a bot's programs. -/
abbrev surroundings : Interface := ⟨Query, Answer⟩

/-- A program of the bot. -/
abbrev Program (α : Type) : Type := Attempt surroundings α

/-- Asks a question that always has an answer. -/
def ask (q : Query) : Program (Answer q) := .sure (Dialogue.query (I := surroundings) q)

/-- Asks the store. -/
def askStore (q : StoreQuery) : Program q.Result :=
  .of (Dialogue.query (I := surroundings) (.store q))

/-- The memory as it is. -/
def remember : Program Memory := ask (.memory id)

/-- Changes the memory. -/
def change (f : Memory → Memory) : Program Unit := do let _ ← ask (.memory f)

/-- An answer of the platform; its failures are those of the transport. -/
def platform {α : Type} (x : Program (Except String α)) : Program α := do
  match ← x with
  | .ok a => return a
  | .error words => .fail (.transport (.refused words))

/-- Tells the console of an event. -/
def tell (level message event : String) (details : List (String × Value)) : Program Unit := do
  let notice : Notice := ⟨level, message, event, details⟩
  Attempt.ofExcept (Notice.heard (← Attempt.sure (askStore notice.query).outcome))

end ChannelBot.Bot
