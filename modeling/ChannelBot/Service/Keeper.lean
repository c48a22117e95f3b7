/-
Keeping one bot running on the account that the backend gives. The service asks for the
configuration again and again; it starts a bot when there is an enabled account, replaces it when
the account's fingerprint is another one, and stops it when the account is missing or disabled.
There is at most one bot: a new one is made only after the last one was shut down and has ended.
-/
import ChannelBot.Attempt
import ChannelBot.Service.News

namespace ChannelBot.Service

/-- A bot that was made, by its number. -/
abbrev BotId : Type := Nat

/-- What the service knows: its bot with the fingerprint that it runs on, and what it has told the
console of the account. -/
structure State where
  bot : Option (BotId × Account.Fingerprint) := none
  /-- Whether the account has credentials; none before anything is told. -/
  available : Option Bool := none
  /-- Whether an account with credentials is enabled; none before that is told, and once there are
  no credentials. -/
  enabled : Option Bool := none
  deriving Repr, DecidableEq

/-- What the service asks its surroundings. -/
inductive Query where
  | store (q : StoreQuery)
  /-- Makes a bot for an account. -/
  | create (a : Account)
  | start (bot : BotId)
  | shutDown (bot : BotId)
  | awaitEnd (bot : BotId)
  | updateEnabled (bot : BotId) (enabled : Bool)

/-- The answers. -/
abbrev Answer : Query → Type
  | .store q => storeAnswer q
  | .create _ => Except Fault BotId
  | .shutDown _ | .updateEnabled .. => Except Fault Unit
  | .start _ | .awaitEnd _ => Unit

/-- The surroundings of the service. -/
abbrev surroundings : Interface := ⟨Query, Answer⟩

/-- A step of the service. What it has found out is kept also when the step fails. -/
abbrev Step (α : Type) : Type := ExceptT Fault (StateT State (Dialogue surroundings)) α

/-- Asks a question. -/
def ask (q : Query) : Step (Answer q) :=
  ExceptT.lift (StateT.lift (Dialogue.query (I := surroundings) q))

/-- What is there already, or a failure. -/
def settle {α : Type} (x : Except Fault α) : Step α := ExceptT.mk (pure x)

/-- Tells the console. -/
def tell (n : News) : Step Unit := do
  let answer : Except Fault Value ← ask (.store n.notice.query)
  settle (Notice.heard answer)

/-- The failures that the service survives: those of the store, of chat and of making a bot. -/
def isSurvived : Fault → Bool
  | .store _ | .transport _ | .provider _ | .other _ => true
  | .script (.shape _) => false
  | .script _ => true
  | .timeout | .shape _ | .json .. | .template _ | .document _ => false

/-- Stops the bot, if there is one, and waits until it has ended. -/
def stop (reason : Reason) : Step Unit := do
  match (← get).bot with
  | none => return
  | some (bot, _) =>
    match (← ask (.shutDown bot) : Except Fault Unit) with
    | .ok _ => pure ()
    | .error f => if isSurvived f then tell (.stopFailed f) else throw f
    let _ ← ask (.awaitEnd bot)
    modify ({ · with bot := none })
    tell (.stopped reason)

/-- Replaces the bot by one on this account. -/
def restart (a : Account) (mark : Account.Fingerprint) : Step Unit := do
  stop .replaced
  tell (.connecting a.login)
  let bot : BotId ← settle
    (← ask (.create { a with token := .str mark.token, refreshToken := mark.refreshToken }))
  modify ({ · with bot := some (bot, mark) })
  let _ ← ask (.start bot)

/-- Sees to it that a bot runs on an enabled account. -/
def keep (a : Account) : Step Unit := do
  let mark ← settle a.fingerprint
  match (← get).bot with
  | some (bot, current) =>
    if mark.fits current then settle (← ask (.updateEnabled bot true)) else restart a mark
  | none => restart a mark

/-- Tells the console, unless it was told so already, and then keeps in mind what it was told. -/
def announce (isTold : State → Bool) (n : News) (note : State → State) : Step Unit := do
  if !isTold (← get) then tell n
  modify note

/-- Acts on what a configuration holds. -/
def apply (settings : Except String Account) : Step Unit :=
  let announceAvailable :=
    announce (·.available == some true) .resolved ({ · with available := some true })
  match Finding.of settings with
  | .missing reason => do
    announce (·.available == some false) (.missing reason)
      ({ · with available := some false, enabled := none })
    stop .missing
  | .disabled => do
    announceAvailable
    announce (·.enabled == some false) .disabled ({ · with enabled := some false })
    stop .disabled
  | .enabled a => do
    announceAvailable
    announce (·.enabled == some true) .enabled ({ · with enabled := some true })
    keep a

/-- Asks for the configuration. One that the store does not give is an empty one. -/
def fetch : Step Value := do
  match (← ask (.store .botConfig) : Except Fault Value) with
  | .ok config => return config
  | .error (.store f) => do
    tell (.fetchFailed f)
    return .obj []
  | .error f => throw f

/-- Asks for the configuration once, and acts on it. -/
def poll (env : Environment) : Step Unit := do
  let config ← fetch
  try apply (Account.ofConfig env config)
  catch f => if isSurvived f then tell (.applyFailed f) else throw f

/-- A service on its way: what it knows, or nothing after a failure that it did not survive. -/
abbrev Run : Type := Option State

/-- One more poll of a service. -/
def Run.next (env : Environment) : Run → Dialogue surroundings Run
  | none => return none
  | some s => do
    match ← (poll env).run.run s with
    | (.ok _, s) => return some s
    | (.error _, _) => return none

end ChannelBot.Service
