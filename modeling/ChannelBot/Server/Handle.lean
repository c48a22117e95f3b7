/-
The backend as a function: a request takes what the backend holds to what it holds next and to
an answer. The time is given, and so are the answers of those whom the backend asks itself.
-/
import ChannelBot.Server.Authorization
import ChannelBot.Server.Request
import ChannelBot.Server.Route

namespace ChannelBot.Server

/-- The token of the worker and of the console. -/
def adminToken : String := "change-me"

/-- How many log events are shown if the request does not say. -/
def logPage : Int := 50

namespace Backend

/-- An answer without requests to others. -/
def replying (x : Backend × Response) : Backend × Reply := (x.1, { response := x.2 })

/-- Goes on with what a request says, or refuses it for what it breaks. -/
def checked {α : Type} (b : Backend) (c : Checked α) (use : α → Backend × Reply) :
    Backend × Reply :=
  match c with
  | .valid a => use a
  | .invalid vs => (b, { response := .ofViolations vs })

/-- Goes on with the code and the state text of a callback. -/
def callback (b : Backend) (r : Request) (use : String → String → Backend × Reply) :
    Backend × Reply :=
  b.checked (((r.parameter "code").map Prod.mk).also (r.parameter "state")) fun (code, state) =>
    use code state

/-- Does what a request asks for, the token being right where one is needed. -/
def serve (b : Backend) (now : Moment) (answers : List HttpOutcome) (r : Request)
    (content : Content) : Endpoint → Backend × Reply
  | .front => (b, { response := ⟨200, .page Page.front⟩ })
  | .health => (b, { response := .ok (.obj [("status", .str "ok")]) })
  | .commandsPage c => (b, { response := b.tables.commandsPage c })
  | .showProfile => replying b.showProfile
  | .changeProfile => b.checked (content.check BotChange.read) fun p => replying (b.changeProfile p)
  | .changeTokens => b.checked (content.check BotTokens.read) fun p => replying (b.changeTokens p)
  | .pushLog => b.checked (content.check LogEntry.read) fun p => replying (b.pushLog now p)
  | .showLog => b.checked (r.integer "limit" logPage) fun n => (b, { response := b.showLog n })
  | .streamLog =>
    let (log, id) := b.log.subscribe
    ({ b with log := log }, { response := ⟨200, .events id⟩ })
  | .listChannels => (b, { response := b.tables.listChannels })
  | .addChannel => b.checked (content.check NewChannel.read) fun p =>
    replying (b.onTables (·.addChannel p))
  | .showChannel c => replying (b.onTables (·.showChannel c))
  | .removeChannel c => replying (b.onTables (·.removeChannel c))
  | .changeSigil c => b.checked (content.check readSigil) fun s =>
    replying (b.onTables (·.changeSigil c s))
  | .listCommands c => replying (b.onTables (·.listCommands c))
  | .addCommand c => b.checked (content.check NewCommand.read) fun p =>
    replying (b.onTables (·.addCommand c p))
  | .showCommand c t => replying (b.onTables (·.showCommand c t))
  | .removeCommand c t => replying (b.onTables (·.removeCommand c t))
  | .addRedeem c => b.checked (content.check NewRedeem.read) fun p =>
    replying (b.onTables (·.addRedeem c p))
  | .showRedeem c t => replying (b.onTables (·.showRedeem c t))
  | .removeRedeem c t => replying (b.onTables (·.removeRedeem c t))
  | .addTarget c u => replying (b.onTables (·.addTarget c u))
  | .showTarget c u => replying (b.onTables (·.showTarget c u))
  | .changeTarget c u => b.checked (content.check TargetChange.read) fun p =>
    replying (b.onTables (·.changeTarget c u p))
  | .showCredential c => replying (b.onTables (·.showCredential c))
  | .changeCredential c => b.checked (content.check MusicTokens.read) fun p =>
    replying (b.onTables (·.changeCredential c p))
  | .listRefreshTokens => (b, { response := b.tables.listRefreshTokens })
  | .startBot => replying (Authorization.startBot b now r.origin)
  | .botCallback => b.callback r (Authorization.botCallback b now r.origin answers)
  | .startMusic c => replying (Authorization.startMusic b now r.origin c)
  | .musicCallback => b.callback r (Authorization.musicCallback b now r.origin answers)

/-- Does what a request asks for at an endpoint. A body that is no JSON is refused before the
token is looked at, all other breaches after it. -/
def serveGuarded (b : Backend) (now : Moment) (answers : List HttpOutcome) (r : Request)
    (e : Endpoint) : Backend × Reply :=
  let content := if e.takesContent then Content.read r.body else .none
  match content with
  | .broken =>
    (b, { response := .invalid [⟨[.field "body"], .json, .obj []⟩] })
  | .unreadable => (b, { response := .refusal 400 "There was an error parsing the body" })
  | content =>
    if e.isGuarded && r.token != some adminToken then
      (b, { response := .refusal 401 "invalid admin token" })
    else b.serve now answers r content e

/-- Answers a request. -/
def handle (b : Backend) (now : Moment) (answers : List HttpOutcome) (r : Request) :
    Backend × Reply :=
  match Route.choices r.path with
  | [] =>
    (b, { response := match Route.elsewhere? r.path with
      | some path =>
        .redirect (Route.written (r.origin ++ path ++
          if r.query.isEmpty then "" else "?" ++ r.query))
      | none => .missing "Not Found" })
  | found => match found.lookup r.method with
    | some e => b.serveGuarded now answers r e
    | none => (b, { response := .refusal 405 "Method Not Allowed" })

end Backend

end ChannelBot.Server
