/-
A bot in a closed world. The store is the backend itself; the chat platform, the providers and
the event stream are tables that can be set to fail; time moves only when it is told to. All
that the bot does to the outside is recorded.

Programs run until they wait. Those that can go on do so in the order in which they became able
to; what is due at a time goes on when that time has come.
-/
import ChannelBot.Bot.Lifecycle
import ChannelBot.Outbound.Queue
import ChannelBot.Refresh.Schedule
import ChannelBot.Server.Handle
import ChannelBot.Stream.Client
import ChannelBot.Stream.Frame

namespace ChannelBot.Bot

/-- What the end of a program is good for. -/
inductive Ending where
  | nothing
  /-- A line of chat with this id was routed. -/
  | routed (id : String) (result : Except Fault Router.Result)
  | done (result : Except Fault Unit)
  | login (result : Except Fault (Option String))
  | ids (result : Except Fault (List (String × String)))
  | answer (result : Except Fault Value)
  | result (result : Except Fault Router.Result)

/-- A program on its way, and whether it handles a redemption. -/
structure Task where
  redemption : Bool
  program : Dialogue surroundings Ending

/-- What happened on the outside. -/
inductive Record where
  | routed (id : String) (result : Except Fault Router.Result)
  | message (channelId login : String) (text : Value) (replyTo : Option String)
  | silenced (channelId login userId : String) (seconds : Int)
  | commercial (channelId login : String) (seconds : Int)
  | subscribed (channelId botId : String)
  | unsubscribed (id : String)
  | connected
  | refused
  | listens (request : Value)
  | pinged
  | pingFailed
  | closed

/-- What is there to fail. -/
inductive Part where
  | users
  | subscribe
  | unsubscribe
  | send
  | silence
  | commercial
  | addToken
  deriving Repr, DecidableEq

/-- An outcome that the next matching request to the store has. -/
structure Trouble where
  method : String
  path : String
  outcome : HttpOutcome

/-- What can go on at once. -/
inductive Job where
  | task (t : Task)
  | consume

/-- The world. -/
structure Stage where
  setup : Setup
  memory : Memory
  now : Nat := 0
  jobs : List Job := []
  /-- Programs that sleep, with the time at which they go on. -/
  sleepers : List (Nat × Task) := []
  /-- Programs that wait until the bot is ready. -/
  expectant : List Task := []
  /-- Programs that wait for their turn to join a channel. -/
  joiners : List Task := []
  /-- Programs that wait for room in the queue, one for each of its blocked messages. -/
  producers : List Task := []
  outbound : Outbound.Queue Outgoing
  stream : Stream.Client := {}
  schedule : Refresh.Schedule := {}
  backend : Server.Backend := {}
  users : List User := []
  failures : List (Part × String) := []
  troubles : List Trouble := []
  web : List (String × HttpOutcome) := []
  /-- Why the event stream cannot be reached. -/
  streamDown : Bool := false
  pingDown : Bool := false
  subscriptions : Nat := 0
  nonces : Nat := 0
  records : List (Nat × Record) := []
  /-- How the program of the last call ended, if it has. -/
  ending : Option Ending := none

namespace Stage

/-- The moment at which time begins. -/
def epoch : Moment := .ofDate ⟨2024, 1, 1⟩

/-- The moment that it is. -/
def moment (s : Stage) : Moment := ⟨epoch.micros + s.now⟩

/-- Records what happens. -/
def record (s : Stage) (r : Record) : Stage := { s with records := s.records ++ [(s.now, r)] }

/-! ## The store -/

/-- The first trouble that a request meets, and the others. -/
def meet (method path : String) : List Trouble → Option (HttpOutcome × List Trouble)
  | [] => none
  | t :: rest =>
    if t.method == method && Exchange.holdsText t.path.toList path.toList then
      some (t.outcome, rest)
    else (meet method path rest).map fun (o, others) => (o, t :: others)

/-- The address of the backend. -/
def backendAddress : String := "http://api:7070"

/-- What a change of address leads to: the target on the same backend. No request of the bot has
a query, so a question mark is part of a name. -/
def target (location : String) : String :=
  let path := (Text.afterLead? backendAddress location).getD location
  .ofList (path.toList.flatMap fun c => if c == '?' then Percent.encodeChar c else [c])

/-- Sends a request to the backend, following so many changes of address. -/
def send (s : Stage) (method path : String) (body : Option String) : Nat → Stage × HttpOutcome
  | 0 => (s, .failed "")
  | fuel + 1 =>
    let (b, reply) := s.backend.handle s.moment []
      { method := method, target := path, token := some Server.adminToken, body := body,
        origin := backendAddress }
    let s := { s with backend := b }
    match reply.response.body with
    | .redirect location =>
      if fuel == 0 then (s, .answered reply.response.http)
      else s.send method (target location) body fuel
    | _ => (s, .answered reply.response.http)

/-- Asks the store. -/
def askStore (s : Stage) (q : StoreQuery) : Stage × storeAnswer q :=
  let r := q.request
  match meet r.method (backendAddress ++ r.path) s.troubles with
  | some (o, others) => ({ s with troubles := others }, q.decode o)
  | none =>
    let (s, o) := s.send r.method r.path (r.payload.map (·.write Value.spaced)) 5
    (s, q.decode o)

/-! ## The platform -/

/-- An action of the platform, unless that part fails. -/
def unlessFailing {α : Type} (s : Stage) (p : Part) (act : Stage → Stage × α) :
    Stage × Except String α :=
  match s.failures.lookup p with
  | some words => (s, .error words)
  | none =>
    let (s, a) := act s
    (s, .ok a)

/-- An action that is only recorded. -/
def recording (r : Record) (s : Stage) : Stage × Unit := (s.record r, ())

/-- The outcome of a request to a provider. -/
def askWeb (s : Stage) (r : HttpRequest) : HttpOutcome :=
  match s.web.find? fun e => Text.startsWith e.1 r.url with
  | some (_, o) => o
  | none => .failed "unreachable"

/-- What tokens are good for. -/
def tokenGrant : TokenGrant := ⟨[.str "a", .str "b"], 14400⟩

/-! ## The event stream -/

/-- The connection to the event stream is closed. -/
def closeStream (s : Stage) : Stage :=
  if s.stream.isOpen then { s.record .closed with stream := s.stream.ended s.now } else s

/-- Drops every redemption on its way; those that wait for room take their messages with them. -/
def dropRedemptions (s : Stage) : Stage :=
  let kept := (s.outbound.blocked.zip s.producers).filter (!·.2.redemption)
  { s with
    jobs := s.jobs.filter fun
      | .task t => !t.redemption
      | .consume => true
    sleepers := s.sleepers.filter (!·.2.redemption)
    expectant := s.expectant.filter (!·.redemption)
    joiners := s.joiners.filter (!·.redemption)
    outbound := { s.outbound with blocked := kept.map (·.1) }
    producers := kept.map (·.2) }

/-- Stops the event stream, and with it the redemptions on their way. -/
def stopStream (s : Stage) : Stage :=
  let s := if s.stream.isOpen then s.record .closed else s
  { s with stream := s.stream.stop }.dropRedemptions

/-! ## Programs -/

/-- Lets the consumer of the queue go on, if it looks for a message. -/
def wakeConsumer (s : Stage) : Stage :=
  match s.outbound.phase with
  | .idle => { s with jobs := s.jobs ++ [.consume] }
  | _ => s

/-- Puts tasks among those that can go on. -/
def resume (s : Stage) (ts : List Task) : Stage := { s with jobs := s.jobs ++ ts.map .task }

/-- Changes the memory. A bot that has become ready lets those go on who wait for that. -/
def changeMemory (s : Stage) (f : Memory → Memory) : Stage :=
  let s := { s with memory := f s.memory }
  if s.memory.ready then { s with expectant := [] }.resume s.expectant else s

/-- The answer to a query that need not be waited for. -/
def answer? (s : Stage) : (q : Query) → Option (Stage × Answer q)
  | .store q => some (s.askStore q)
  | .web r => some (s, s.askWeb r)
  | .memory f => some (s.changeMemory f, s.memory)
  | .now => some (s, s.moment)
  | .usersNamed logins => some <| s.unlessFailing .users fun s =>
    (s, logins.flatMap fun login => s.users.filter fun u => Text.lower u.name == login)
  | .usersWithId id => some <| s.unlessFailing .users fun s => (s, s.users.filter (·.id == id))
  | .subscribe channelId => some <| s.unlessFailing .subscribe fun s =>
    let n := s.subscriptions + 1
    ({ s.record (.subscribed channelId s.memory.botId) with subscriptions := n },
      "sub-" ++ toString n)
  | .unsubscribe id => some <| s.unlessFailing .unsubscribe (recording (.unsubscribed id))
  | .sendMessage c l t r => some <| s.unlessFailing .send (recording (.message c l t r))
  | .silence c l u n => some <| s.unlessFailing .silence (recording (.silenced c l u n))
  | .commercial c l n => some <| s.unlessFailing .commercial (recording (.commercial c l n))
  | .addToken _ _ => some <| s.unlessFailing .addToken fun s => (s, tokenGrant)
  | .lockJoins =>
    if s.memory.joining then none
    else some ({ s with memory := { s.memory with joining := true } }, ())
  | .unlockJoins =>
    let s := { s with memory := { s.memory with joining := false } }
    some ({ s with joiners := s.joiners.drop 1 }.resume (s.joiners.take 1), ())
  | .awaitReady => if s.memory.ready then some (s, ()) else none
  | .enqueue m =>
    if s.outbound.isFull then none
    else some ({ s with outbound := s.outbound.put m }.wakeConsumer, ())
  | .pause _ => none
  | .startOutbound => some ({ s with outbound := s.outbound.start }.wakeConsumer, ())
  | .stopOutbound => some ({ s with outbound := s.outbound.stop }, ())
  | .startStream => some ({ s with stream := s.stream.start s.now }, ())
  | .stopStream => some (s.stopStream, ())
  | .startRefreshing c t => some ({ s with schedule := s.schedule.start s.now c t }, ())
  | .countRefreshing => some (s, s.schedule.loops.length)
  | .stopRefreshing => some ({ s with schedule := s.schedule.stop }, ())

/-- Lets a program wait at a query, with what it does when it goes on. -/
def suspend (s : Stage) (redemption : Bool) :
    (q : Query) → (Answer q → Dialogue surroundings Ending) → Stage
  | .pause d, next => { s with sleepers := s.sleepers ++ [(s.now + d, ⟨redemption, next ()⟩)] }
  | .enqueue m, next =>
    { s with
      outbound := s.outbound.put m
      producers := s.producers ++ [⟨redemption, next ()⟩] }
  | .lockJoins, next =>
    { s with joiners := s.joiners ++ [⟨redemption, .ask .lockJoins next⟩] }
  | .awaitReady, next => { s with expectant := s.expectant ++ [⟨redemption, next ()⟩] }
  | _, _ => s

/-- A program has ended. -/
def finish (s : Stage) : Ending → Stage
  | .nothing => s
  | .routed id r => s.record (.routed id r)
  | e => { s with ending := some e }

/-- Runs a program until it waits or ends. -/
def perform (s : Stage) (redemption : Bool) : Dialogue surroundings Ending → Stage
  | .done e => s.finish e
  | .ask q next =>
    match s.answer? q with
    | some (s, a) => s.perform redemption (next a)
    | none => s.suspend redemption q next

/-- Runs a program that does not wait; one that would is given up. -/
def performNow {α : Type} (s : Stage) : Dialogue surroundings α → Stage × Option α
  | .done a => (s, some a)
  | .ask q next =>
    match s.answer? q with
    | some (s, a) => s.performNow (next a)
    | none => (s, none)

/-! ## What goes on beside the programs -/

/-- The consumer takes a message and delivers it; then it pauses, and a producer that waits for
room can go on. -/
def consume (s : Stage) : Stage :=
  match s.outbound.take? with
  | none => s
  | some (m, q) =>
    let (s, _) := { s with outbound := q }.performNow (deliver m).outcome
    let q := s.outbound.finish
    let q := { q with phase := .pausing (s.now + q.delay) }
    let q' := q.unblock
    let freed := s.producers.take (q.blocked.length - q'.blocked.length)
    { s with outbound := q', producers := s.producers.drop freed.length }.resume freed

/-- Connects to the event stream, if there is anything to listen for. -/
def connect (s : Stage) : Stage :=
  let s := { s with stream := s.stream.resolving }
  let logins := Stream.loginsToResolve (s.memory.channelIds.map (·.1))
  let lookup : Program (List (String × String)) :=
    if logins.isEmpty then pure [] else resolveUserIds logins
  match s.performNow lookup.outcome with
  | (s, some (.ok ids)) =>
    let s := { s with stream := s.stream.resolved ids }
    if s.stream.topics.isEmpty then { s with stream := s.stream.ended s.now }
    else if s.streamDown then { s.record .refused with stream := s.stream.ended s.now }
    else
      let n := s.nonces + 1
      let request := Stream.listenRequest s.stream.topics s.memory.token
        ("nonce-" ++ toString n)
      { (s.record .connected).record (.listens request) with
        nonces := n
        stream := s.stream.opened s.now }
  | (s, _) => { s with stream := s.stream.ended s.now }

/-- Gives a sign of life; if that fails, the connection is closed. -/
def beat (s : Stage) : Stage :=
  if s.pingDown then (s.record .pingFailed).closeStream
  else { s.record .pinged with stream := { s.stream with beatAt := some (s.now + Stream.heartbeat) } }

/-- A refresh loop goes on. -/
def refreshLoop (s : Stage) (l : Refresh.Loop) : Stage :=
  match s.schedule.state? l.channel with
  | none => s
  | some state => match s.performNow (refresh s.setup state) with
    | (s, some after) => { s with schedule := s.schedule.settle s.now l after }
    | (s, none) => s

/-! ## Time -/

/-- What goes on when its time has come. -/
inductive Due where
  | sleeper (t : Task) (others : List (Nat × Task))
  | consumer
  | refresh (l : Refresh.Loop)
  | connect
  | beat

/-- The sleeper that goes on first, with its time and the others. -/
def firstSleeper? : List (Nat × Task) → Option (Nat × Task × List (Nat × Task))
  | [] => none
  | (time, t) :: rest =>
    match firstSleeper? rest with
    | none => some (time, t, [])
    | some (time', t', others) =>
      if time ≤ time' then some (time, t, rest) else some (time', t', (time, t) :: others)

/-- All that is due at some time. -/
def dues (s : Stage) : List (Nat × Due) :=
  (match firstSleeper? s.sleepers with
    | some (time, t, others) => [(time, .sleeper t others)]
    | none => []) ++
  (match s.outbound.phase with
    | .pausing time => [(time, .consumer)]
    | _ => []) ++
  (match s.schedule.first? with
    | some l => [(l.due, .refresh l)]
    | none => []) ++
  (match s.stream.connectAt with
    | some time => [(time, .connect)]
    | none => []) ++
  (match s.stream.beatAt with
    | some time => [(time, .beat)]
    | none => [])

/-- What is due first. -/
def firstDue? (s : Stage) : Option (Nat × Due) :=
  s.dues.foldl (fun best d => match best with
    | some b => if d.1 < b.1 then some d else best
    | none => some d) none

/-- Does what is due. -/
def doDue (s : Stage) : Due → Stage
  | .sleeper t others => { s with sleepers := others }.resume [t]
  | .consumer =>
    { s with outbound := { s.outbound with phase := .idle }, jobs := s.jobs ++ [.consume] }
  | .refresh l => s.refreshLoop l
  | .connect => s.connect
  | .beat => s.beat

/-- Does a job. -/
def doJob (s : Stage) : Job → Stage
  | .task t => s.perform t.redemption t.program
  | .consume => s.consume

/-- Goes on until nothing more can be done up to a time; the number bounds the steps. -/
def goOn (time : Nat) : Nat → Stage → Stage
  | 0, s => s
  | fuel + 1, s =>
    match s.jobs with
    | j :: rest => goOn time fuel ({ s with jobs := rest }.doJob j)
    | [] =>
      match s.firstDue? with
      | some (t, d) =>
        if t ≤ time then goOn time fuel ({ s with now := max s.now t }.doDue d) else s
      | none => s

/-- The most steps that are done at once. -/
def patience : Nat := 1000000

/-- Goes on until everything waits for time to pass. -/
def settle (s : Stage) : Stage := goOn s.now patience s

/-- Lets time pass. -/
def advance (s : Stage) (duration : Nat) : Stage :=
  let time := s.now + duration
  { goOn time patience s with now := time }

/-! ## Calls from outside -/

/-- Starts a program and goes on until everything waits. -/
def call (s : Stage) (program : Dialogue surroundings Ending) : Stage :=
  ({ s with ending := none }.resume [⟨false, program⟩]).settle

/-- Starts a program whose result is its answer. -/
def run {α : Type} (s : Stage) (ending : Except Fault α → Ending) (p : Program α) : Stage :=
  s.call do return ending (← p.outcome)

/-- A line of chat comes in. -/
def hear (s : Stage) (messageId line caller callerId : String) (badges : List String)
    (channel : String) : Stage :=
  s.call do
    let m ← Dialogue.query (I := surroundings) (.memory id)
    if !m.enabled.holds || callerId == m.botId then return .nothing
    let result ← (route s.setup line (Text.lower channel) caller badges
      (some ⟨some messageId, some channel⟩)).outcome
    return .routed messageId result

/-- A frame comes in on the event stream. A frame of the wrong shape ends the connection. -/
def receive (s : Stage) (frame : String) : Stage :=
  let s := match Stream.Frame.read frame with
    | .ok .nothing => s
    | .ok .reconnect => s.closeStream
    | .ok (.redemption channelId details) =>
      s.resume [⟨true, do
        let _ ← (redeem s.setup s.stream.known channelId details).outcome
        return .nothing⟩]
    | .error _ => s.closeStream
  s.settle

end Stage

end ChannelBot.Bot
