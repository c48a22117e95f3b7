/-
The log: the latest events, and listeners that get every event from the moment they subscribe.
A listener that is too far behind is dropped at the next event; what it has waiting, it can
still read.
-/
import ChannelBot.Value.Write

namespace ChannelBot.Server

/-- Someone who listens to the log: the events that wait for it, in order, whether it gets more,
and whether it was told that the log is ready. -/
structure Listener where
  id : Nat
  waiting : List String
  attached : Bool
  greeted : Bool := false
  deriving Repr, DecidableEq

/-- How many events may wait for a listener. -/
def Listener.limit : Nat := 1000

/-- Hands an event to a listener, or drops the listener. -/
def Listener.offer (data : String) (l : Listener) : Listener :=
  if !l.attached then l
  else if l.waiting.length ≥ Listener.limit then { l with attached := false }
  else { l with waiting := l.waiting ++ [data] }

/-- The event that a listener gets first. -/
def Listener.ready : String := (Value.obj [("type", .str "ready")]).write Value.spaced

/-- What a listener reads next: that the log is ready, then the events that wait, one by one. -/
def Listener.next (l : Listener) : Listener × Option String :=
  if !l.greeted then ({ l with greeted := true }, some ready)
  else match l.waiting with
    | [] => (l, none)
    | e :: rest => ({ l with waiting := rest }, some e)

/-- The log. -/
structure LogBook where
  history : List Value := []
  listeners : List Listener := []
  opened : Nat := 0
  deriving Repr

namespace LogBook

/-- How many events are kept. -/
def historyLimit : Nat := 200

/-- The last items of a list. -/
def lastOf {α : Type} (n : Nat) (items : List α) : List α := items.drop (items.length - n)

/-- Logs an event and hands it to the listeners. -/
def broadcast (b : LogBook) (event : Value) : LogBook :=
  { b with
    history := lastOf historyLimit (b.history ++ [event])
    listeners := b.listeners.map (Listener.offer (event.write Value.spaced)) }

/-- The last events, at most so many. -/
def latest (b : LogBook) (limit : Int) : List Value :=
  if limit ≤ 0 then [] else lastOf limit.toNat b.history

/-- The event that a listener gets first. -/
def ready : String := Listener.ready

/-- Subscribes a new listener, and gives its number. -/
def subscribe (b : LogBook) : LogBook × Nat :=
  let l : Listener := { id := b.opened, waiting := [], attached := true }
  ({ b with listeners := b.listeners ++ [l], opened := b.opened + 1 }, b.opened)

/-- A listener reads on. -/
def pull (b : LogBook) (id : Nat) : LogBook × Option String :=
  ({ b with listeners := b.listeners.map fun l => if l.id == id then l.next.1 else l },
    (b.listeners.find? (·.id == id)).bind fun l => l.next.2)

/-- The events that wait for a listener, which takes them. -/
def take (b : LogBook) (id : Nat) : LogBook × List String :=
  ({ b with listeners :=
      b.listeners.map fun l => if l.id == id then { l with waiting := [] } else l },
    (b.listeners.filter (·.id == id)).flatMap (·.waiting))

/-- Ends a listener. -/
def unsubscribe (b : LogBook) (id : Nat) : LogBook :=
  { b with listeners := b.listeners.filter (·.id != id) }

/-- How many listeners get events. -/
def audience (b : LogBook) : Nat := (b.listeners.filter (·.attached)).length

end LogBook

end ChannelBot.Server
