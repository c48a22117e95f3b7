/-
The refresh loops of all channels. Each loop refreshes, waits, and refreshes again; what goes
wrong in one loop delays that loop only.
-/
import ChannelBot.Refresh.State
import ChannelBot.Value.Order

namespace ChannelBot.Refresh

/-- A loop: its channel, and when it goes on. -/
structure Loop where
  channel : Value
  due : Nat
  deriving Repr, DecidableEq

/-- The states of all channels that were ever started, and the loops that are live. -/
structure Schedule where
  states : List State := []
  loops : List Loop := []
  deriving Repr

namespace Schedule

/-- The state of a channel. -/
def state? (s : Schedule) (channel : Value) : Option State :=
  s.states.find? (·.channel.same channel)

/-- Puts the state of a channel. -/
def putState (s : Schedule) (state : State) : Schedule :=
  { s with states :=
      if s.states.any (·.channel.same state.channel) then
        s.states.map fun old => if old.channel.same state.channel then state else old
      else s.states ++ [state] }

/-- Whether a channel has a live loop. -/
def isLive (s : Schedule) (channel : Value) : Bool := s.loops.any (·.channel.same channel)

/-- Starts a loop for a channel, unless it has one. -/
def start (s : Schedule) (now : Nat) (channel refreshToken : Value) : Schedule :=
  if s.isLive channel then s
  else
    let s := s.putState { channel := channel, refreshToken := refreshToken }
    { s with loops := s.loops ++ [⟨channel, now⟩] }

/-- Ends all loops. -/
def stop (s : Schedule) : Schedule := { s with loops := [] }

/-- The loop that goes on first, the earliest started one of several. -/
def first? (s : Schedule) : Option Loop :=
  s.loops.foldl (fun best l => match best with
    | some b => if l.due < b.due then some l else best
    | none => some l) none

/-- The seconds to wait in microseconds. -/
def waitMicros (seconds : Int) : Nat := seconds.toNat * Moment.second

/-- The schedule after a refresh of a loop, which now waits for its next one. Of loops that are
due at one time, the one that began to wait first goes on first. -/
def settle (s : Schedule) (now : Nat) (l : Loop) (after : State × Except Fault Int) : Schedule :=
  let seconds := match after.2 with
    | .ok n => n
    | .error _ => retryDelay
  let s := s.putState after.1
  { s with loops := s.loops.filter (!·.channel.same l.channel) ++
      [⟨l.channel, now + waitMicros seconds⟩] }

/-- The channels that have a loop, in order if they have one. -/
def channels (s : Schedule) : List Value :=
  let names := s.loops.map (·.channel)
  match Value.sorted names with
  | .ok ordered => ordered
  | .error _ => names

end Schedule

end ChannelBot.Refresh
