/-
Timed runs of the queue: producers put messages, the consumer is started and stopped, joins wait
for the queue to be done with, and the clock advances. How each send goes is given.
-/
import ChannelBot.Outbound.Queue

namespace ChannelBot.Outbound

/-- How a send goes: whether it fails, and how long it lasts. -/
structure Sending where
  fails : Bool
  lasts : Nat
  deriving Repr, DecidableEq

/-- A message that was handed to the sender: when, and which. -/
structure Handed (α : Type) where
  time : Nat
  message : α
  deriving Repr, DecidableEq

/-- A wait for the queue to be done with: since when, and until when if it is over. -/
structure Join where
  since : Nat
  ended : Option Nat
  deriving Repr, DecidableEq

/-- The state of a run. -/
structure Run (α : Type) where
  now : Nat := 0
  queue : Queue α
  handed : List (Handed α) := []
  /-- Those of the handed messages whose sends failed. -/
  failed : List (Handed α) := []
  joins : List Join := []
  deriving Repr, DecidableEq

namespace Run

variable {α : Type}

/-- Ends all waits if the queue is done with. -/
def release (r : Run α) : Run α :=
  if r.queue.unfinished == 0 then
    { r with joins := r.joins.map fun j => { j with ended := j.ended.or (some r.now) } }
  else r

/-- The message that was handed over last, if its send fails. -/
def failure? (how : α → Sending) (r : Run α) : Option (Handed α) :=
  r.handed.getLast?.filter fun h => (how h.message).fails

/-- The end of a send at a time: a failure is noted, and either way the message is done with and the
pause begins. -/
def endSend (how : α → Sending) (r : Run α) (time : Nat) : Run α :=
  { r with
    now := time
    queue := { r.queue.finish with phase := .pausing (time + r.queue.delay) }
    failed := r.failed ++ (r.failure? how).toList }.release

/-- The consumer hands a message to the sender. A send that lasts no time ends at once; blocked
producers put their messages when the consumer waits. -/
def hand (how : α → Sending) (r : Run α) (m : α) (q : Queue α) : Run α :=
  let r := { r with queue := q, handed := r.handed ++ [Handed.mk r.now m] }
  let r := if (how m).lasts == 0 then r.endSend how r.now
    else { r with queue := { r.queue with phase := .sending (r.now + (how m).lasts) } }
  { r with queue := r.queue.unblock }

/-- What the consumer does next, if it does anything up to a time. -/
def next? (how : α → Sending) (time : Nat) (r : Run α) : Option (Run α) :=
  match r.queue.phase with
  | .off => none
  | .idle => r.queue.take?.map fun (m, q) => r.hand how m q
  | .sending t => if t ≤ time then some (r.endSend how t) else none
  | .pausing t =>
    if t ≤ time then some { r with now := max r.now t, queue := { r.queue with phase := .idle } }
    else none

@[simp] theorem release_queue (r : Run α) : r.release.queue = r.queue := by
  unfold release; split <;> rfl

@[simp] theorem endSend_queue (how : α → Sending) (r : Run α) (time : Nat) :
    (r.endSend how time).queue = { r.queue.finish with phase := .pausing (time + r.queue.delay) } := release_queue _

theorem next?_remaining {how : α → Sending} {time : Nat} {r s : Run α}
    (h : r.next? how time = some s) : s.queue.remaining < r.queue.remaining := by
  unfold next? at h
  split at h
  · cases h
  · next hp =>
    simp only [Queue.take?, hp] at h
    cases hw : r.queue.waiting with
    | nil => simp [hw] at h
    | cons m rest =>
      simp only [hw, Option.map_some, Option.some.injEq] at h
      subst h
      simp only [hand]
      split
      · simp only [Queue.remaining, Queue.unblock_phase, endSend_queue, Queue.finish,
          Queue.unblock_load, hp, hw]
        simp; omega
      · simp only [Queue.remaining, Queue.unblock_phase, Queue.unblock_load, hp, hw]
        simp; omega
  · next hp =>
    split at h
    · simp only [Option.some.injEq] at h
      subst h
      simp [Queue.remaining, Queue.finish, hp]
    · cases h
  · next hp =>
    split at h
    · simp only [Option.some.injEq] at h
      subst h
      simp [Queue.remaining, hp]
    · cases h

/-- Lets the consumer go on until it has nothing more to do up to a time. -/
def settle (how : α → Sending) (time : Nat) (r : Run α) : Run α :=
  match _h : r.next? how time with
  | none => r
  | some s => settle how time s
  termination_by r.queue.remaining
  decreasing_by exact next?_remaining _h

/-- What happens to the queue from outside. -/
inductive Event (α : Type) where
  | put (m : α)
  | start
  | stop
  | join
  | advance (duration : Nat)
  deriving Repr, DecidableEq

/-- One event, and all that follows from it without more time. -/
def step (how : α → Sending) (r : Run α) : Event α → Run α
  | .put m => settle how r.now { r with queue := r.queue.put m }
  | .start => settle how r.now { r with queue := r.queue.start }
  | .stop => { r with queue := r.queue.stop }.release
  | .join => { r with joins := r.joins ++ [Join.mk r.now none] }.release
  | .advance d =>
    let time := r.now + d
    { settle how time r with now := time }

/-- A run of events. -/
def steps (how : α → Sending) (r : Run α) (es : List (Event α)) : Run α := es.foldl (step how) r

end Run

end ChannelBot.Outbound
