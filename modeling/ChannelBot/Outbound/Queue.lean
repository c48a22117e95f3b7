/-
The queue between the producers of messages and chat. One consumer takes the messages in order,
sends each, and pauses after each one. A producer that finds the queue full is blocked until the
consumer has made room.
-/

namespace ChannelBot.Outbound

/-- What the consumer does. Times are those at which it goes on. -/
inductive Phase where
  | off
  /-- It looks for a message. -/
  | idle
  | sending (deadline : Nat)
  | pausing (deadline : Nat)
  deriving Repr, DecidableEq

/-- The queue. A limit of 0 stands for none. -/
structure Queue (α : Type) where
  limit : Nat
  delay : Nat
  waiting : List α := []
  /-- The messages of blocked producers, in the order in which they were blocked. -/
  blocked : List α := []
  /-- How many messages were put and are not done with. -/
  unfinished : Nat := 0
  phase : Phase := .off
  deriving Repr, DecidableEq

namespace Queue

variable {α : Type}

/-- Whether no message can be put. -/
def isFull (q : Queue α) : Bool := q.limit != 0 && q.waiting.length ≥ q.limit

/-- Puts a message; a full queue blocks its producer. -/
def put (q : Queue α) (m : α) : Queue α :=
  if q.isFull then { q with blocked := q.blocked ++ [m] }
  else { q with waiting := q.waiting ++ [m], unfinished := q.unfinished + 1 }

/-- Lets the first blocked producer put its message, if there is room. -/
def unblock (q : Queue α) : Queue α :=
  match q.blocked with
  | [] => q
  | m :: rest =>
    if q.isFull then q
    else
      { q with waiting := q.waiting ++ [m], blocked := rest, unfinished := q.unfinished + 1 }

/-- The consumer takes a message in hand, if it is free and there is one. -/
def take? (q : Queue α) : Option (α × Queue α) :=
  match q.phase, q.waiting with
  | .idle, m :: rest => some (m, { q with waiting := rest })
  | _, _ => none

/-- The message in hand is done with. -/
def finish (q : Queue α) : Queue α := { q with unfinished := q.unfinished - 1 }

/-- Starts the consumer, if there is none. -/
def start (q : Queue α) : Queue α :=
  match q.phase with
  | .off => { q with phase := .idle }
  | _ => q

/-- Stops the consumer. A message that is being sent is done with. -/
def stop (q : Queue α) : Queue α :=
  match q.phase with
  | .sending _ => { q.finish with phase := .off }
  | _ => { q with phase := .off }

/-- How much the consumer has to do until it rests. -/
def remaining (q : Queue α) : Nat :=
  3 * (q.waiting.length + q.blocked.length) + match q.phase with
    | .sending _ => 2
    | .pausing _ => 1
    | _ => 0

@[simp] theorem put_phase (q : Queue α) (m : α) : (q.put m).phase = q.phase := by
  unfold put; split <;> rfl

@[simp] theorem unblock_phase (q : Queue α) : q.unblock.phase = q.phase := by
  unfold unblock; split
  · rfl
  · split <;> rfl

theorem unblock_load (q : Queue α) :
    q.unblock.waiting.length + q.unblock.blocked.length = q.waiting.length + q.blocked.length := by
  unfold unblock
  split
  · rfl
  · next h =>
    split
    · rfl
    · simp [h]; omega

/-- Letting producers in keeps the messages and their order. -/
theorem unblock_messages (q : Queue α) :
    q.unblock.waiting ++ q.unblock.blocked = q.waiting ++ q.blocked := by
  unfold unblock
  split
  · rfl
  · next h =>
    split
    · rfl
    · simp [h]

end Queue

end ChannelBot.Outbound
