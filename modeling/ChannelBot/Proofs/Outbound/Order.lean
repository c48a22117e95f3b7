/-
The queue keeps all messages, and their order. At every moment what was handed to the sender, then
what waits, then what blocked producers hold is what was submitted, in the order of submission
(`keeps_messages`). A producer is blocked only while the queue is full (`Queue.Orderly`), so no
message can overtake one that came before it.
-/
import ChannelBot.Proofs.Outbound.Moments

namespace ChannelBot.Outbound

namespace Queue

variable {α : Type} {q q' : Queue α}

/-- There are no more messages than the limit allows, and a producer is blocked only if there are as many. -/
structure Orderly (q : Queue α) : Prop where
  bounded : q.limit ≠ 0 → q.waiting.length ≤ q.limit
  crowded : q.blocked ≠ [] → q.isFull = true

/-- The messages that are put and not handed over yet, those of blocked producers last. -/
def messages (q : Queue α) : List α := q.waiting ++ q.blocked

theorem isFull_iff : q.isFull = true ↔ q.limit ≠ 0 ∧ q.limit ≤ q.waiting.length := by
  simp [isFull]

/-- The phase of the consumer and the count of the unfinished have no part in the order. -/
theorem Orderly.congr (h : q.Orderly) (hlimit : q'.limit = q.limit) (hwaiting : q'.waiting = q.waiting)
    (hblocked : q'.blocked = q.blocked) : q'.Orderly := by
  obtain ⟨hbounded, hcrowded⟩ := h
  constructor
  · rw [hlimit, hwaiting]
    exact hbounded
  · rw [hblocked, isFull_iff, hlimit, hwaiting, ← isFull_iff]
    exact hcrowded

@[simp] theorem put_limit (q : Queue α) (m : α) : (q.put m).limit = q.limit := by
  unfold put; split <;> rfl

@[simp] theorem unblock_limit (q : Queue α) : q.unblock.limit = q.limit := by
  unfold unblock; split
  · rfl
  · split <;> rfl

@[simp] theorem start_limit (q : Queue α) : q.start.limit = q.limit := by
  unfold start; split <;> rfl

@[simp] theorem stop_limit (q : Queue α) : q.stop.limit = q.limit := by
  unfold stop; split <;> rfl

@[simp] theorem start_messages (q : Queue α) : q.start.messages = q.messages := by
  unfold start; split <;> rfl

@[simp] theorem stop_messages (q : Queue α) : q.stop.messages = q.messages := by
  unfold stop; split <;> rfl

/-- A message that is put comes after all others. -/
theorem Orderly.put_messages (h : q.Orderly) (m : α) : (q.put m).messages = q.messages ++ [m] := by
  unfold put messages
  split
  · exact (List.append_assoc _ _ _).symm
  · rename_i hfull
    have hnone : q.blocked = [] := by
      cases hblocked : q.blocked with
      | nil => rfl
      | cons b rest => exact absurd (h.crowded (by rw [hblocked]; exact List.cons_ne_nil b rest)) hfull
    simp [hnone]

theorem Orderly.put (h : q.Orderly) (m : α) : (q.put m).Orderly := by
  unfold Queue.put
  split
  · rename_i hfull
    exact ⟨h.bounded, fun _ => hfull⟩
  · rename_i hfull
    rw [isFull_iff, not_and, Nat.not_le] at hfull
    refine ⟨fun hlimit => ?_, fun hblocked => ?_⟩
    · have hroom := hfull hlimit
      simp only [List.length_append, List.length_singleton]
      omega
    · have hcrowded := isFull_iff.mp (h.crowded hblocked)
      exact absurd (hfull hcrowded.1) (Nat.not_lt.mpr hcrowded.2)

theorem Orderly.start (h : q.Orderly) : q.start.Orderly := by
  unfold Queue.start
  split
  · exact h.congr rfl rfl rfl
  · exact h

theorem Orderly.stop (h : q.Orderly) : q.stop.Orderly := by
  unfold Queue.stop
  split <;> exact h.congr rfl rfl rfl

/-- After a message is taken one blocked producer, if there is any, fills the room again. -/
theorem Orderly.unblock {m : α} {rest : List α} (h : q.Orderly) (hwaiting : q.waiting = m :: rest)
    (hlimit : q'.limit = q.limit) (hrest : q'.waiting = rest) (hblocked : q'.blocked = q.blocked) :
    q'.unblock.Orderly := by
  have hbounded := h.bounded
  rw [hwaiting, List.length_cons] at hbounded
  unfold Queue.unblock
  split
  · rename_i hnone
    refine ⟨fun hlim => ?_, fun hsome => absurd hnone hsome⟩
    rw [hlimit] at hlim ⊢
    rw [hrest]
    have hle := hbounded hlim
    omega
  · rename_i b later hb
    have hcrowded := isFull_iff.mp (h.crowded (by rw [← hblocked, hb]; exact List.cons_ne_nil b later))
    rw [hwaiting, List.length_cons] at hcrowded
    have hle := hbounded hcrowded.1
    have hroom : ¬ q'.isFull = true := by
      rw [isFull_iff, hlimit, hrest]
      omega
    rw [if_neg hroom]
    refine ⟨fun _ => ?_, fun _ => isFull_iff.mpr ?_⟩ <;>
      simp only [hlimit, hrest, List.length_append, List.length_singleton]
    · omega
    · exact ⟨hcrowded.1, hcrowded.2⟩

end Queue

namespace Run

variable {α : Type} {how : α → Sending} {r r₀ s : Run α} {log log' : Log α} {time : Nat}

theorem hand_messages (r : Run α) (m : α) (q : Queue α) : (r.hand how m q).queue.messages = q.messages := by
  unfold hand
  dsimp only
  split
  · exact (Queue.unblock_messages _).trans (by rw [endSend_queue]; rfl)
  · exact Queue.unblock_messages _

@[simp] theorem hand_limit (r : Run α) (m : α) (q : Queue α) : (r.hand how m q).queue.limit = q.limit := by
  unfold hand
  dsimp only
  split
  · exact (Queue.unblock_limit _).trans (by rw [endSend_queue]; rfl)
  · exact Queue.unblock_limit _

theorem hand_orderly {m : α} {rest : List α} (h : r.queue.Orderly) (hwaiting : r.queue.waiting = m :: rest) :
    (r.hand how m { r.queue with waiting := rest }).queue.Orderly := by
  unfold hand
  dsimp only
  split <;> refine h.unblock hwaiting ?_ ?_ ?_ <;> first | rfl | (rw [endSend_queue]; rfl)

/-- All messages: those that were handed to the sender, those that wait, those of blocked producers. -/
def messages (r : Run α) : List α := r.handed.map (·.message) ++ r.queue.messages

theorem messages_congr (hhanded : s.handed = r.handed) (hqueue : s.queue.messages = r.queue.messages) :
    s.messages = r.messages := by
  rw [messages, messages, hhanded, hqueue]

/-- What a step of the consumer does to the messages: none is lost, and what was handed over stays so. -/
structure Keeps (r s : Run α) : Prop where
  orderly : s.queue.Orderly
  limit : s.queue.limit = r.queue.limit
  messages : s.messages = r.messages
  handed : r.handed <+: s.handed

theorem next?_keeps (h : r.queue.Orderly) (hs : r.next? how time = some s) : r.Keeps s := by
  rcases next?_cases hs with ⟨m, rest, -, hwaiting, rfl⟩ | ⟨t, -, -, rfl⟩ | ⟨t, -, -, rfl⟩
  · refine ⟨hand_orderly h hwaiting, hand_limit _ _ _, ?_, ?_⟩
    · rw [messages, hand_handed, hand_messages, messages, Queue.messages, Queue.messages, hwaiting]
      simp
    · rw [hand_handed]
      exact List.prefix_append _ _
  · refine ⟨?_, ?_, ?_, ?_⟩
    · rw [endSend_queue]
      exact h.congr rfl rfl rfl
    · rw [endSend_queue]
      rfl
    · rw [messages, endSend_handed, endSend_queue]
      rfl
    · exact (endSend_handed ..).symm ▸ List.prefix_rfl
  · exact ⟨h.congr rfl rfl rfl, rfl, rfl, List.prefix_rfl⟩

/-- Along a run messages are only added, at the end, and what was handed over stays so. -/
theorem Passes.keeps (h : Passes how r₀ log r) (h₀ : r₀.queue.Orderly) :
    r.queue.Orderly ∧ r.queue.limit = r₀.queue.limit ∧ r.messages = r₀.messages ++ log.submitted.map (·.2) ∧
      r₀.handed <+: r.handed := by
  induction h with
  | here => exact ⟨h₀, rfl, (List.append_nil _).symm, List.prefix_rfl⟩
  | @put log r _ m ih =>
    obtain ⟨horderly, hlimit, hmessages, hhanded⟩ := ih
    refine ⟨horderly.put m, (Queue.put_limit _ _).trans hlimit, ?_, hhanded⟩
    have hput : ({ r with queue := r.queue.put m } : Run α).messages = r.messages ++ [m] := by
      rw [messages, messages, horderly.put_messages, List.append_assoc]
    rw [hput, hmessages, Log.submitted_put, List.map_append, List.append_assoc]
    rfl
  | start _ ih =>
    obtain ⟨horderly, hlimit, hmessages, hhanded⟩ := ih
    refine ⟨horderly.start, (Queue.start_limit _).trans hlimit, ?_, hhanded⟩
    rw [Log.submitted_start, ← hmessages]
    exact messages_congr rfl (Queue.start_messages _)
  | stop _ ih =>
    obtain ⟨horderly, hlimit, hmessages, hhanded⟩ := ih
    rw [release_queue, release_handed, Log.submitted_stop, ← hmessages]
    refine ⟨horderly.stop, (Queue.stop_limit _).trans hlimit, ?_, hhanded⟩
    exact messages_congr (release_handed _) (by rw [release_queue]; exact Queue.stop_messages _)
  | join _ ih =>
    obtain ⟨horderly, hlimit, hmessages, hhanded⟩ := ih
    rw [release_queue, release_handed, Log.submitted_join, ← hmessages]
    exact ⟨horderly, hlimit, messages_congr (release_handed _) (by rw [release_queue]), hhanded⟩
  | consume _ hs ih =>
    obtain ⟨horderly, hlimit, hmessages, hhanded⟩ := ih
    obtain ⟨horderly', hlimit', hmessages', hhanded'⟩ := next?_keeps horderly hs
    exact ⟨horderly', hlimit'.trans hlimit, hmessages'.trans hmessages, hhanded.trans hhanded'⟩
  | wait _ _ _ ih => exact ih

/-- The first message takes its time, the second one fails. -/
def stubborn (m : Nat) : Sending := ⟨m == 2, if m = 1 then 5 else 0⟩

end Run

end ChannelBot.Outbound
