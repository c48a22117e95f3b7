/-
The log and its listeners, step by step. What is kept of the events is the last of them (`latest_after`). A
listener reads what it is owed: that the log is ready, and then the events since it subscribed, in order and
each once, up to the first one that finds a thousand waiting (`hears`). The steps of one listener change
nothing for the history or for another one (`Beside.reads`).
-/
import Mathlib.Data.List.Induction
import ChannelBot.Server.LogBook

namespace ChannelBot.Server

/-! ## Steps -/

/-- What can happen to the log: an event is told, a listener subscribes, reads on, or goes. -/
inductive LogStep where
  | told (event : Value)
  | opened
  | pulled (id : Nat)
  | left (id : Nat)

/-- The event that a step tells. -/
def LogStep.event? : LogStep → Option Value
  | .told e => some e
  | _ => none

/-- Whether a step is one of a listener. -/
def LogStep.isOf (id : Nat) : LogStep → Bool
  | .pulled i | .left i => i == id
  | _ => false

/-- The events of some steps, in order. -/
def events (steps : List LogStep) : List Value := steps.filterMap LogStep.event?

@[simp] theorem events_append (steps later : List LogStep) : events (steps ++ later) = events steps ++ events later :=
  List.filterMap_append ..

namespace LogBook

variable {b b' : LogBook} {steps : List LogStep} {id : Nat}

/-- The log after a step. -/
def step (b : LogBook) : LogStep → LogBook
  | .told e => b.broadcast e
  | .opened => b.subscribe.1
  | .pulled id => (b.pull id).1
  | .left id => b.unsubscribe id

/-- The log after some steps. -/
def after (b : LogBook) (steps : List LogStep) : LogBook := steps.foldl step b

/-- What a listener reads at a step. -/
def read (b : LogBook) (id : Nat) : LogStep → List String
  | .pulled i => if i = id then (b.pull i).2.toList else []
  | _ => []

/-- What a listener reads in some steps, in order. -/
def reads (b : LogBook) (id : Nat) : List LogStep → List String
  | [] => []
  | s :: rest => b.read id s ++ (b.step s).reads id rest

/-- The listener of a number. -/
def listener? (b : LogBook) (id : Nat) : Option Listener := b.listeners.find? (·.id == id)

theorem after_append (b : LogBook) (steps later : List LogStep) :
    b.after (steps ++ later) = (b.after steps).after later := List.foldl_append ..

end LogBook

/-! ## One listener -/

namespace Listener

/-- What a listener is owed: that the log is ready, if it was not told, and what waits. -/
def owed (l : Listener) : List String := (if l.greeted then [] else [ready]) ++ l.waiting

/-- What a step of the log does to a listener that stays. -/
def meet (l : Listener) : LogStep → Listener
  | .told e => l.offer (e.write Value.spaced)
  | .pulled i => if i = l.id then l.next.1 else l
  | .opened | .left _ => l

/-- What a listener reads at a step. -/
def reading (l : Listener) : LogStep → List String
  | .pulled i => if i = l.id then l.next.2.toList else []
  | _ => []

/-- The event that a step puts into the queue of a listener. -/
def gain (l : Listener) : LogStep → List Value
  | .told e => if l.attached ∧ l.waiting.length < limit then [e] else []
  | _ => []

variable {l : Listener}

@[simp] theorem offer_id (data : String) (l : Listener) : (l.offer data).id = l.id := by
  rw [offer]
  split
  · rfl
  · split <;> rfl

@[simp] theorem next_id (l : Listener) : l.next.1.id = l.id := by
  rw [next]
  split
  · rfl
  · split <;> rfl

/-- To read on is to get the first thing that is owed. -/
theorem next_eq (l : Listener) : l.next.2 = l.owed.head? ∧ l.next.1.owed = l.owed.tail := by
  rw [next]
  cases hgreeted : l.greeted with
  | false => simp [owed, hgreeted]
  | true => cases hwaiting : l.waiting <;> simp [owed, hgreeted, hwaiting]

@[simp] theorem next_attached (l : Listener) : l.next.1.attached = l.attached := by
  rw [next]
  split
  · rfl
  · split <;> rfl

theorem meet_id (l : Listener) (s : LogStep) : (l.meet s).id = l.id := by
  cases s with
  | told e => exact offer_id ..
  | pulled i =>
    rw [meet]
    split
    · exact next_id l
    · rfl
  | opened | left i => rfl

theorem gain_eq_nil (h : l.attached = false) (s : LogStep) : l.gain s = [] := by
  cases s with
  | told e => simp [gain, h]
  | opened | pulled i | left i => rfl

theorem gain_eq_events {s : LogStep} (h : l.attached = true) (hs : ∀ e, s = .told e → l.waiting.length < limit) :
    l.gain s = events [s] := by
  cases s with
  | told e =>
    rw [gain, if_pos ⟨h, hs e rfl⟩]
    rfl
  | opened | pulled i | left i => rfl

/-- A listener keeps getting events unless one finds its queue full. -/
theorem meet_attached (l : Listener) (s : LogStep) :
    (l.meet s).attached = true ↔ l.attached = true ∧ ∀ e, s = .told e → l.waiting.length < limit := by
  cases s with
  | told e =>
    rw [meet, offer]
    cases hattached : l.attached with
    | false => simp [hattached]
    | true =>
      by_cases hroom : l.waiting.length < limit
      · simp [hroom, Nat.not_le.mpr hroom]
      · simp [hroom, Nat.not_lt.mp hroom]
  | pulled i =>
    rw [meet]
    split <;> simp
  | opened | left i => simp [meet]

end Listener

namespace LogBook

variable {b b' : LogBook} {steps life : List LogStep} {s : LogStep} {id : Nat} {l : Listener}

/-! ## Many listeners -/

theorem listener?_id (h : b.listener? id = some l) : l.id = id := by
  have hfound := List.find?_some h
  simpa using hfound

/-- What is done to every listener and keeps its number, is done to the one of a number. -/
theorem find?_map_id (f : Listener → Listener) (hf : ∀ l, (f l).id = l.id) (listeners : List Listener) (id : Nat) :
    (listeners.map f).find? (·.id == id) = (listeners.find? (·.id == id)).map f := by
  have hsame : ((·.id == id) ∘ f : Listener → Bool) = (·.id == id) := funext fun l => by simp [hf]
  rw [List.find?_map, hsame]

theorem listener?_told (b : LogBook) (e : Value) (id : Nat) :
    (b.step (.told e)).listener? id = (b.listener? id).map (·.meet (.told e)) :=
  find?_map_id _ (Listener.offer_id _) _ _

theorem listener?_pulled (b : LogBook) (i id : Nat) :
    (b.step (.pulled i)).listener? id = (b.listener? id).map (·.meet (.pulled i)) := by
  have hmeet : (fun l : Listener => if l.id == i then l.next.1 else l) = (·.meet (.pulled i)) := by
    funext l
    by_cases hl : i = l.id
    · simp [Listener.meet, hl]
    · simp [Listener.meet, hl, Ne.symm hl]
  show (b.listeners.map fun l => if l.id == i then l.next.1 else l).find? (·.id == id) = _
  rw [hmeet]
  exact find?_map_id _ (fun l => l.meet_id _) _ _

theorem listener?_opened (b : LogBook) (id : Nat) :
    (b.step .opened).listener? id =
      (b.listener? id).or
        (if b.opened = id then some { id := b.opened, waiting := [], attached := true } else none) := by
  show (b.listeners ++ [_]).find? (fun l : Listener => l.id == id) = _
  rw [List.find?_append, List.find?_singleton]
  simp only [beq_iff_eq]
  rfl

theorem listener?_left (b : LogBook) (i id : Nat) :
    (b.step (.left i)).listener? id = if i = id then none else b.listener? id := by
  show (b.listeners.filter (·.id != i)).find? (·.id == id) = _
  rw [List.find?_filter]
  split
  next heq =>
    subst heq
    rw [List.find?_eq_none]
    simp
  next hne =>
    rw [listener?]
    congr 1
    funext l
    by_cases hl : l.id = id
    · have hother : id ≠ i := fun h => hne h.symm
      simp [hl, hother]
    · simp [hl]

/-- A listener meets every step, but its own leave. -/
theorem listener?_step (h : b.listener? id = some l) (hs : s ≠ .left id) :
    (b.step s).listener? id = some (l.meet s) := by
  cases s with
  | told e => rw [listener?_told, h, Option.map_some]
  | opened =>
    rw [listener?_opened, h, Option.some_or]
    rfl
  | pulled i => rw [listener?_pulled, h, Option.map_some]
  | left i =>
    have hother : i ≠ id := fun heq => hs (heq ▸ rfl)
    rw [listener?_left, if_neg hother, h]
    rfl

theorem read_eq (h : b.listener? id = some l) (s : LogStep) : b.read id s = l.reading s := by
  have hid := listener?_id h
  cases s with
  | pulled i =>
    rw [read, Listener.reading, hid]
    split
    next heq =>
      subst heq
      show ((b.listener? i).bind fun l => l.next.2).toList = _
      rw [h, Option.bind_some]
    next => rfl
  | told e | opened | left i => rfl

/-- Who is no listener reads nothing. -/
theorem read_none (h : b.listener? id = none) (s : LogStep) : b.read id s = [] := by
  cases s with
  | pulled i =>
    rw [read]
    split
    next heq =>
      subst heq
      show ((b.listener? i).bind fun l => l.next.2).toList = []
      rw [h]
      rfl
    next => rfl
  | told e | opened | left i => rfl

/-! ## What a listener hears -/

/-- How many events wait for a listener. -/
def backlog (b : LogBook) (id : Nat) : Nat := (b.listener? id).elim 0 (·.waiting.length)

/-- Whether a listener gets the next event. -/
def attends (b : LogBook) (id : Nat) : Bool := (b.listener? id).any (·.attached)

/-- What a listener is owed. -/
def owed (b : LogBook) (id : Nat) : List String := (b.listener? id).elim [] Listener.owed

/-- No event of some steps finds the queue of a listener full. -/
def Room (b : LogBook) (id : Nat) (steps : List LogStep) : Prop :=
  ∀ before e later, steps = before ++ .told e :: later → (b.after before).backlog id < Listener.limit

/-- What a listener hears of some steps: all events if none finds its queue full, and then it goes on to
hear; else what comes before the first one that does, and then it is dropped. -/
inductive Hears (b : LogBook) (id : Nat) (steps : List LogStep) : List Value → Prop
  | all (room : b.Room id steps) (attends : (b.after steps).attends id = true) : Hears b id steps (events steps)
  | dropped (before : List LogStep) (e : Value) (later : List LogStep) (split : steps = before ++ .told e :: later)
    (room : b.Room id before) (full : (b.after before).backlog id = Listener.limit)
    (gone : (b.after steps).attends id = false) : Hears b id steps (events before)

theorem after_snoc (b : LogBook) (steps : List LogStep) (s : LogStep) :
    b.after (steps ++ [s]) = (b.after steps).step s := b.after_append steps [s]

theorem Room.snoc (h : b.Room id steps) (hs : ∀ e, s = .told e → (b.after steps).backlog id < Listener.limit) :
    b.Room id (steps ++ [s]) := by
  intro before e later hsplit
  rcases List.eq_nil_or_concat later with rfl | ⟨rest, t, rfl⟩
  · obtain ⟨rfl, hlast⟩ := List.append_inj' hsplit rfl
    exact hs e (List.head_eq_of_cons_eq hlast)
  · rw [List.concat_eq_append, ← List.cons_append, ← List.append_assoc] at hsplit
    exact h before e rest (List.append_inj' hsplit rfl).1

/-- One step more: a listener hears what it gains by it. -/
theorem Hears.snoc {heard : List Value} (h : b.Hears id steps heard) (hl : (b.after steps).listener? id = some l)
    (hlength : l.waiting.length ≤ Listener.limit) (hs : s ≠ .left id) :
    b.Hears id (steps ++ [s]) (heard ++ l.gain s) := by
  have hbacklog : (b.after steps).backlog id = l.waiting.length := by rw [backlog, hl, Option.elim_some]
  have hattends : (b.after steps).attends id = l.attached := by rw [attends, hl, Option.any_some]
  have hnext : (b.after (steps ++ [s])).attends id = (l.meet s).attached := by
    rw [after_snoc, attends, listener?_step hl hs, Option.any_some]
  cases h with
  | all room attached =>
    rw [hattends] at attached
    by_cases hfits : ∀ e, s = .told e → l.waiting.length < Listener.limit
    · have hall : events steps ++ l.gain s = events (steps ++ [s]) := by
        rw [events_append, Listener.gain_eq_events attached hfits]
      rw [hall]
      exact .all (room.snoc (hbacklog ▸ hfits)) (hnext ▸ (l.meet_attached s).mpr ⟨attached, hfits⟩)
    · have hlost : (l.meet s).attached = false :=
        Bool.eq_false_iff.mpr fun h => hfits ((l.meet_attached s).mp h).2
      obtain ⟨e, hlate⟩ := Classical.not_forall.mp hfits
      obtain ⟨rfl, hfull⟩ := Classical.not_imp.mp hlate
      rw [Listener.gain, if_neg fun h => hfull h.2, List.append_nil]
      have hlimit : l.waiting.length = Listener.limit := Nat.le_antisymm hlength (Nat.not_lt.mp hfull)
      exact .dropped steps e [] rfl room (hbacklog.trans hlimit) (hnext.trans hlost)
  | dropped before e later hsplit room full gone =>
    rw [hattends] at gone
    have hlost : (l.meet s).attached = false :=
      Bool.eq_false_iff.mpr fun h => Bool.false_ne_true (gone.symm.trans ((l.meet_attached s).mp h).1)
    rw [Listener.gain_eq_nil gone, List.append_nil]
    refine .dropped before e (later ++ [s]) ?_ room full (hnext.trans hlost)
    rw [hsplit, List.append_assoc, List.cons_append]

/-- Who has room hears one event. -/
theorem Hears.single {e : Value} {heard : List Value} (h : b.Hears id [.told e] heard)
    (hroom : b.backlog id < Listener.limit) : heard = [e] := by
  cases h with
  | all => rfl
  | dropped before e later hsplit _ hfull =>
    cases before with
    | nil => exact absurd hfull (Nat.ne_of_lt hroom)
    | cons s rest =>
      have hnone := (List.cons.inj hsplit).2
      simp at hnone

/-- As often as a listener reads on, so much it gets of what it is owed. -/
theorem reads_pulled (h : b.listener? id = some l) (n : Nat) :
    b.reads id (List.replicate n (.pulled id)) = l.owed.take n := by
  induction n generalizing b l with
  | zero => rfl
  | succ n ih =>
    have hid := listener?_id h
    have hreading : l.reading (.pulled id) = l.owed.head?.toList := by
      rw [Listener.reading, if_pos hid.symm, l.next_eq.1]
    have hmeet : (l.meet (.pulled id)).owed = l.owed.tail := by rw [Listener.meet, if_pos hid.symm, l.next_eq.2]
    rw [List.replicate_succ, reads, read_eq h, ih (listener?_step h LogStep.noConfusion), hreading, hmeet]
    cases l.owed with
    | nil => exact List.take_nil
    | cons first rest => rfl

/-! ## Numbers of listeners -/

/-- Listeners have numbers that were given out, the later the higher. -/
structure Numbered (b : LogBook) : Prop where
  given : ∀ l ∈ b.listeners, l.id < b.opened
  ascending : b.listeners.Pairwise (·.id < ·.id)

theorem Numbered.step (h : b.Numbered) (s : LogStep) : (b.step s).Numbered := by
  have hmap : ∀ {f : Listener → Listener} {history : List Value}, (∀ l, (f l).id = l.id) →
      ({ b with history := history, listeners := b.listeners.map f } : LogBook).Numbered := by
    intro f history hf
    refine ⟨?_, ?_⟩
    · intro l hl
      obtain ⟨k, hk, rfl⟩ := List.mem_map.mp hl
      exact (hf k).symm ▸ h.given k hk
    · rw [List.pairwise_map]
      simpa only [hf] using h.ascending
  cases s with
  | told e => exact hmap (Listener.offer_id _)
  | pulled i =>
    refine hmap fun l => ?_
    split
    · exact l.next_id
    · rfl
  | opened =>
    refine ⟨?_, ?_⟩
    · intro l hl
      rcases List.mem_append.mp hl with hl | hl
      · exact Nat.lt_succ_of_lt (h.given l hl)
      · obtain rfl := List.mem_singleton.mp hl
        exact Nat.lt_succ_self _
    · refine List.pairwise_append.mpr ⟨h.ascending, List.pairwise_singleton .., ?_⟩
      intro l hl k hk
      obtain rfl := List.mem_singleton.mp hk
      exact h.given l hl
  | left i => exact ⟨fun l hl => h.given l (List.mem_filter.mp hl).1, h.ascending.filter _⟩

theorem Numbered.after (h : b.Numbered) (steps : List LogStep) : (b.after steps).Numbered := by
  induction steps generalizing b with
  | nil => exact h
  | cons s rest ih => exact ih (h.step s)

/-- The number that is given out next is no listener's. -/
theorem Numbered.listener?_of_le (h : b.Numbered) (hid : b.opened ≤ id) : b.listener? id = none := by
  rw [listener?, List.find?_eq_none]
  intro l hl
  have hgiven := h.given l hl
  simp only [beq_iff_eq]
  omega

/-- Who subscribes is a listener that is owed that the log is ready. -/
theorem Numbered.listener?_opened (h : b.Numbered) :
    (b.step .opened).listener? b.opened = some { id := b.opened, waiting := [], attached := true } := by
  rw [LogBook.listener?_opened, h.listener?_of_le (Nat.le_refl _), Option.none_or, if_pos rfl]

/-- There is one listener of a number at most. -/
theorem Numbered.filter_eq (h : b.Numbered) (id : Nat) :
    b.listeners.filter (·.id == id) = (b.listener? id).toList := by
  have hascending := h.ascending
  rw [listener?]
  generalize b.listeners = listeners at hascending
  induction hascending with
  | nil => rfl
  | @cons l rest hlater _ ih =>
    by_cases hid : l.id = id
    · have hnone : rest.filter (·.id == id) = [] := by
        rw [List.filter_eq_nil_iff]
        intro k hk
        have hlt := hlater k hk
        simp only [beq_iff_eq]
        omega
      rw [List.filter_cons_of_pos (by simp [hid]), List.find?_cons_of_pos (by simp [hid]), hnone]
      rfl
    · rw [List.filter_cons_of_neg (by simp [hid]), List.find?_cons_of_neg (by simp [hid]), ih]

/-- To take all that waits is to read on until nothing waits. -/
theorem Numbered.take_eq (h : b.Numbered) (hl : b.listener? id = some l) (hgreeted : l.greeted = true) :
    (b.take id).2 = b.reads id (List.replicate l.waiting.length (.pulled id)) := by
  have howed : l.owed = l.waiting := by rw [Listener.owed, if_pos hgreeted, List.nil_append]
  rw [take, h.filter_eq, hl, reads_pulled hl, howed, List.take_length, Option.toList_some, List.flatMap_singleton]

/-- The logs are the same but for one listener. -/
structure Beside (i : Nat) (b b' : LogBook) : Prop where
  history : b.history = b'.history
  opened : b.opened = b'.opened
  others : ∀ j, j ≠ i → b.listener? j = b'.listener? j

variable {i j : Nat}

theorem Beside.refl (i : Nat) (b : LogBook) : Beside i b b := ⟨rfl, rfl, fun _ _ => rfl⟩

theorem Beside.step (h : Beside i b b') (s : LogStep) : Beside i (b.step s) (b'.step s) := by
  have hothers := h.others
  cases s with
  | told e =>
    refine ⟨?_, ?_, fun j hj => ?_⟩
    · rw [LogBook.step, LogBook.step, broadcast, broadcast, h.history]
    · rw [LogBook.step, LogBook.step, broadcast, broadcast, h.opened]
    · rw [listener?_told, listener?_told, hothers j hj]
  | opened =>
    refine ⟨h.history, congrArg (· + 1) h.opened, fun j hj => ?_⟩
    rw [LogBook.listener?_opened, LogBook.listener?_opened, hothers j hj, h.opened]
  | pulled k =>
    refine ⟨h.history, h.opened, fun j hj => ?_⟩
    rw [listener?_pulled, listener?_pulled, hothers j hj]
  | left k =>
    refine ⟨h.history, h.opened, fun j hj => ?_⟩
    rw [listener?_left, listener?_left, hothers j hj]

/-- What the listener does itself does not matter. -/
theorem Beside.own (h : Beside i b b') (hs : s.isOf i = true) : Beside i (b.step s) b' := by
  cases s with
  | told e | opened => cases hs
  | pulled k =>
    obtain rfl : k = i := by simpa [LogStep.isOf] using hs
    refine ⟨h.history, h.opened, fun j hj => ?_⟩
    rw [listener?_pulled, ← h.others j hj]
    cases hl : b.listener? j with
    | none => rfl
    | some l =>
      have hother : k ≠ l.id := fun heq => hj (heq.trans (listener?_id hl)).symm
      rw [Option.map_some, Listener.meet, if_neg hother]
  | left k =>
    obtain rfl : k = i := by simpa [LogStep.isOf] using hs
    refine ⟨h.history, h.opened, fun j hj => ?_⟩
    rw [listener?_left, if_neg (Ne.symm hj), h.others j hj]

theorem Beside.read (h : Beside i b b') (hj : j ≠ i) (s : LogStep) : b.read j s = b'.read j s := by
  have hsame := h.others j hj
  cases hl : b.listener? j with
  | none => rw [read_none hl, read_none (hsame ▸ hl)]
  | some l => rw [read_eq hl, read_eq (hsame ▸ hl)]

theorem read_own (hs : s.isOf i = true) (hj : j ≠ i) : b.read j s = [] := by
  cases s with
  | pulled k =>
    obtain rfl : k = i := by simpa [LogStep.isOf] using hs
    rw [LogBook.read, if_neg (Ne.symm hj)]
  | told e | opened | left k => rfl

/-- Without the steps of a listener the others read the same, and the history is the same. -/
theorem Beside.reads (h : Beside i b b') (steps : List LogStep) :
    Beside i (b.after steps) (b'.after (steps.filter (!·.isOf i))) ∧
      ∀ j, j ≠ i → b.reads j steps = b'.reads j (steps.filter (!·.isOf i)) := by
  induction steps generalizing b b' with
  | nil => exact ⟨h, fun _ _ => rfl⟩
  | cons s rest ih =>
    cases hs : s.isOf i with
    | true =>
      obtain ⟨hafter, hreads⟩ := ih (h.own hs)
      rw [List.filter_cons_of_neg (by simp [hs])]
      refine ⟨hafter, fun j hj => ?_⟩
      rw [LogBook.reads, read_own hs hj, List.nil_append, hreads j hj]
    | false =>
      obtain ⟨hafter, hreads⟩ := ih (h.step s)
      rw [List.filter_cons_of_pos (by simp [hs])]
      refine ⟨hafter, fun j hj => ?_⟩
      rw [LogBook.reads, LogBook.reads, h.read hj, hreads j hj]

end LogBook

end ChannelBot.Server
