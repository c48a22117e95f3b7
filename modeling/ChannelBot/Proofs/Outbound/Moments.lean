/-
The moments of a run of the queue. At one instant any number of events may come, before or after
the consumer has done what is due then; time passes only as far as the consumer has nothing to do
(`Passes`). What `Run.steps` makes of events are such moments (`passes_steps`), and so are the
states in between, so what holds at all moments holds all along every run.
-/
import ChannelBot.Outbound.Run

namespace ChannelBot.Outbound

/-! ## Logs of events -/

/-- The events that came, each with its time; the passing of time is none of them. -/
abbrev Log (α : Type) : Type := List (Nat × Run.Event α)

namespace Log

variable {α : Type}

/-- The messages that were put, with the times of their submission. -/
def submitted (log : Log α) : List (Nat × α) :=
  log.filterMap fun
    | (time, .put m) => some (time, m)
    | _ => none

@[simp] theorem submitted_put (log : Log α) (time : Nat) (m : α) :
    submitted (log ++ [(time, .put m)]) = log.submitted ++ [(time, m)] := by
  simp [submitted, List.filterMap_append]

@[simp] theorem submitted_start (log : Log α) (time : Nat) : submitted (log ++ [(time, .start)]) = log.submitted := by
  simp [submitted, List.filterMap_append]

@[simp] theorem submitted_stop (log : Log α) (time : Nat) : submitted (log ++ [(time, .stop)]) = log.submitted := by
  simp [submitted, List.filterMap_append]

@[simp] theorem submitted_join (log : Log α) (time : Nat) : submitted (log ++ [(time, .join)]) = log.submitted := by
  simp [submitted, List.filterMap_append]

theorem past_append {log : Log α} {now : Nat} (h : ∀ e ∈ log, e.1 ≤ now) (e : Run.Event α) :
    ∀ e' ∈ log ++ [(now, e)], e'.1 ≤ now := by
  rw [List.forall_mem_append]
  refine ⟨h, fun e' he' => ?_⟩
  cases List.mem_singleton.mp he'
  exact Nat.le_refl now

end Log

/-- The time at which the consumer goes on by itself. -/
def Phase.deadline? : Phase → Option Nat
  | .sending t | .pausing t => some t
  | _ => none

namespace Queue

variable {α : Type}

@[simp] theorem stop_phase (q : Queue α) : q.stop.phase = .off := by
  unfold stop; split <;> rfl

@[simp] theorem start_deadline? (q : Queue α) : q.start.phase.deadline? = q.phase.deadline? := by
  unfold start; split
  · rename_i hphase
    rw [hphase]
    rfl
  · rfl

end Queue

namespace Run

variable {α : Type} {how : α → Sending} {r r₀ s : Run α} {log log' : Log α} {time : Nat}

/-- A queue that nothing has been put into, with its consumer off. -/
def fresh (limit delay : Nat) : Run α := { queue := { limit := limit, delay := delay } }

/-! ## Moments -/

/-- A state that a run comes to from another one, and the events that came on the way. -/
inductive Passes (how : α → Sending) (r₀ : Run α) : Log α → Run α → Prop
  | here : Passes how r₀ [] r₀
  | put {log : Log α} {r : Run α} (h : Passes how r₀ log r) (m : α) :
    Passes how r₀ (log ++ [(r.now, .put m)]) { r with queue := r.queue.put m }
  | start {log : Log α} {r : Run α} (h : Passes how r₀ log r) :
    Passes how r₀ (log ++ [(r.now, .start)]) { r with queue := r.queue.start }
  | stop {log : Log α} {r : Run α} (h : Passes how r₀ log r) :
    Passes how r₀ (log ++ [(r.now, .stop)]) { r with queue := r.queue.stop }.release
  | join {log : Log α} {r : Run α} (h : Passes how r₀ log r) :
    Passes how r₀ (log ++ [(r.now, .join)]) { r with joins := r.joins ++ [Join.mk r.now none] }.release
  /-- The consumer does what is due now. -/
  | consume {log : Log α} {r s : Run α} (h : Passes how r₀ log r) (hs : r.next? how r.now = some s) :
    Passes how r₀ log s
  /-- Time passes while the consumer has nothing to do. -/
  | wait {log : Log α} {r : Run α} {time : Nat} (h : Passes how r₀ log r) (hle : r.now ≤ time)
    (hidle : ∀ t < time, r.next? how t = none) : Passes how r₀ log { r with now := time }

theorem Passes.trans (h : Passes how r₀ log r) (h' : Passes how r log' s) : Passes how r₀ (log ++ log') s := by
  induction h' with
  | here =>
    rw [List.append_nil]
    exact h
  | put _ m ih =>
    rw [← List.append_assoc]
    exact .put ih m
  | start _ ih =>
    rw [← List.append_assoc]
    exact .start ih
  | stop _ ih =>
    rw [← List.append_assoc]
    exact .stop ih
  | join _ ih =>
    rw [← List.append_assoc]
    exact .join ih
  | consume _ hs ih => exact .consume ih hs
  | wait _ hle hidle ih => exact .wait ih hle hidle

/-! ## What the consumer does next -/

@[simp] theorem release_now (r : Run α) : r.release.now = r.now := by
  unfold release; split <;> rfl

@[simp] theorem release_handed (r : Run α) : r.release.handed = r.handed := by
  unfold release; split <;> rfl

@[simp] theorem endSend_now (how : α → Sending) (r : Run α) (time : Nat) : (r.endSend how time).now = time :=
  release_now _

@[simp] theorem endSend_handed (how : α → Sending) (r : Run α) (time : Nat) :
    (r.endSend how time).handed = r.handed := release_handed _

/-- The consumer takes a message, ends a send, or ends its pause. -/
theorem next?_cases (h : r.next? how time = some s) :
    (∃ m rest, r.queue.phase = .idle ∧ r.queue.waiting = m :: rest ∧
      s = r.hand how m { r.queue with waiting := rest }) ∨
    (∃ t, r.queue.phase = .sending t ∧ t ≤ time ∧ s = r.endSend how t) ∨
    (∃ t, r.queue.phase = .pausing t ∧ t ≤ time ∧
      s = { r with now := max r.now t, queue := { r.queue with phase := .idle } }) := by
  unfold next? at h
  split at h
  · cases h
  · rename_i hphase
    obtain ⟨⟨m, q⟩, htake, rfl⟩ := Option.map_eq_some_iff.mp h
    unfold Queue.take? at htake
    split at htake
    · rename_i rest _ hwaiting
      cases htake
      exact .inl ⟨m, rest, hphase, hwaiting, rfl⟩
    · cases htake
  · rename_i t hphase
    split at h
    · cases h
      exact .inr (.inl ⟨t, hphase, ‹_›, rfl⟩)
    · cases h
  · rename_i t hphase
    split at h
    · cases h
      exact .inr (.inr ⟨t, hphase, ‹_›, rfl⟩)
    · cases h

theorem next?_idle {m : α} {rest : List α} (hphase : r.queue.phase = .idle) (hwaiting : r.queue.waiting = m :: rest)
    (time : Nat) : r.next? how time = some (r.hand how m { r.queue with waiting := rest }) := by
  simp [next?, hphase, Queue.take?, hwaiting]

theorem next?_sending {t : Nat} (hphase : r.queue.phase = .sending t) (h : t ≤ time) :
    r.next? how time = some (r.endSend how t) := by
  simp [next?, hphase, h]

theorem next?_pausing {t : Nat} (hphase : r.queue.phase = .pausing t) (h : t ≤ time) :
    r.next? how time = some { r with now := max r.now t, queue := { r.queue with phase := .idle } } := by
  simp [next?, hphase, h]

/-- Whether the consumer has something to do depends on the queue alone, and what is not due at a time
was not due earlier. -/
theorem next?_none_mono {t : Nat} (h : r.next? how time = none) (hqueue : s.queue = r.queue) (hle : t ≤ time) :
    s.next? how t = none := by
  cases hs : s.next? how t with
  | none => rfl
  | some s' =>
    rcases next?_cases hs with ⟨m, rest, hphase, hwaiting, -⟩ | ⟨t', hphase, ht', -⟩ | ⟨t', hphase, ht', -⟩
    · rw [hqueue] at hphase hwaiting
      rw [next?_idle hphase hwaiting] at h
      cases h
    · rw [hqueue] at hphase
      rw [next?_sending hphase (Nat.le_trans ht' hle)] at h
      cases h
    · rw [hqueue] at hphase
      rw [next?_pausing hphase (Nat.le_trans ht' hle)] at h
      cases h

theorem next?_off (hphase : r.queue.phase = .off) (time : Nat) : r.next? how time = none := by
  unfold next?
  rw [hphase]

@[simp] theorem hand_now (r : Run α) (m : α) (q : Queue α) : (r.hand how m q).now = r.now := by
  unfold hand
  dsimp only
  split <;> simp

@[simp] theorem hand_handed (r : Run α) (m : α) (q : Queue α) :
    (r.hand how m q).handed = r.handed ++ [⟨r.now, m⟩] := by
  unfold hand
  dsimp only
  split <;> simp

/-- A send that lasts no time is followed by the pause at once. -/
theorem hand_phase (r : Run α) (m : α) (q : Queue α) :
    (r.hand how m q).queue.phase =
      if (how m).lasts = 0 then .pausing (r.now + q.delay) else .sending (r.now + (how m).lasts) := by
  unfold hand
  dsimp only
  split <;> simp_all

/-! ## The clock -/

/-- The consumer is not late. -/
def OnTime (r : Run α) : Prop := ∀ t ∈ r.queue.phase.deadline?, r.now ≤ t

theorem onTime_fresh (limit delay : Nat) : (fresh limit delay : Run α).OnTime := fun _ ht => nomatch ht

theorem OnTime.of_phase (h : r.OnTime) (hphase : s.queue.phase.deadline? = r.queue.phase.deadline?)
    (hnow : s.now = r.now) : s.OnTime := by
  intro t ht
  rw [hphase] at ht
  rw [hnow]
  exact h t ht

theorem onTime_hand (r : Run α) (m : α) (q : Queue α) : (r.hand how m q).OnTime := by
  intro t ht
  rw [hand_phase] at ht
  rw [hand_now]
  split at ht <;> cases ht <;> omega

/-- A step of the consumer takes place at the time when it is due. -/
theorem OnTime.of_next? (h : r.OnTime) (hs : r.next? how time = some s) (hle : r.now ≤ time) :
    s.OnTime ∧ r.now ≤ s.now ∧ s.now ≤ time := by
  rcases next?_cases hs with ⟨m, rest, hphase, -, rfl⟩ | ⟨t, hphase, ht, rfl⟩ | ⟨t, hphase, ht, rfl⟩
  · rw [hand_now]
    exact ⟨onTime_hand _ _ _, Nat.le_refl _, hle⟩
  · have hdue : r.now ≤ t := h t (by rw [hphase]; rfl)
    refine ⟨fun t' ht' => ?_, by rwa [endSend_now], by rwa [endSend_now]⟩
    rw [endSend_queue] at ht'
    cases ht'
    rw [endSend_now]
    exact Nat.le_add_right _ _
  · refine ⟨fun t' ht' => ?_, Nat.le_max_left _ _, Nat.max_le.mpr ⟨hle, ht⟩⟩
    cases ht'

/-- At every moment the consumer is on time, and all events lie in the past. -/
theorem Passes.onTime (h : Passes how r₀ log r) (h₀ : r₀.OnTime) : r.OnTime ∧ ∀ e ∈ log, e.1 ≤ r.now := by
  induction h with
  | here => exact ⟨h₀, fun e he => absurd he List.not_mem_nil⟩
  | put _ m ih => exact ⟨ih.1.of_phase (congrArg _ (Queue.put_phase _ _)) rfl, Log.past_append ih.2 _⟩
  | start _ ih =>
    refine ⟨ih.1.of_phase ?_ rfl, Log.past_append ih.2 _⟩
    exact Queue.start_deadline? _
  | stop _ ih =>
    refine ⟨fun t ht => ?_, ?_⟩
    · rw [release_queue, Queue.stop_phase] at ht
      cases ht
    · rw [release_now]
      exact Log.past_append ih.2 _
  | join _ ih =>
    refine ⟨ih.1.of_phase (by rw [release_queue]) (release_now _), ?_⟩
    rw [release_now]
    exact Log.past_append ih.2 _
  | consume _ hs ih =>
    obtain ⟨htime, hle, -⟩ := ih.1.of_next? hs (Nat.le_refl _)
    exact ⟨htime, fun e he => Nat.le_trans (ih.2 e he) hle⟩
  | @wait log r time _ hle hidle ih =>
    refine ⟨fun t ht => ?_, fun e he => Nat.le_trans (ih.2 e he) hle⟩
    -- A deadline that has passed would have been due before.
    rw [← Nat.not_lt]
    intro hlt
    have hnone := hidle t hlt
    cases hphase : r.queue.phase with
    | off | idle =>
      rw [Option.mem_def, hphase] at ht
      cases ht
    | sending t' =>
      rw [Option.mem_def, hphase] at ht
      cases ht
      rw [next?_sending hphase (Nat.le_refl t)] at hnone
      cases hnone
    | pausing t' =>
      rw [Option.mem_def, hphase] at ht
      cases ht
      rw [next?_pausing hphase (Nat.le_refl t)] at hnone
      cases hnone

/-! ## Runs of events -/

/-- A step of the consumer up to a time is a wait until it is due, and the step. -/
theorem passes_next? (hr : r.OnTime) (hs : r.next? how time = some s) : Passes how r [] s := by
  rcases next?_cases hs with ⟨m, rest, hphase, hwaiting, rfl⟩ | ⟨t, hphase, -, rfl⟩ | ⟨t, hphase, -, rfl⟩
  · exact .consume .here (next?_idle hphase hwaiting _)
  · have hdue : r.now ≤ t := hr t (by rw [hphase]; rfl)
    have hwait : Passes how r [] { r with now := t } :=
      .wait .here hdue fun t' ht' => by simp [next?, hphase, ht']
    exact .consume hwait (next?_sending hphase (Nat.le_refl t))
  · have hdue : r.now ≤ t := hr t (by rw [hphase]; rfl)
    have hwait : Passes how r [] { r with now := t } :=
      .wait .here hdue fun t' ht' => by simp [next?, hphase, ht']
    have hnext := @next?_pausing α how { r with now := t } t t hphase (Nat.le_refl t)
    dsimp only at hnext
    rw [Nat.max_self] at hnext
    rw [Nat.max_eq_right hdue]
    exact .consume hwait hnext

/-- The consumer goes on from moment to moment until it has nothing more to do up to a time. -/
theorem passes_settle (how : α → Sending) (hr : r.OnTime) (hle : r.now ≤ time) :
    Passes how r [] (settle how time r) ∧ r.now ≤ (settle how time r).now ∧
      (settle how time r).now ≤ time ∧ (settle how time r).next? how time = none := by
  fun_induction settle how time r with
  | case1 r hnone => exact ⟨.here, Nat.le_refl _, hle, hnone⟩
  | case2 r s hs ih =>
    obtain ⟨htime, hle₁, hle₂⟩ := hr.of_next? hs hle
    obtain ⟨hpasses, hle₃, hrest⟩ := ih htime hle₂
    exact ⟨(passes_next? hr hs).trans hpasses, Nat.le_trans hle₁ hle₃, hrest⟩

/-- The time after an event. -/
def clock (now : Nat) : Event α → Nat
  | .advance d => now + d
  | _ => now

/-- Events one after another, with the times at which they come. -/
def timeline : Nat → List (Event α) → Log α
  | _, [] => []
  | now, .advance d :: es => timeline (now + d) es
  | now, e :: es => (now, e) :: timeline now es

theorem timeline_cons (now : Nat) (e : Event α) (es : List (Event α)) :
    timeline now (e :: es) = timeline now [e] ++ timeline (clock now e) es := by
  cases e <;> rfl

/-- The consumer is on time, and has nothing to do now. -/
structure Rests (how : α → Sending) (r : Run α) : Prop where
  onTime : r.OnTime
  idle : r.next? how r.now = none

theorem rests_fresh (limit delay : Nat) : (fresh limit delay).Rests how := ⟨onTime_fresh limit delay, rfl⟩

/-- Settling at the time that it is takes no time. -/
theorem passes_settle_now (how : α → Sending) (hr : r.OnTime) :
    Passes how r [] (settle how r.now r) ∧ (settle how r.now r).Rests how ∧ (settle how r.now r).now = r.now := by
  obtain ⟨hpasses, hle₁, hle₂, hnone⟩ := passes_settle how hr (Nat.le_refl _)
  have hnow := Nat.le_antisymm hle₂ hle₁
  exact ⟨hpasses, ⟨(hpasses.onTime hr).1, by rwa [hnow]⟩, hnow⟩

theorem passes_step (hr : r.Rests how) (e : Event α) :
    Passes how r (timeline r.now [e]) (step how r e) ∧ (step how r e).Rests how ∧
      (step how r e).now = clock r.now e := by
  cases e with
  | put m =>
    have hput : Passes how r _ _ := .put .here m
    obtain ⟨hpasses, hrests, hnow⟩ := passes_settle_now how (hput.onTime hr.onTime).1
    exact ⟨hput.trans hpasses, hrests, hnow⟩
  | start =>
    have hstart : Passes how r _ _ := .start .here
    obtain ⟨hpasses, hrests, hnow⟩ := passes_settle_now how (hstart.onTime hr.onTime).1
    exact ⟨hstart.trans hpasses, hrests, hnow⟩
  | stop =>
    have hstop : Passes how r _ _ := .stop .here
    refine ⟨hstop, ⟨(hstop.onTime hr.onTime).1, next?_off ?_ _⟩, release_now _⟩
    rw [step, release_queue, Queue.stop_phase]
  | join =>
    have hjoin : Passes how r _ _ := .join .here
    refine ⟨hjoin, ⟨(hjoin.onTime hr.onTime).1, ?_⟩, release_now _⟩
    exact next?_none_mono hr.idle (release_queue _) (Nat.le_of_eq (release_now _))
  | advance d =>
    obtain ⟨hpasses, -, hle, hnone⟩ := passes_settle how hr.onTime (Nat.le_add_right r.now d)
    have hwait := hpasses.wait hle fun t ht => next?_none_mono hnone rfl (Nat.le_of_lt ht)
    exact ⟨hwait, ⟨(hwait.onTime hr.onTime).1, next?_none_mono hnone rfl (Nat.le_refl _)⟩, rfl⟩

/-- **What events make of a queue is a moment of a run** on which just these events come. -/
theorem passes_steps (hr : r.Rests how) (es : List (Event α)) :
    Passes how r (timeline r.now es) (steps how r es) ∧ (steps how r es).Rests how := by
  induction es generalizing r with
  | nil => exact ⟨.here, hr⟩
  | cons e rest ih =>
    obtain ⟨hpasses, hrests, hnow⟩ := passes_step hr e
    obtain ⟨hrest, hend⟩ := ih hrests
    rw [hnow] at hrest
    rw [timeline_cons]
    exact ⟨hpasses.trans hrest, hend⟩

end Run

end ChannelBot.Outbound
