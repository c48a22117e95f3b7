/-
What the queue counts as unfinished. Between two moments of a run there may be more to see: a message that
fails at once is in hand, then done with, and only then a blocked producer comes in. A course goes through
all of that, one deed after another (`Course`), and every run of events is such a course
(`course_steps`). All along a course the count is what waits and what is in hand (`Accounted`); so a message
is done with once, and a join ends just when it finds nothing unfinished (`completion_is_exact`).
-/
import ChannelBot.Proofs.Outbound.Order

namespace ChannelBot.Outbound

/-- What takes place from one moment to the next. -/
inductive Deed (α : Type) where
  | put (m : α)
  | start
  /-- The consumer is stopped with nothing in hand. -/
  | stop
  /-- The consumer is stopped in the middle of a send. -/
  | cutOff
  | join
  /-- The consumer takes a message in hand. -/
  | take (m : α)
  /-- The message in hand is sent, or its send fails. -/
  | sent
  /-- A blocked producer puts its message, if there is room for it. -/
  | enter
  /-- The pause is over. -/
  | wake
  | wait
  deriving Repr, DecidableEq

namespace Deed

variable {α : Type}

/-- The event that a deed is. The consumer's own deeds are none, and neither is the passing of time. -/
def event? : Deed α → Option (Run.Event α)
  | .put m => some (.put m)
  | .start => some .start
  | .stop | .cutOff => some .stop
  | .join => some .join
  | .take _ | .sent | .enter | .wake | .wait => none

/-- Whether the message in hand is said to be done with. -/
def finishes : Deed α → Bool
  | .sent | .cutOff => true
  | _ => false

def isJoin : Deed α → Bool
  | .join => true
  | _ => false

/-- The join that a deed calls. -/
def calls (now : Nat) (d : Deed α) : List Join := if d.isJoin then [⟨now, none⟩] else []

end Deed

namespace Queue

variable {α : Type} {q : Queue α}

/-- How many messages are being sent: one or none. -/
def inHand (q : Queue α) : Nat :=
  match q.phase with
  | .sending _ => 1
  | _ => 0

/-- What is counted as unfinished waits or is in hand. -/
def Balanced (q : Queue α) : Prop := q.unfinished = q.waiting.length + q.inHand

theorem inHand_sending {t : Nat} (h : q.phase = .sending t) : q.inHand = 1 := by rw [inHand, h]

theorem inHand_of_not_sending (h : ∀ t, q.phase ≠ .sending t) : q.inHand = 0 := by
  unfold inHand
  split
  · exact absurd ‹_› (h _)
  · rfl

theorem inHand_congr {q' : Queue α} (h : q'.phase = q.phase) : q'.inHand = q.inHand := by rw [inHand, inHand, h]

@[simp] theorem put_inHand (q : Queue α) (m : α) : (q.put m).inHand = q.inHand := inHand_congr (put_phase q m)

@[simp] theorem unblock_inHand (q : Queue α) : q.unblock.inHand = q.inHand := inHand_congr (unblock_phase q)

@[simp] theorem start_inHand (q : Queue α) : q.start.inHand = q.inHand := by
  unfold start
  split
  · rename_i hphase
    rw [inHand, inHand, hphase]
  · rfl

@[simp] theorem stop_inHand (q : Queue α) : q.stop.inHand = 0 :=
  inHand_of_not_sending fun t h => by
    rw [stop_phase] at h
    cases h

/-- What is put adds to the count just what it adds to those that wait. -/
theorem put_unfinished (q : Queue α) (m : α) :
    (q.put m).unfinished + q.waiting.length = q.unfinished + (q.put m).waiting.length ∧
      q.unfinished ≤ (q.put m).unfinished := by
  unfold put
  split
  · exact ⟨rfl, Nat.le_refl _⟩
  · simp only [List.length_append, List.length_singleton]
    omega

theorem unblock_unfinished (q : Queue α) :
    q.unblock.unfinished + q.waiting.length = q.unfinished + q.unblock.waiting.length ∧
      q.unfinished ≤ q.unblock.unfinished := by
  unfold unblock
  split
  · exact ⟨rfl, Nat.le_refl _⟩
  · split
    · exact ⟨rfl, Nat.le_refl _⟩
    · simp only [List.length_append, List.length_singleton]
      omega

@[simp] theorem start_unfinished (q : Queue α) : q.start.unfinished = q.unfinished := by
  unfold start; split <;> rfl

@[simp] theorem start_waiting (q : Queue α) : q.start.waiting = q.waiting := by
  unfold start; split <;> rfl

@[simp] theorem stop_waiting (q : Queue α) : q.stop.waiting = q.waiting := by
  unfold stop; split <;> rfl

theorem stop_unfinished (q : Queue α) : q.stop.unfinished = q.unfinished - q.inHand := by
  cases hphase : q.phase with
  | sending t =>
    rw [inHand_sending hphase, stop, hphase]
    rfl
  | off | idle | pausing t =>
    rw [inHand_of_not_sending (fun t ht => by rw [hphase] at ht; cases ht), stop, hphase]
    rfl

theorem Balanced.put (h : q.Balanced) (m : α) : (q.put m).Balanced := by
  have hput := (q.put_unfinished m).1
  unfold Balanced at h ⊢
  rw [put_inHand]
  omega

theorem Balanced.unblock (h : q.Balanced) : q.unblock.Balanced := by
  have hunblock := q.unblock_unfinished.1
  unfold Balanced at h ⊢
  rw [unblock_inHand]
  omega

theorem Balanced.start (h : q.Balanced) : q.start.Balanced := by
  unfold Balanced at h ⊢
  rw [start_inHand, start_unfinished, start_waiting, h]

theorem Balanced.stop (h : q.Balanced) : q.stop.Balanced := by
  unfold Balanced at h ⊢
  rw [stop_inHand, stop_unfinished, stop_waiting]
  omega

end Queue

/-- A moment of a run: what has just taken place, and the state after it. -/
structure Moment (α : Type) where
  deed : Deed α
  run : Run α
  deriving Repr, DecidableEq

/-- Whether nothing is unfinished at a moment. -/
def Moment.isDone {α : Type} (m : Moment α) : Bool := m.run.queue.unfinished == 0

/-- Moments one after the other. -/
abbrev Trail (α : Type) : Type := List (Moment α)

namespace Trail

variable {α : Type}

/-- The events on a trail, with their times. -/
def log (trail : Trail α) : Log α := trail.filterMap fun m => m.deed.event?.map (m.run.now, ·)

/-- The joins that are called on a trail. Each ends at the first moment, from its call on, at which nothing is
unfinished. -/
def joins : Trail α → List Join
  | [] => []
  | m :: later =>
    (if m.deed.isJoin then [⟨m.run.now, ((m :: later).find? (·.isDone)).map (·.run.now)⟩] else []) ++ joins later

theorem log_event {d : Deed α} {e : Run.Event α} {s : Run α} {now : Nat} (hevent : d.event? = some e)
    (hnow : s.now = now) (trail : Trail α) : log (trail ++ [⟨d, s⟩]) = trail.log ++ [(now, e)] := by
  simp [log, List.filterMap_append, hevent, hnow]

theorem log_silent {d : Deed α} (hevent : d.event? = none) (trail : Trail α) (s : Run α) :
    log (trail ++ [⟨d, s⟩]) = trail.log := by
  simp [log, List.filterMap_append, hevent]

end Trail

namespace Run

/-- What becomes of a join in a state: if nothing is unfinished, it is over, now or since before. -/
def closes {α : Type} (r : Run α) (j : Join) : Join :=
  { j with ended := j.ended.or (if r.queue.unfinished = 0 then some r.now else none) }

end Run

namespace Trail

variable {α : Type}

/-- The time of the first moment at which nothing is unfinished. -/
theorem firstDone_snoc (trail : Trail α) (m : Moment α) :
    ((trail ++ [m]).find? (·.isDone)).map (·.run.now) =
      ((trail.find? (·.isDone)).map (·.run.now)).or (if m.run.queue.unfinished = 0 then some m.run.now else none) := by
  rw [List.find?_append, Option.map_or, List.find?_singleton]
  congr 1
  by_cases hdone : m.run.queue.unfinished = 0 <;> simp [Moment.isDone, hdone]

/-- One more moment ends the joins that are pending if nothing is unfinished, the one that it calls among them. -/
theorem joins_snoc (trail : Trail α) (m : Moment α) :
    joins (trail ++ [m]) = (trail.joins ++ m.deed.calls m.run.now).map m.run.closes := by
  induction trail with
  | nil =>
    rw [List.nil_append, joins, joins, joins, List.append_nil, List.nil_append, Deed.calls]
    split
    · have hfirst := firstDone_snoc [] m
      rw [List.nil_append] at hfirst
      rw [hfirst]
      rfl
    · rfl
  | cons first later ih =>
    rw [List.cons_append, joins, joins, ih, List.append_assoc]
    refine Eq.trans ?_ List.map_append.symm
    congr 1
    split
    · rw [← List.cons_append, firstDone_snoc]
      rfl
    · rfl

theorem length_joins (trail : Trail α) : trail.joins.length = trail.countP (·.deed.isJoin) := by
  induction trail with
  | nil => rfl
  | cons m later ih =>
    rw [joins, List.length_append, ih, List.countP_cons]
    split <;> simp_all [Nat.add_comm]

/-- The join that is called at a moment comes after those that were called before. -/
theorem joins_getElem? (before after : Trail α) (s : Run α) :
    (joins (before ++ ⟨.join, s⟩ :: after))[before.countP (·.deed.isJoin)]? =
      some ⟨s.now, ((⟨.join, s⟩ :: after : Trail α).find? (·.isDone)).map (·.run.now)⟩ := by
  induction before with
  | nil => rfl
  | cons m later ih =>
    rw [List.cons_append, joins, List.countP_cons]
    cases hjoin : m.deed.isJoin with
    | true => simpa using ih
    | false => simpa using ih

end Trail

namespace Run

variable {α : Type} {how : α → Sending} {r r₀ s : Run α} {d : Deed α} {trail : Trail α} {log : Log α}
  {limit delay time : Nat}

/-! ## Courses -/

/-- The consumer has a message in hand, and blocked producers have not come in yet. -/
def taking (how : α → Sending) (r : Run α) (m : α) (rest : List α) : Run α :=
  { r with
    queue := { r.queue with waiting := rest, phase := .sending (r.now + (how m).lasts) }
    handed := r.handed ++ [⟨r.now, m⟩] }

/-- What each deed does to a run. -/
inductive Acts (how : α → Sending) : Run α → Deed α → Run α → Prop
  | put (r : Run α) (m : α) : Acts how r (.put m) { r with queue := r.queue.put m }
  | start (r : Run α) : Acts how r .start { r with queue := r.queue.start }
  | stop {r : Run α} (hfree : ∀ t, r.queue.phase ≠ .sending t) :
    Acts how r .stop { r with queue := r.queue.stop }.release
  | cutOff {r : Run α} {t : Nat} (hsending : r.queue.phase = .sending t) :
    Acts how r .cutOff { r with queue := r.queue.stop }.release
  | join (r : Run α) : Acts how r .join { r with joins := r.joins ++ [Join.mk r.now none] }.release
  | take {r : Run α} {m : α} {rest : List α} (hidle : r.queue.phase = .idle) (hwaiting : r.queue.waiting = m :: rest) :
    Acts how r (.take m) (r.taking how m rest)
  | sent {r : Run α} (hsending : r.queue.phase = .sending r.now) : Acts how r .sent (r.endSend how r.now)
  | enter (r : Run α) : Acts how r .enter { r with queue := r.queue.unblock }
  | wake {r : Run α} (hpausing : r.queue.phase = .pausing r.now) :
    Acts how r .wake { r with queue := { r.queue with phase := .idle } }
  /-- Time passes while the consumer has nothing to do. -/
  | wait {r : Run α} {time : Nat} (hle : r.now ≤ time) (hidle : ∀ t < time, r.next? how t = none) :
    Acts how r .wait { r with now := time }

/-- What a run may go through from a state, moment by moment. -/
inductive Course (how : α → Sending) (r₀ : Run α) : Trail α → Run α → Prop
  | here : Course how r₀ [] r₀
  | act {trail : Trail α} {r s : Run α} {d : Deed α} (h : Course how r₀ trail r) (hact : Acts how r d s) :
    Course how r₀ (trail ++ [⟨d, s⟩]) s

/-- To hand a message over is to take it in hand, to end its send if that lasts no time, and to let a blocked
producer in. -/
theorem Course.hand (h : Course how r₀ trail r) {m : α} {rest : List α} (hidle : r.queue.phase = .idle)
    (hwaiting : r.queue.waiting = m :: rest) :
    ∃ trail', Course how r₀ trail' (r.hand how m { r.queue with waiting := rest }) ∧ Trail.log trail' = trail.log := by
  have htake := h.act (.take hidle hwaiting)
  by_cases hlasts : (how m).lasts = 0
  · have hsending : (r.taking how m rest).queue.phase = .sending (r.taking how m rest).now := by
      simp [taking, hlasts]
    have hhand : r.hand how m { r.queue with waiting := rest } =
        { (r.taking how m rest).endSend how (r.taking how m rest).now with
          queue := ((r.taking how m rest).endSend how (r.taking how m rest).now).queue.unblock } := by
      simp only [Run.hand, hlasts]
      rfl
    rw [hhand]
    refine ⟨_, (htake.act (.sent hsending)).act (.enter _), ?_⟩
    rw [Trail.log_silent rfl, Trail.log_silent rfl, Trail.log_silent rfl]
  · have hhand : r.hand how m { r.queue with waiting := rest } =
        { r.taking how m rest with queue := (r.taking how m rest).queue.unblock } := by
      have hlong : ((how m).lasts == 0) = false := by simpa using hlasts
      simp only [Run.hand, hlong]
      rfl
    rw [hhand]
    refine ⟨_, htake.act (.enter _), ?_⟩
    rw [Trail.log_silent rfl, Trail.log_silent rfl]

/-- What is a moment of a run is come to by a course, on which the same events take place. -/
theorem Passes.course (h : Passes how r₀ log r) (h₀ : r₀.OnTime) :
    ∃ trail, Course how r₀ trail r ∧ Trail.log trail = log := by
  induction h with
  | here => exact ⟨[], .here, rfl⟩
  | put _ m ih =>
    obtain ⟨trail, hcourse, rfl⟩ := ih
    exact ⟨_, hcourse.act (.put _ m), Trail.log_event rfl rfl trail⟩
  | start _ ih =>
    obtain ⟨trail, hcourse, rfl⟩ := ih
    exact ⟨_, hcourse.act (.start _), Trail.log_event rfl rfl trail⟩
  | @stop log r _ ih =>
    obtain ⟨trail, hcourse, rfl⟩ := ih
    by_cases hsending : ∃ t, r.queue.phase = .sending t
    · obtain ⟨t, hsending⟩ := hsending
      exact ⟨_, hcourse.act (.cutOff hsending), Trail.log_event rfl (release_now _) trail⟩
    · exact ⟨_, hcourse.act (.stop fun t ht => hsending ⟨t, ht⟩), Trail.log_event rfl (release_now _) trail⟩
  | join _ ih =>
    obtain ⟨trail, hcourse, rfl⟩ := ih
    exact ⟨_, hcourse.act (.join _), Trail.log_event rfl (release_now _) trail⟩
  | @consume log r s h hs ih =>
    obtain ⟨trail, hcourse, rfl⟩ := ih
    have htime := (h.onTime h₀).1
    rcases next?_cases hs with ⟨m, rest, hidle, hwaiting, rfl⟩ | ⟨t, hsending, ht, rfl⟩ | ⟨t, hpausing, ht, rfl⟩
    · exact hcourse.hand hidle hwaiting
    · obtain rfl : r.now = t := Nat.le_antisymm (htime t (by rw [hsending]; rfl)) ht
      exact ⟨_, hcourse.act (.sent hsending), Trail.log_silent rfl trail _⟩
    · obtain rfl : r.now = t := Nat.le_antisymm (htime t (by rw [hpausing]; rfl)) ht
      rw [Nat.max_self]
      exact ⟨_, hcourse.act (.wake hpausing), Trail.log_silent rfl trail _⟩
  | wait _ hle hidle ih =>
    obtain ⟨trail, hcourse, rfl⟩ := ih
    exact ⟨_, hcourse.act (.wait hle hidle), Trail.log_silent rfl trail _⟩

/-- Every run of events goes through a course. -/
theorem course_steps (how : α → Sending) (limit delay : Nat) (es : List (Event α)) :
    ∃ trail, Course how (fresh limit delay) trail (steps how (fresh limit delay) es) ∧
      Trail.log trail = timeline 0 es :=
  (passes_steps (rests_fresh limit delay) es).1.course (onTime_fresh limit delay)

/-! ## The count -/

/-- What a deed does to the count, to what is in hand, and to the time. -/
structure Books (r : Run α) (d : Deed α) (s : Run α) : Prop where
  balance : s.queue.Balanced
  /-- One message is taken off the count if it is done with, and none otherwise. -/
  count : if d.finishes then r.queue.unfinished = s.queue.unfinished + 1 else r.queue.unfinished ≤ s.queue.unfinished
  once : s.handed.length + r.queue.inHand = r.handed.length + (if d.finishes then 1 else 0) + s.queue.inHand
  clock : r.now ≤ s.now

/-- Every deed keeps the books. -/
theorem Acts.books (h : Acts how r d s) (hr : r.queue.Balanced) : Books r d s := by
  cases h with
  | put m => exact ⟨hr.put m, (Queue.put_unfinished _ m).2, by rw [Queue.put_inHand]; rfl, Nat.le_refl _⟩
  | start =>
    refine ⟨hr.start, ?_, by rw [Queue.start_inHand]; rfl, Nat.le_refl _⟩
    rw [Queue.start_unfinished]
    exact Nat.le_refl _
  | stop hfree =>
    have hnone := Queue.inHand_of_not_sending hfree
    refine ⟨?_, ?_, ?_, by simp⟩
    · rw [release_queue]
      exact hr.stop
    · rw [release_queue, Queue.stop_unfinished, hnone]
      exact Nat.le_refl _
    · rw [release_queue, release_handed, Queue.stop_inHand, hnone]
      rfl
  | cutOff hsending =>
    have hone := Queue.inHand_sending hsending
    have hbalance := hr
    unfold Queue.Balanced at hbalance
    refine ⟨?_, ?_, ?_, by simp⟩
    · rw [release_queue]
      exact hr.stop
    · rw [release_queue, Queue.stop_unfinished, hone]
      show r.queue.unfinished = r.queue.unfinished - 1 + 1
      omega
    · rw [release_queue, release_handed, Queue.stop_inHand, hone]
      rfl
  | join =>
    refine ⟨?_, ?_, ?_, by simp⟩
    · rw [release_queue]
      exact hr
    · rw [release_queue]
      exact Nat.le_refl _
    · rw [release_queue, release_handed]
      rfl
  | @take m rest hidle hwaiting =>
    have hnone : r.queue.inHand = 0 := Queue.inHand_of_not_sending fun t ht => by rw [hidle] at ht; cases ht
    have hone : (r.taking how m rest).queue.inHand = 1 := Queue.inHand_sending rfl
    refine ⟨?_, Nat.le_refl _, ?_, Nat.le_refl _⟩
    · unfold Queue.Balanced at hr ⊢
      rw [hwaiting, hnone, List.length_cons] at hr
      rw [hone]
      exact hr
    · rw [hnone, hone]
      exact List.length_append
  | sent hsending =>
    have hone := Queue.inHand_sending hsending
    have hnone : (r.endSend how r.now).queue.inHand = 0 := by rw [endSend_queue]; rfl
    unfold Queue.Balanced at hr
    refine ⟨?_, ?_, ?_, by simp⟩
    · unfold Queue.Balanced
      rw [hnone, endSend_queue]
      show r.queue.unfinished - 1 = r.queue.waiting.length
      omega
    · rw [endSend_queue]
      show r.queue.unfinished = r.queue.unfinished - 1 + 1
      omega
    · rw [endSend_handed, hone, hnone]
      rfl
  | enter => exact ⟨hr.unblock, (Queue.unblock_unfinished _).2, by rw [Queue.unblock_inHand]; rfl, Nat.le_refl _⟩
  | wake hpausing =>
    have hnone : r.queue.inHand = 0 := Queue.inHand_of_not_sending fun t ht => by rw [hpausing] at ht; cases ht
    refine ⟨?_, Nat.le_refl _, by rw [hnone]; rfl, Nat.le_refl _⟩
    unfold Queue.Balanced at hr ⊢
    rw [hnone] at hr
    exact hr
  | wait hle => exact ⟨hr, Nat.le_refl _, rfl, hle⟩

/-! ## Joins -/

/-- No join is pending while nothing is unfinished. -/
def Settled (r : Run α) : Prop := r.queue.unfinished = 0 → ∀ j ∈ r.joins, j.ended.isSome = true

theorem closes_congr (hqueue : s.queue = r.queue) (hnow : s.now = r.now) : s.closes = r.closes := by
  funext j
  rw [closes, closes, hqueue, hnow]

theorem release_joins (r : Run α) : r.release.joins = r.joins.map r.release.closes := by
  rw [closes_congr (release_queue r) (release_now r)]
  unfold release
  split
  · rename_i hdone
    refine List.map_congr_left fun j _ => ?_
    rw [closes, if_pos (by simpa using hdone)]
  · rename_i hmore
    refine (List.map_id _).symm.trans (List.map_congr_left fun j _ => ?_)
    rw [closes, if_neg (by simpa using hmore), Option.or_none]
    rfl

/-- Where the count does not fall, nothing changes for the joins. -/
theorem Settled.map_closes (h : r.Settled) (hle : r.queue.unfinished ≤ s.queue.unfinished) :
    r.joins.map s.closes = r.joins := by
  refine (List.map_congr_left fun j hj => ?_).trans (List.map_id _)
  by_cases hdone : s.queue.unfinished = 0
  · obtain ⟨t, ht⟩ := Option.isSome_iff_exists.mp (h (by omega) j hj)
    rw [closes, ht, Option.some_or, ← ht]
    rfl
  · rw [closes, if_neg hdone, Option.or_none]
    rfl

/-- After every deed the joins are those that there were and the one that is called, if one is, each as the
count has it now. -/
theorem Acts.joins_eq (h : Acts how r d s) (hr : r.queue.Balanced) (hsettled : r.Settled) :
    s.joins = (r.joins ++ d.calls s.now).map s.closes := by
  have hcount := (h.books hr).count
  cases h with
  | put | start | take | enter | wake | wait =>
    rw [Deed.calls]
    simp only [Deed.isJoin, Bool.false_eq_true, if_false, List.append_nil]
    exact (hsettled.map_closes hcount).symm
  | stop | cutOff | sent =>
    rw [Deed.calls]
    simp only [Deed.isJoin, Bool.false_eq_true, if_false, List.append_nil]
    exact release_joins _
  | join =>
    rw [release_now]
    exact release_joins _

theorem settled_of_joins {js : List Join} (h : s.joins = js.map s.closes) : s.Settled := by
  intro hdone j hj
  rw [h] at hj
  obtain ⟨j', -, rfl⟩ := List.mem_map.mp hj
  rw [closes, if_pos hdone]
  cases j'.ended <;> rfl

/-! ## The books of a course -/

/-- What holds all along a course. -/
structure Accounted (trail : Trail α) (r : Run α) : Prop where
  balance : r.queue.Balanced
  once : r.handed.length = trail.countP (·.deed.finishes) + r.queue.inHand
  joins : r.joins = trail.joins
  settled : r.Settled
  past : ∀ m ∈ trail, m.run.now ≤ r.now
  ordered : trail.Pairwise fun a b => a.run.now ≤ b.run.now

theorem accounted_fresh (limit delay : Nat) : Accounted [] (fresh limit delay : Run α) where
  balance := rfl
  once := rfl
  joins := rfl
  settled _ _ hj := absurd hj List.not_mem_nil
  past _ hm := absurd hm List.not_mem_nil
  ordered := .nil

theorem Accounted.act (h : Accounted trail r) (hact : Acts how r d s) : Accounted (trail ++ [⟨d, s⟩]) s := by
  have hbooks := hact.books h.balance
  have hjoins := hact.joins_eq h.balance h.settled
  refine ⟨hbooks.balance, ?_, ?_, settled_of_joins hjoins, ?_, ?_⟩
  · have honce := hbooks.once
    have hbefore := h.once
    rw [List.countP_append, List.countP_singleton]
    dsimp only
    omega
  · rw [hjoins, h.joins, Trail.joins_snoc]
  · intro m hm
    rcases List.mem_append.mp hm with hold | hlast
    · exact Nat.le_trans (h.past m hold) hbooks.clock
    · cases List.mem_singleton.mp hlast
      exact Nat.le_refl _
  · refine List.pairwise_append.mpr ⟨h.ordered, List.pairwise_singleton _ _, fun a ha b hb => ?_⟩
    rw [List.mem_singleton.mp hb]
    exact Nat.le_trans (h.past a ha) hbooks.clock

theorem Course.accounted (h : Course how (fresh limit delay) trail r) : Accounted trail r := by
  induction h with
  | here => exact accounted_fresh limit delay
  | act _ hact ih => exact ih.act hact

/-- **The queue counts exactly what is unfinished**, whatever comes. All along every course the count is what
waits and what is in hand. For each message that was taken, but the one in hand, the consumer has said once
that it is done with; that takes one off the count, which is never empty then, and nothing else takes
anything off it. The joins are those that were called; each has ended at the first moment, from its call on,
at which the count was zero, and is pending if there was none. Every run of events goes through such a
course. -/
theorem completion_is_exact (how : α → Sending) (limit delay : Nat) :
    (∀ es, ∃ trail, Course how (fresh limit delay) trail (steps how (fresh limit delay) es) ∧
      Trail.log trail = timeline 0 es) ∧
    ∀ trail r, Course how (fresh limit delay) trail r →
      r.queue.unfinished = r.queue.waiting.length + r.queue.inHand ∧
      r.handed.length = trail.countP (·.deed.finishes) + r.queue.inHand ∧
      (∀ d s, Acts how r d s →
        if d.finishes then r.queue.unfinished = s.queue.unfinished + 1 else r.queue.unfinished ≤ s.queue.unfinished) ∧
      trail.Pairwise (fun a b => a.run.now ≤ b.run.now) ∧
      r.joins.length = trail.countP (·.deed.isJoin) ∧
      ∀ before s after, trail = before ++ ⟨.join, s⟩ :: after →
        r.joins[before.countP (·.deed.isJoin)]? =
          some ⟨s.now, ((⟨.join, s⟩ :: after).find? (·.run.queue.unfinished == 0)).map (·.run.now)⟩ := by
  refine ⟨course_steps how limit delay, fun trail r h => ?_⟩
  have haccounted := h.accounted
  refine ⟨haccounted.balance, haccounted.once, fun d s hact => (hact.books haccounted.balance).count,
    haccounted.ordered, ?_, fun before s after htrail => ?_⟩
  · rw [haccounted.joins, Trail.length_joins]
  · rw [haccounted.joins, htrail]
    exact Trail.joins_getElem? before after s

/-- The theorem at a course with a send that fails and one that is cut off, for which a join has waited. -/
theorem completion_is_exact_cut : ∃ trail r, Course stubborn (fresh 1 10) trail r ∧
    trail.map (·.deed) =
      [.put 2, .put 1, .join, .start, .take 2, .enter, .sent, .wait, .wake, .take 1, .wait, .cutOff, .join] ∧
    r.queue.unfinished = 0 + 0 ∧ r.handed.length = 2 + 0 ∧
    r.joins[0]? = some ⟨0, some 12⟩ ∧ r.joins[1]? = some ⟨12, some 12⟩ := by
  have hfailed : Course stubborn (fresh 1 10) _ _ :=
    ((((((Course.here.act (.put _ 2)).act (.put _ 1)).act (.join _)).act (.start _)).act (.take rfl rfl)).act
      (.enter _)).act (.sent rfl)
  have hcut : Course stubborn (fresh 1 10) _ _ :=
    (((((hfailed.act (@Acts.wait _ _ _ 10 (by decide) (by decide))).act (.wake rfl)).act (.take rfl rfl)).act
      (@Acts.wait _ _ _ 12 (by decide) (by decide))).act (.cutOff rfl)).act (.join _)
  obtain ⟨hcount, honce, -, -, -, hjoins⟩ := (completion_is_exact stubborn 1 10).2 _ _ hcut
  exact ⟨_, _, hcut, rfl, hcount, honce, hjoins [_, _] _ _ rfl, hjoins [_, _, _, _, _, _, _, _, _, _, _, _] _ [] rfl⟩

end Run

end ChannelBot.Outbound
