/-
What the runs of the refresh loops are for one channel. Each event does to a channel what it does to it
alone, and what comes in for another channel does nothing to it (`Run.view_step`).
-/
import Mathlib.Data.List.Find
import ChannelBot.Proofs.Refresh.Loops
import ChannelBot.Proofs.Value.Access

namespace ChannelBot.Refresh

/-- What a run is for one channel: the state that is kept for it, when its loop goes on, if it has one, the
refresh that is underway, and what was asked for it. -/
@[ext]
structure View where
  state : Option State := none
  due : Option Nat := none
  underway : Option Refreshing := none
  asked : List (Nat × Query) := []

/-- When the loop of a channel goes on. -/
def due? (loops : List Loop) (channel : Value) : Option Nat :=
  (loops.find? (·.channel.same channel)).map (·.due)

/-- What was asked for a channel. -/
def askedFor (asked : List (Nat × Value × Query)) (channel : Value) : List (Nat × Query) :=
  asked.filterMap fun (time, other, q) => if other.same channel then some (time, q) else none

/-- What a run is for a channel. -/
def Run.view (r : Run) (name : String) : View where
  state := r.schedule.state? (.str name)
  due := due? r.schedule.loops (.str name)
  underway := (r.underway? (.str name)).map (·.2)
  asked := askedFor r.asked (.str name)

/-! ## One channel alone -/

/-- The seconds that a loop waits after a refresh. -/
def delay : Except Fault Int → Int
  | .ok n => n
  | .error _ => retryDelay

namespace View

/-- The loop is started. -/
def start (v : View) (now : Nat) (name : String) (token : Value) : View :=
  if v.due.isSome then v
  else { v with state := some { channel := .str name, refreshToken := token }, due := some now }

/-- The loop is started, if a loop is started for the channel. -/
def startAll (v : View) (now : Nat) (name : String) (pairs : List (Value × Value)) : View :=
  pairs.foldl (fun v p => if p.1 = .str name then v.start now name p.2 else v) v

/-- The refresh goes on at a time. -/
def goOn (clock : Nat → Moment) (v : View) (time : Nat) (x : Refreshing) : View :=
  match byClock (clock time) x with
  | .done after =>
    { v with
      state := some after.1
      due := some (time + Schedule.waitMicros (delay after.2))
      underway := none }
  | .ask q next => { v with underway := some (.ask q next), asked := v.asked ++ [(time, q)] }

/-- The loop begins a refresh, if it is due and does not wait for the end of one. -/
def wake (clock : Nat → Moment) (v : View) (now : Nat) : View :=
  match v.due, v.state with
  | some due, some s => if due ≤ now ∧ v.underway = none then v.goOn clock due (once s) else v
  | _, _ => v

/-- The refresh that is underway goes on with an outcome. -/
def hear (clock : Nat → Moment) (v : View) (now : Nat) (o : Outcome) : View :=
  match v.underway with
  | some (.ask q next) => v.goOn clock now (next (o.answer (clock now) q))
  | _ => v

/-- What an event does to a channel. -/
def step (clock : Nat → Moment) (v : View) (now : Nat) (name : String) : Event → View
  | .outcome channel o => if channel = .str name then v.hear clock now o else v
  | .advance duration => v.wake clock (now + duration)
  | .stop => { v with due := none, underway := none }
  | e => v.startAll now name e.starts

end View

/-! ## One channel among others -/

variable {name : String}

section Keyed

variable {α : Type} {key : α → Value} {items : List α} {a : α} {channel : Value}

theorem find?_drop_self :
    (items.filter fun b => !(key b).same (.str name)).find? (fun b => (key b).same (.str name)) = none :=
  List.find?_eq_none.mpr fun b hb => by simpa using (List.mem_filter.mp hb).2

theorem find?_drop_other (h : channel ≠ .str name) :
    (items.filter fun b => !(key b).same channel).find? (fun b => (key b).same (.str name)) =
      items.find? fun b => (key b).same (.str name) := by
  rw [List.find?_filter]
  refine List.find?_congr fun b _ => ?_
  by_cases hb : key b = .str name
  · simp [hb, Value.same_text, Value.text_same, h]
  · simp [hb, Value.same_text]

/-- What is put in the place of all that is kept for a channel is found. -/
theorem find?_put_self (ha : key a = .str name) :
    (items.filter (fun b => !(key b).same (.str name)) ++ [a]).find? (fun b => (key b).same (.str name)) = some a := by
  rw [List.find?_append, find?_drop_self]
  simp [ha, Value.same_text]

/-- What is put in the place of all that is kept for another channel is not. -/
theorem find?_put_other (ha : key a ≠ .str name) (h : channel ≠ .str name) :
    (items.filter (fun b => !(key b).same channel) ++ [a]).find? (fun b => (key b).same (.str name)) =
      items.find? fun b => (key b).same (.str name) := by
  rw [List.find?_append, find?_drop_other h, List.find?_singleton, Value.same_text, decide_eq_false ha,
    if_neg Bool.false_ne_true, Option.or_none]

end Keyed

section Schedule

variable {s : Schedule} {state : State} {channel token : Value} {now : Nat}

theorem state?_putState_self (h : state.channel = .str name) :
    (s.putState state).state? (.str name) = some state := by
  unfold Schedule.putState Schedule.state?
  rw [h]
  split
  next hany =>
    have hkept : ∀ old : State, (if old.channel.same (.str name) then state else old).channel.same (.str name) =
        old.channel.same (.str name) := by
      intro old
      split
      next hold => rw [hold, Value.same_text, decide_eq_true h]
      · rfl
    obtain ⟨old, hold⟩ := Option.isSome_iff_exists.mp (List.find?_isSome.mpr (List.any_eq_true.mp hany))
    have hsame := List.find?_some hold
    rw [List.find?_map]
    refine (congrArg (Option.map _) ((List.find?_congr fun old _ => hkept old).trans hold)).trans ?_
    rw [Option.map_some, if_pos hsame]
  next hany =>
    have hnone := List.any_eq_false.mp (Bool.eq_false_iff.mpr hany)
    rw [List.find?_append, List.find?_eq_none.mpr hnone]
    simp [h, Value.same_text]

theorem state?_putState_other (h : state.channel ≠ .str name) :
    (s.putState state).state? (.str name) = s.state? (.str name) := by
  have hlast : state.channel.same (.str name) = false := Value.same_text.trans (decide_eq_false h)
  have hapart : ∀ old : State, old.channel.same (.str name) = true → old.channel.same state.channel = false := by
    intro old hold
    rw [Value.same_text, decide_eq_true_eq] at hold
    rw [hold, Value.text_same]
    exact decide_eq_false h
  unfold Schedule.putState Schedule.state?
  split
  · have hkept : ∀ old : State, (if old.channel.same state.channel then state else old).channel.same (.str name) =
        old.channel.same (.str name) := by
      intro old
      split
      next hold =>
        rw [hlast, eq_comm, Bool.eq_false_iff]
        intro hsame
        exact absurd hold (Bool.eq_false_iff.mp (hapart old hsame))
      · rfl
    rw [List.find?_map]
    refine (congrArg (Option.map _) (List.find?_congr fun old _ => hkept old)).trans ?_
    cases hold : s.states.find? fun old => old.channel.same (.str name) with
    | none => rfl
    | some old =>
      have hsame := List.find?_some hold
      rw [Option.map_some, hapart old hsame]
      rfl
  · rw [List.find?_append, List.find?_singleton, hlast]
    simp

theorem isLive_eq (s : Schedule) (channel : Value) : s.isLive channel = (due? s.loops channel).isSome := by
  rw [Schedule.isLive, due?, Option.isSome_map, Bool.eq_iff_iff, List.any_eq_true, List.find?_isSome]

end Schedule

theorem due?_eq_none_iff {loops : List Loop} :
    due? loops (.str name) = none ↔ ∀ l ∈ loops, l.channel ≠ .str name := by
  simp [due?, Value.same_text]

/-- The time at which the only loop of a channel goes on. -/
theorem due?_of_mem {loops : List Loop} (h : loops.Pairwise fun l l' => l.channel.same l'.channel = false) {l : Loop}
    (hl : l ∈ loops) (hchannel : l.channel = .str name) : due? loops (.str name) = some l.due := by
  induction loops with
  | nil => cases hl
  | cons first rest ih =>
    obtain ⟨hfirst, hrest⟩ := List.pairwise_cons.mp h
    rw [due?, List.find?_cons, Value.same_text]
    rcases List.mem_cons.mp hl with rfl | hl
    · rw [decide_eq_true hchannel]
      rfl
    · have hapart := hfirst l hl
      rw [hchannel, Value.same_text] at hapart
      rw [hapart]
      exact ih hrest hl

theorem due?_append (loops : List Loop) (l : Loop) :
    due? (loops ++ [l]) (.str name) =
      (due? loops (.str name)).or (if l.channel = .str name then some l.due else none) := by
  rw [due?, due?, List.find?_append, List.find?_singleton, Value.same_text]
  by_cases h : l.channel = .str name <;>
    cases loops.find? fun l => l.channel.same (.str name) <;> simp [h]

theorem askedFor_append (asked : List (Nat × Value × Query)) (time : Nat) (channel : Value) (q : Query) :
    askedFor (asked ++ [(time, channel, q)]) (.str name) =
      askedFor asked (.str name) ++ if channel = .str name then [(time, q)] else [] := by
  rw [askedFor, List.filterMap_append, List.filterMap_cons, List.filterMap_nil]
  by_cases h : channel = .str name <;> simp [h, askedFor, Value.same_text]

namespace Run

variable {clock : Nat → Moment} {r : Run} {channel token : Value} {time : Nat} {x : Refreshing} {s : State}

theorem view_start (r : Run) (channel token : Value) :
    view { r with schedule := r.schedule.start r.now channel token } name =
      if channel = .str name then (r.view name).start r.now name token else r.view name := by
  rcases r.schedule.start_cases r.now channel token with ⟨hlive, heq⟩ | ⟨hlive, heq⟩
  · rw [heq]
    split
    next h =>
      rw [h, isLive_eq] at hlive
      exact (if_pos hlive).symm
    · rfl
  · rw [heq]
    by_cases h : channel = .str name
    · subst h
      rw [isLive_eq] at hlive
      have hnone : due? r.schedule.loops (.str name) = none := by simpa using hlive
      rw [if_pos rfl, View.start, if_neg (by simp [view, hnone])]
      refine View.ext (state?_putState_self rfl) ?_ rfl rfl
      rw [view, due?_append, hnone, if_pos rfl]
      rfl
    · rw [if_neg h]
      refine View.ext (state?_putState_other h) ?_ rfl rfl
      rw [view, due?_append, if_neg h, Option.or_none]
      rfl

theorem view_startAll (r : Run) (pairs : List (Value × Value)) :
    view { r with schedule := r.schedule.startAll r.now pairs } name = (r.view name).startAll r.now name pairs := by
  induction pairs generalizing r with
  | nil => rfl
  | cons p rest ih =>
    rw [View.startAll, List.foldl_cons, ← view_start]
    exact ih { r with schedule := r.schedule.start r.now p.1 p.2 }

/-- A refresh that goes on does to its channel what it does to it alone. -/
theorem view_goOn_self (hs : s.channel = .str name) (hx : Stands s (byClock (clock time) x)) :
    (r.goOn clock time (.str name) x).view name = (r.view name).goOn clock time x := by
  unfold goOn View.goOn
  generalize byClock (clock time) x = y at hx
  cases y with
  | done after =>
    refine View.ext (state?_putState_self (hx.channel_eq.trans hs)) ?_ ?_ rfl
    · exact congrArg (Option.map Loop.due) (find?_put_self rfl)
    · exact congrArg (Option.map Prod.snd) find?_drop_self
  | ask q next =>
    refine View.ext rfl rfl ?_ ?_
    · exact congrArg (Option.map Prod.snd) (find?_put_self rfl)
    · exact (askedFor_append ..).trans (by rw [if_pos rfl]; rfl)

/-- A refresh that goes on does nothing to another channel. -/
theorem view_goOn_other (hs : s.channel.same channel = true) (hx : Stands s (byClock (clock time) x))
    (h : channel ≠ .str name) : (r.goOn clock time channel x).view name = r.view name := by
  unfold goOn
  generalize byClock (clock time) x = y at hx
  cases y with
  | done after =>
    have hs' : s.channel ≠ .str name := by
      intro heq
      rw [heq, Value.text_same, decide_eq_true_eq] at hs
      exact h hs
    refine View.ext (state?_putState_other (hx.channel_eq.trans_ne hs')) ?_ ?_ rfl
    · exact congrArg (Option.map Loop.due) (find?_put_other h h)
    · exact congrArg (Option.map Prod.snd) (find?_drop_other h)
  | ask q next =>
    refine View.ext rfl rfl ?_ ?_
    · exact congrArg (Option.map Prod.snd) (find?_put_other h h)
    · exact (askedFor_append ..).trans (by rw [if_neg h, List.append_nil]; rfl)

theorem underway?_isNone (r : Run) (name : String) :
    r.underway? (.str name) = none ↔ (r.view name).underway = none := Option.map_eq_none_iff.symm

theorem wake_now (clock : Nat → Moment) (r : Run) (l : Loop) : (r.wake clock l).now = r.now := by
  unfold wake
  split
  · cases r.schedule.state? l.channel with
    | none => rfl
    | some s => simp only [goOn, byClock_once]
  · rfl

theorem view_wake_self {due : Nat} (hdue : (r.view name).due = some due) :
    (r.wake clock ⟨.str name, due⟩).view name = (r.view name).wake clock r.now := by
  have hstate : (r.view name).state = r.schedule.state? (.str name) := rfl
  unfold wake View.wake
  rw [hdue, hstate]
  cases hs : r.schedule.state? (.str name) with
  | none => exact congrArg (view · name) (ite_self r)
  | some s =>
    have hsame := List.find?_some hs
    rw [Value.same_text, decide_eq_true_eq] at hsame
    dsimp only
    simp only [underway?_isNone]
    split
    · exact view_goOn_self hsame (by rw [byClock_once]; exact .asking)
    · rfl

theorem view_wake_other {l : Loop} (h : l.channel ≠ .str name) : (r.wake clock l).view name = r.view name := by
  unfold wake
  split
  · cases hs : r.schedule.state? l.channel with
    | none => rfl
    | some s =>
      have hsame := List.find?_some hs
      exact view_goOn_other hsame (by rw [byClock_once]; exact .asking) h
  · rfl

/-- When the loops go on, the one of a channel does, at its time. -/
theorem view_wakeAll {ls : List Loop} (hls : ls.Pairwise fun l l' => l.channel.same l'.channel = false)
    (hdue : ∀ l ∈ ls, l.channel = .str name → (r.view name).due = some l.due) :
    (ls.foldl (wake clock) r).view name =
      if ∃ l ∈ ls, l.channel = .str name then (r.view name).wake clock r.now else r.view name := by
  induction ls generalizing r with
  | nil => simp
  | cons l rest ih =>
    obtain ⟨hl, hrest⟩ := List.pairwise_cons.mp hls
    rw [List.foldl_cons]
    by_cases h : l.channel = .str name
    · obtain ⟨channel, due⟩ := l
      subst h
      have hnone : ∀ l' ∈ rest, l'.channel ≠ .str name := by
        intro l' hl' heq
        have hsame := hl l' hl'
        rw [heq, Value.same_text, decide_eq_false_iff_not] at hsame
        exact hsame rfl
      rw [ih hrest fun l' hl' heq => absurd heq (hnone l' hl'), if_neg (fun ⟨l', hl', heq⟩ => hnone l' hl' heq),
        if_pos ⟨_, List.mem_cons_self, rfl⟩, view_wake_self (hdue _ List.mem_cons_self rfl)]
    · have hsame : (r.wake clock l).view name = r.view name := view_wake_other h
      rw [ih hrest fun l' hl' => hsame ▸ hdue l' (List.mem_cons_of_mem _ hl'), hsame, wake_now]
      simp [h]

theorem view_hear_self (h : r.Tidy) (o : Outcome) :
    (r.hear clock (.str name) o).view name = (r.view name).hear clock r.now o := by
  have hview : (r.view name).underway = (r.underway? (.str name)).map (·.2) := rfl
  unfold hear View.hear
  rw [hview]
  cases hunderway : r.underway? (.str name) with
  | none => rfl
  | some p =>
    obtain ⟨key, x⟩ := p
    obtain ⟨hmem, hkey⟩ := underway?_eq_some hunderway
    obtain ⟨s, hs, hstands⟩ := h.waits _ hmem
    rw [Value.same_text, decide_eq_true_eq] at hkey
    dsimp only at hkey
    subst hkey
    rw [Value.same_text, decide_eq_true_eq] at hs
    cases x with
    | done after => rfl
    | ask q next => exact view_goOn_self hs (hstands.answered _ o).stands

theorem view_hear_other (h : r.Tidy) (o : Outcome) (hchannel : channel ≠ .str name) :
    (r.hear clock channel o).view name = r.view name := by
  unfold hear
  split
  next key q next hunderway =>
    obtain ⟨hmem, hkey⟩ := underway?_eq_some hunderway
    obtain ⟨s, hs, hstands⟩ := h.waits _ hmem
    refine view_goOn_other hs (hstands.answered _ o).stands fun heq => hchannel ?_
    rw [heq, Value.text_same, decide_eq_true_eq] at hkey
    exact hkey
  · rfl

theorem view_advance (h : r.Tidy) (duration : Nat) :
    (r.step clock (.advance duration)).view name = (r.view name).wake clock (r.now + duration) := by
  refine (view_wakeAll (r := { r with now := r.now + duration }) h.apart fun l hl hchannel =>
    due?_of_mem h.apart hl hchannel).trans ?_
  split
  · rfl
  next hnone =>
    have hdue : (r.view name).due = none := due?_eq_none_iff.mpr fun l hl heq => hnone ⟨l, hl, heq⟩
    rw [View.wake, hdue]
    rfl

/-- **One channel among others.** An event does to a channel, whatever else there is, what it does to it
alone. -/
theorem view_step (h : r.Tidy) (e : Event) : (r.step clock e).view name = (r.view name).step clock r.now name e := by
  cases e with
  | start rows => rw [step_start, view_startAll]; rfl
  | startOne channel token => rw [step_startOne, view_startAll]; rfl
  | stop => rfl
  | outcome channel o =>
    rw [View.step]
    split
    next hchannel =>
      subst hchannel
      exact view_hear_self h o
    next hchannel => exact view_hear_other h o hchannel
  | advance duration => exact view_advance h duration

end Run

end ChannelBot.Refresh
