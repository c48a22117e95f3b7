/-
The refresh loops of a bot in its closed world. There every answer comes at once, so a loop that goes on
does what it does in a run in which the outcomes come in at that very time (`refreshLoop_schedule`).
-/
import ChannelBot.Bot.Stage
import ChannelBot.Proofs.Refresh.Channel

namespace ChannelBot

open Dialogue

namespace Refresh.Run

variable {clock : Nat → Moment} {name : String}

/-- The outcomes with which a refresh goes a way that it can go, if it reads the clock there is. -/
theorem settles {x : Refreshing} {turns : List (Turn surroundings)} {after : State × Except Fault Int}
    (h : Runs x turns after) (r : Run)
    (hclock : ∀ m : Moment, (⟨.now, m⟩ : Turn surroundings) ∈ turns → m = clock r.now) :
    ∃ outcomes : List Outcome,
      (outcomes.foldl (hear clock · (.str name) ·) (r.goOn clock r.now (.str name) x)).schedule =
        r.schedule.settle r.now ⟨.str name, r.now⟩ after := by
  induction h generalizing r with
  | done after => exact ⟨[], rfl⟩
  | @ask q next turns after answer h ih =>
    have hrest : ∀ m : Moment, (⟨.now, m⟩ : Turn surroundings) ∈ turns → m = clock r.now :=
      fun m hm => hclock m (List.mem_cons_of_mem _ hm)
    -- what waits for someone goes on with an outcome that gives the answer
    have hwaits : ∀ o : Outcome, o.answer (clock r.now) q = answer →
        byClock (clock r.now) (.ask q next) = .ask q next → ∃ outcomes : List Outcome,
          (outcomes.foldl (hear clock · (.str name) ·) (r.goOn clock r.now (.str name) (.ask q next))).schedule =
            r.schedule.settle r.now ⟨.str name, r.now⟩ after := by
      intro o ho hq
      obtain ⟨r', hr', hunderway⟩ : ∃ r', r.goOn clock r.now (.str name) (.ask q next) = r' ∧
          (r'.now = r.now ∧ r'.schedule = r.schedule) ∧ r'.underway? (.str name) = some (.str name, .ask q next) := by
        refine ⟨_, rfl, ?_⟩
        unfold goOn
        rw [hq]
        exact ⟨⟨rfl, rfl⟩, find?_put_self rfl⟩
      obtain ⟨⟨hnow, hschedule⟩, hunderway⟩ := hunderway
      obtain ⟨outcomes, hsettle⟩ := ih r' (by rw [hnow]; exact hrest)
      refine ⟨o :: outcomes, ?_⟩
      rw [List.foldl_cons, hr', hear, hunderway]
      dsimp only
      rw [hnow, ho, ← hnow, hsettle, hnow, hschedule]
    cases q with
    | grant token => exact hwaits ⟨answer, fun _ => .error .timeout⟩ rfl rfl
    | now =>
      obtain rfl := hclock answer List.mem_cons_self
      exact ih r hrest
    | store q =>
      classical
      let silent : (q : StoreQuery) → storeAnswer q := fun _ => .error .timeout
      have hanswer : Function.update silent q answer q = answer := Function.update_self q answer silent
      exact hwaits ⟨.error .timeout, Function.update silent q answer⟩ hanswer rfl

end Refresh.Run

namespace Bot.Stage

/-- What is sent to the backend changes nothing else. -/
theorem send_frame (s : Stage) (method path : String) (body : Option String) (fuel : Nat) :
    ∃ b, (s.send method path body fuel).1 = { s with backend := b } := by
  induction fuel generalizing s path with
  | zero => exact ⟨s.backend, rfl⟩
  | succ fuel ih =>
    unfold send
    generalize s.backend.handle s.moment [] _ = answered
    obtain ⟨b, reply⟩ := answered
    dsimp only
    split
    · split
      · exact ⟨b, rfl⟩
      · obtain ⟨b', hb'⟩ := ih { s with backend := b } _
        exact ⟨b', hb'⟩
    · exact ⟨b, rfl⟩

/-- A question to the store changes the backend, or meets a trouble, and changes nothing else. -/
theorem askStore_frame (s : Stage) (q : StoreQuery) :
    ∃ b troubles, (s.askStore q).1 = { s with backend := b, troubles := troubles } := by
  unfold askStore
  cases hmeet : meet q.request.method (backendAddress ++ q.request.path) s.troubles with
  | some found =>
    simp only [hmeet]
    exact ⟨s.backend, found.2, rfl⟩
  | none =>
    obtain ⟨b, hb⟩ := s.send_frame q.request.method q.request.path (q.request.payload.map (·.write Value.spaced)) 5
    simp only [hmeet]
    exact ⟨b, s.troubles, hb⟩

/-- A refresh that needs not wait goes one of its ways, at the time that it is. -/
theorem performNow_refreshing (setup : Setup) (s : Stage) (x : Refresh.Refreshing) :
    ∃ s' turns after, s.performNow (Dialogue.through (refreshProgram setup) x) = (s', some after) ∧
      (s'.now = s.now ∧ s'.schedule = s.schedule) ∧ Runs x turns after ∧
      ∀ m : Moment, (⟨.now, m⟩ : Turn Refresh.surroundings) ∈ turns → m = s.moment := by
  induction x generalizing s with
  | done after => exact ⟨s, [], after, rfl, ⟨rfl, rfl⟩, .done after, fun _ h => absurd h List.not_mem_nil⟩
  | ask q next ih =>
    cases q with
    | grant token =>
      obtain ⟨s', turns, after, hperform, hframe, hruns, hclock⟩ :=
        ih (Spotify.decodeGrant (s.askWeb (Spotify.tokenRequest setup.services.music token))) s
      refine ⟨s', ⟨.grant token, _⟩ :: turns, after, hperform, hframe, .ask _ hruns, fun m hm => ?_⟩
      rcases List.mem_cons.mp hm with heq | hm
      · cases congrArg Turn.query heq
      · exact hclock m hm
    | now =>
      obtain ⟨s', turns, after, hperform, hframe, hruns, hclock⟩ := ih s.moment s
      refine ⟨s', ⟨.now, _⟩ :: turns, after, hperform, hframe, .ask _ hruns, fun m hm => ?_⟩
      rcases List.mem_cons.mp hm with heq | hm
      · cases heq
        rfl
      · exact hclock m hm
    | store q =>
      obtain ⟨b, troubles, hstage⟩ := s.askStore_frame q
      have hnow : (s.askStore q).1.now = s.now := by rw [hstage]
      have hschedule : (s.askStore q).1.schedule = s.schedule := by rw [hstage]
      obtain ⟨s', turns, after, hperform, hframe, hruns, hclock⟩ := ih (s.askStore q).2 (s.askStore q).1
      refine ⟨s', ⟨.store q, _⟩ :: turns, after, hperform, ⟨hframe.1.trans hnow, hframe.2.trans hschedule⟩, .ask _ hruns,
        fun m hm => ?_⟩
      rcases List.mem_cons.mp hm with heq | hm
      · cases congrArg Turn.query heq
      · rw [hclock m hm, moment, hnow, moment]

/-- **A loop in the closed world.** It goes on as in a run in which the outcomes come in when they are asked
for. -/
theorem refreshLoop_schedule (s : Stage) {state : Refresh.State} {name : String} (due : Nat)
    (h : s.schedule.state? (.str name) = some state) :
    let clock : Nat → Moment := fun time => ⟨epoch.micros + time⟩
    let r : Refresh.Run := { now := s.now, schedule := s.schedule }
    ∃ outcomes : List Refresh.Outcome,
      (outcomes.foldl (Refresh.Run.hear clock · (.str name) ·)
          (r.goOn clock s.now (.str name) (Refresh.once state))).schedule =
        (s.refreshLoop ⟨.str name, due⟩).schedule := by
  intro clock r
  obtain ⟨s', turns, after, hperform, hframe, hruns, hclock⟩ :=
    performNow_refreshing s.setup s (Refresh.once state)
  have hnow : ∀ m : Moment, (⟨.now, m⟩ : Turn Refresh.surroundings) ∈ turns → m = clock r.now := hclock
  obtain ⟨outcomes, hsettle⟩ := Refresh.Run.settles hruns r hnow
  refine ⟨outcomes, hsettle.trans ?_⟩
  rw [refreshLoop, h]
  dsimp only [refresh]
  rw [hperform]
  dsimp only
  rw [hframe.1, hframe.2]
  rfl

end Bot.Stage

end ChannelBot
