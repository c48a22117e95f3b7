/-
Channels do not disturb each other. What a run is for a channel does not depend on the outcomes that come
in for another one (`Run.view_spared`), a channel has a loop from when one is started for it until all are
stopped, whatever comes in (`Run.isLive_iff`), and a loop goes on after every outcome (`Run.Persists`).
-/
import ChannelBot.Proofs.Refresh.Channel

namespace ChannelBot.Refresh

variable {clock : Nat → Moment} {name : String}

/-! ## Outcomes for another channel -/

/-- How much time an event takes. -/
def Event.lasts : Event → Nat
  | .advance duration => duration
  | _ => 0

/-- Whether an event is an outcome for a channel. -/
def Event.isFor (channel : Value) : Event → Bool
  | .outcome other _ => other.same channel
  | _ => false

/-- The events without the outcomes for a channel. -/
def sparing (channel : Value) (events : List Event) : List Event := events.filter fun e => !e.isFor channel

theorem View.step_of_isFor {v : View} {now : Nat} {e : Event} {failing : Value} (h : failing ≠ .str name)
    (he : e.isFor failing = true) : v.step clock now name e = v := by
  cases e with
  | start | startOne | stop | advance => cases he
  | outcome other o =>
    refine if_neg fun heq => h ?_
    rw [Event.isFor, heq, Value.text_same, decide_eq_true_eq] at he
    exact he

namespace Run

theorem goOn_now (r : Run) (time : Nat) (channel : Value) (x : Refreshing) :
    (r.goOn clock time channel x).now = r.now := by
  unfold goOn
  cases byClock (clock time) x <;> rfl

theorem wakeAll_now (r : Run) (ls : List Loop) : (ls.foldl (wake clock) r).now = r.now := by
  induction ls generalizing r with
  | nil => rfl
  | cons l rest ih => exact (ih _).trans (wake_now clock r l)

theorem step_now (r : Run) (e : Event) : (r.step clock e).now = r.now + e.lasts := by
  cases e with
  | start | startOne | stop => rfl
  | outcome channel o =>
    show (r.hear clock channel o).now = r.now
    unfold hear
    split
    · exact goOn_now ..
    · rfl
  | advance duration => exact wakeAll_now { r with now := r.now + duration } _

/-- The outcomes that come in for another channel make no difference to a channel. -/
theorem view_spared (events : List Event) {failing : Value} (h : failing ≠ .str name) :
    (steps clock events).now = (steps clock (sparing failing events)).now ∧
      (steps clock events).view name = (steps clock (sparing failing events)).view name := by
  induction events using List.reverseRecOn with
  | nil => exact ⟨rfl, rfl⟩
  | append_singleton events e ih =>
    obtain ⟨hnow, hview⟩ := ih
    rw [sparing, List.filter_append, ← sparing, steps_snoc, step_now, view_step (tidy_steps clock events)]
    cases he : e.isFor failing with
    | true =>
      rw [List.filter_cons_of_neg (by simp [he]), List.filter_nil, List.append_nil, View.step_of_isFor h he]
      cases e with
      | start | startOne | stop | advance => cases he
      | outcome other o => exact ⟨hnow, hview⟩
    | false =>
      rw [List.filter_cons_of_pos (by simp [he]), List.filter_nil, steps_snoc, step_now,
        view_step (tidy_steps clock _), hnow, hview]
      exact ⟨rfl, rfl⟩

end Run

/-! ## How long a channel has a loop -/

namespace View

variable {v : View} {now : Nat} {x : Refreshing} {s : State}

/-- A channel that has a loop has a state, and a refresh that is underway is one of its loop's, waits for
an answer, and stands somewhere with that state. -/
structure Sound (v : View) (name : String) : Prop where
  named : ∀ s, v.state = some s → s.channel = .str name
  known : v.due.isSome → v.state.isSome
  owned : ∀ x, v.underway = some x → v.due.isSome
  waits : ∀ x, v.underway = some x → ∃ q next s, x = .ask q next ∧ v.state = some s ∧ Stands s x

theorem sound_empty (name : String) : Sound {} name where
  named _ h := nomatch h
  known h := nomatch h
  owned _ h := nomatch h
  waits _ h := nomatch h

theorem start_due (v : View) (now : Nat) (name : String) (token : Value) : (v.start now name token).due.isSome := by
  unfold start
  split
  · assumption
  · rfl

theorem Sound.start (h : v.Sound name) (now : Nat) (token : Value) : (v.start now name token).Sound name := by
  unfold View.start
  split
  · exact h
  next hdue =>
    refine ⟨?_, fun _ => rfl, fun x hx => absurd (h.owned x hx) hdue, fun x hx => absurd (h.owned x hx) hdue⟩
    intro s hs
    cases hs
    rfl

theorem Sound.goOn (h : v.Sound name) {time : Nat} (hs : v.state = some s) (hdue : v.due.isSome)
    (hx : Stands s (byClock (clock time) x)) : (v.goOn clock time x).Sound name := by
  unfold View.goOn
  generalize byClock (clock time) x = y at hx
  cases y with
  | done after =>
    refine ⟨?_, fun _ => rfl, fun _ h => (nomatch h), fun _ h => (nomatch h)⟩
    intro s' hs'
    cases hs'
    exact hx.channel_eq.trans (h.named s hs)
  | ask q next =>
    refine ⟨h.named, h.known, fun _ _ => hdue, ?_⟩
    intro x' hx'
    cases hx'
    exact ⟨q, next, s, rfl, hs, hx⟩

theorem goOn_due (v : View) (time : Nat) (x : Refreshing) (h : v.due.isSome) :
    (v.goOn clock time x).due.isSome := by
  unfold goOn
  cases byClock (clock time) x with
  | done after => rfl
  | ask q next => exact h

theorem Sound.startAll (h : v.Sound name) (now : Nat) (pairs : List (Value × Value)) :
    (v.startAll now name pairs).Sound name ∧
      ((v.startAll now name pairs).due.isSome ↔ (∃ token, (.str name, token) ∈ pairs) ∨ v.due.isSome) := by
  induction pairs generalizing v with
  | nil => exact ⟨h, by simp [View.startAll]⟩
  | cons p rest ih =>
    obtain ⟨channel, token⟩ := p
    by_cases hchannel : channel = .str name
    · subst hchannel
      have hstart : v.startAll now name ((.str name, token) :: rest) =
          (v.start now name token).startAll now name rest := by
        simp [View.startAll]
      obtain ⟨hsound, hdue⟩ := ih (h.start now token)
      rw [hstart, hdue]
      exact ⟨hsound, by simp [start_due, List.mem_cons]⟩
    · have hstart : v.startAll now name ((channel, token) :: rest) = v.startAll now name rest := by
        simp [View.startAll, hchannel]
      obtain ⟨hsound, hdue⟩ := ih h
      rw [hstart, hdue]
      exact ⟨hsound, by simp [Ne.symm hchannel]⟩

theorem Sound.wake (h : v.Sound name) (clock : Nat → Moment) (now : Nat) :
    (v.wake clock now).Sound name ∧ ((v.wake clock now).due.isSome ↔ v.due.isSome) := by
  unfold View.wake
  split
  next due s hdue hs =>
    split
    · have hlive : v.due.isSome := Option.isSome_of_eq_some hdue
      refine ⟨h.goOn hs hlive (by rw [byClock_once]; exact .asking), ?_⟩
      simp [goOn_due v due (once s) hlive, hlive]
    · exact ⟨h, .rfl⟩
  · exact ⟨h, .rfl⟩

theorem Sound.hear (h : v.Sound name) (clock : Nat → Moment) (now : Nat) (o : Outcome) :
    (v.hear clock now o).Sound name ∧ ((v.hear clock now o).due.isSome ↔ v.due.isSome) := by
  unfold View.hear
  split
  next q next hunderway =>
    have hlive := h.owned _ hunderway
    obtain ⟨-, -, s, -, hs, hstands⟩ := h.waits _ hunderway
    refine ⟨h.goOn hs hlive (hstands.answered _ o).stands, ?_⟩
    simp [goOn_due v now _ hlive, hlive]
  · exact ⟨h, .rfl⟩

/-- A channel has a loop after an event if one is started for it, or if it had one and they are not all
stopped. -/
theorem Sound.step (h : v.Sound name) (now : Nat) (e : Event) :
    (v.step clock now name e).Sound name ∧
      ((v.step clock now name e).due.isSome ↔
        (∃ token, (.str name, token) ∈ e.starts) ∨ (v.due.isSome ∧ e ≠ .stop)) := by
  cases e with
  | start rows =>
    obtain ⟨hsound, hdue⟩ := h.startAll now (Event.start rows).starts
    exact ⟨hsound, hdue.trans (by simp)⟩
  | startOne channel token =>
    obtain ⟨hsound, hdue⟩ := h.startAll now (Event.startOne channel token).starts
    exact ⟨hsound, hdue.trans (by simp)⟩
  | stop =>
    refine ⟨⟨h.named, fun h => (nomatch h), fun _ h => (nomatch h), fun _ h => (nomatch h)⟩, ?_⟩
    simp [View.step, Event.starts]
  | outcome channel o =>
    rw [View.step]
    split
    · simpa [Event.starts] using h.hear clock now o
    · simpa [Event.starts] using h
  | advance duration => simpa [View.step, Event.starts] using h.wake clock (now + duration)

end View

/-- Whether a loop was started for a channel, after which the loops were not stopped. -/
def Started (name : String) (events : List Event) : Prop :=
  ∃ before e later, events = before ++ e :: later ∧ (∃ token, (.str name, token) ∈ e.starts) ∧ Event.stop ∉ later

theorem started_snoc {events : List Event} {e : Event} :
    Started name (events ++ [e]) ↔
      (∃ token, (.str name, token) ∈ e.starts) ∨ (Started name events ∧ e ≠ .stop) := by
  constructor
  · rintro ⟨before, e', later, hevents, hstarts, hstop⟩
    rcases snoc_eq_append_cons_iff.mp hevents with ⟨-, -, rfl⟩ | ⟨between, rfl, hbefore⟩
    · exact .inl hstarts
    · simp only [List.mem_append, List.mem_singleton, not_or] at hstop
      exact .inr ⟨⟨before, e', between, hbefore, hstarts, hstop.1⟩, Ne.symm hstop.2⟩
  · rintro (hstarts | ⟨⟨before, e', later, rfl, hstarts, hstop⟩, hne⟩)
    · exact ⟨events, e, [], rfl, hstarts, List.not_mem_nil⟩
    · refine ⟨before, e', later ++ [e], by simp, hstarts, ?_⟩
      simp [hstop, Ne.symm hne]

namespace Run

theorem sound_view (clock : Nat → Moment) (events : List Event) (name : String) :
    ((steps clock events).view name).Sound name ∧
      (((steps clock events).view name).due.isSome ↔ Started name events) := by
  induction events using List.reverseRecOn with
  | nil => exact ⟨View.sound_empty name, by simp [Started, steps, view, due?]⟩
  | append_singleton events e ih =>
    obtain ⟨hsound, hdue⟩ := ih.1.step (steps clock events).now e
    rw [steps_snoc, view_step (tidy_steps clock events), started_snoc, ← ih.2]
    exact ⟨hsound, hdue⟩

theorem isLive_iff (events : List Event) :
    (steps clock events).schedule.isLive (.str name) = true ↔ Started name events := by
  rw [isLive_eq]
  exact (sound_view clock events name).2

end Run

/-! ## What a loop does with what comes in -/

namespace View

/-- The refresh has failed: all is as it was, and the next one is begun after a while. -/
def retrying (v : View) (now : Nat) : View :=
  { v with due := some (now + Schedule.waitMicros retryDelay), underway := none }

/-- The store has taken a grant, and the next refresh is begun before it ends. -/
def holding (v : View) (now : Nat) (s : State) (g : Spotify.Grant) (expiry : Moment) : View :=
  { v with state := some (s.accept g expiry), due := some (now + Schedule.waitMicros (wait g)), underway := none }

/-- A refresh waits, for a question that it has asked at a time. -/
def asking (v : View) (time : Nat) (q : Query) (next : Answer q → Refreshing) : View :=
  { v with underway := some (.ask q next), asked := v.asked ++ [(time, q)] }

variable {v : View} {s : State}

theorem delay_afterFault (s : State) (f : Fault) : delay (afterFault s f).2 = retryDelay := by
  unfold afterFault
  cases isExpected f <;> rfl

theorem goOn_failed {time : Nat} {x : Refreshing} {f : Fault} (hs : v.state = some s)
    (hx : byClock (clock time) x = .done (afterFault s f)) : v.goOn clock time x = v.retrying time := by
  rw [goOn, hx]
  refine View.ext hs.symm ?_ rfl rfl
  exact congrArg (fun n => some (time + Schedule.waitMicros n)) (delay_afterFault s f)

theorem wake_eq {due now : Nat} (hdue : v.due = some due) (hs : v.state = some s) (hidle : v.underway = none)
    (hnow : due ≤ now) : v.wake clock now = v.asking due (.grant s.refreshToken) (settle s) := by
  rw [wake, hdue, hs]
  dsimp only
  rw [if_pos ⟨hnow, hidle⟩, goOn, byClock_once]
  rfl

theorem hear_eq {q : Query} {next : Answer q → Refreshing} (hunderway : v.underway = some (.ask q next)) (now : Nat)
    (o : Outcome) : v.hear clock now o = v.goOn clock now (next (o.answer (clock now) q)) := by
  rw [hear, hunderway]

/-- What an outcome does to a channel whose refresh waits for it. -/
theorem Sound.hear_cases (h : v.Sound name) {q : Query} {next : Answer q → Refreshing}
    (hunderway : v.underway = some (.ask q next)) (now : Nat) (o : Outcome) :
    ((∃ token, q = .grant token) ∧ ∃ q' next', v.hear clock now o = v.asking now (.store q') next') ∨
      v.hear clock now o = v.retrying now ∨
      ∃ s g expiry, v.state = some s ∧ v.hear clock now o = v.holding now s g expiry := by
  obtain ⟨-, -, s, -, hs, hstands⟩ := h.waits _ hunderway
  rw [hear_eq hunderway]
  obtain ⟨hstands', hasks⟩ := hstands.answered (clock now) o
  cases hy : byClock (clock now) (next (o.answer (clock now) q)) with
  | ask q' next' =>
    obtain ⟨hq, channel, g, expiry, rfl⟩ := hasks q' next' hy
    refine .inl ⟨⟨_, hq⟩, _, next', ?_⟩
    rw [View.goOn, hy]
    rfl
  | done after =>
    rw [hy] at hstands'
    cases hstands' with
    | failed f => exact .inr (.inl (goOn_failed hs hy))
    | taken g expiry =>
      refine .inr (.inr ⟨s, g, expiry, hs, ?_⟩)
      rw [View.goOn, hy]
      rfl

theorem Sound.hear_refused (h : v.Sound name) {q : Query} {next : Answer q → Refreshing}
    (hunderway : v.underway = some (.ask q next)) (now : Nat) {o : Outcome} (ho : o.Refuses q) :
    v.hear clock now o = v.retrying now := by
  obtain ⟨-, -, s, -, hs, hstands⟩ := h.waits _ hunderway
  obtain ⟨f, hf⟩ := hstands.refused (clock now) ho
  rw [hear_eq hunderway]
  exact goOn_failed hs hf

end View

namespace Run

/-- The loop of a channel goes on, whatever comes in. -/
structure Persists (clock : Nat → Moment) (r : Run) (name : String) : Prop where
  /-- When its time has come, it asks for a grant with the token of its state. -/
  begins : ∀ due, (r.view name).due = some due → (r.view name).underway = none →
    ∃ s, (r.view name).state = some s ∧ ∀ duration, due ≤ r.now + duration →
      (r.step clock (.advance duration)).view name = (r.view name).asking due (.grant s.refreshToken) (settle s)
  /-- When an outcome has come in for which it waits, it hands a grant to the store, or it has failed and
  waits for the next time, or the store has taken the grant, and it waits for the next time. -/
  ends : ∀ x, (r.view name).underway = some x → ∃ q next, x = .ask q next ∧ ∀ o,
    let after := (r.step clock (.outcome (.str name) o)).view name
    ((∃ token, q = .grant token) ∧ ∃ q' next', after = (r.view name).asking r.now (.store q') next') ∨
      after = (r.view name).retrying r.now ∨
      ∃ s g expiry, (r.view name).state = some s ∧ after = (r.view name).holding r.now s g expiry
  /-- After any fault it waits for the next time. -/
  retries : ∀ q next o, (r.view name).underway = some (.ask q next) → o.Refuses q →
    (r.step clock (.outcome (.str name) o)).view name = (r.view name).retrying r.now

theorem persists (clock : Nat → Moment) (events : List Event) (name : String) :
    (steps clock events).Persists clock name := by
  have htidy := tidy_steps clock events
  have hsound := (sound_view clock events name).1
  refine ⟨fun due hdue hidle => ?_, fun x hx => ?_, fun q next o hx ho => ?_⟩
  · obtain ⟨s, hs⟩ := Option.isSome_iff_exists.mp (hsound.known (Option.isSome_of_eq_some hdue))
    exact ⟨s, hs, fun duration hnow => (view_advance htidy duration).trans (View.wake_eq hdue hs hidle hnow)⟩
  · obtain ⟨q, next, s, rfl, -, -⟩ := hsound.waits x hx
    refine ⟨q, next, rfl, fun o => ?_⟩
    have hafter : ((steps clock events).step clock (.outcome (.str name) o)).view name =
        ((steps clock events).view name).hear clock (steps clock events).now o := view_hear_self htidy o
    rw [hafter]
    exact hsound.hear_cases hx _ o
  · exact (view_hear_self htidy o).trans (hsound.hear_refused hx _ ho)

/-- **A failing channel delays only itself.** Take any two runs that differ in nothing but the outcomes for
one channel, while loops are started, for one channel or for the rows of the store, and stopped, while time
passes, and while outcomes of any kind come in. Each channel has one loop at most, with one refresh at most
that is underway. Starting loops for rows comes to an end, with the number of loops unless a row is not as
it should be, and stopping leaves none. A channel has a loop from when one was started for it until all were
stopped, and the loop goes on after any outcome. For every other channel the two runs are one: the same is
asked at the same times, and the same state is kept. -/
theorem failing_channel_delays_itself (clock : Nat → Moment) (events events' : List Event) (failing : Value)
    (h : sparing failing events = sparing failing events') :
    let r := steps clock events
    r.Tidy ∧
      (∀ rows, ∃ result, r.schedule.starting r.now (some rows) Bot.startRefreshing =
          some (result, (r.step clock (.start rows)).schedule) ∧
        ∀ n, result = .ok n ↔ Readable rows ∧ n = (r.step clock (.start rows)).schedule.loops.length) ∧
      (r.step clock .stop).schedule.loops = [] ∧ (r.step clock .stop).underway = [] ∧
      (∀ name, (r.schedule.isLive (.str name) = true ↔ Started name events) ∧ r.Persists clock name) ∧
      ∀ name, failing ≠ .str name → r.view name = (steps clock events').view name := by
  intro r
  refine ⟨tidy_steps clock events, start_counts clock r, rfl, rfl,
    fun name => ⟨isLive_iff events, persists clock events name⟩, fun name hname => ?_⟩
  rw [(view_spared events hname).2, h, ← (view_spared events' hname).2]

/-- The provider grants a token for an hour, and the store takes it. -/
def granted : Outcome where
  grant := .ok ⟨.str "ok", 3600, .null⟩
  store
    | .updateSpotifyToken .. => .ok .null
    | _ => .error .timeout

/-- The provider grants nothing. -/
def revoked : Outcome := ⟨.error (.provider (.reported .spotify "revoked")), fun _ => .error .timeout⟩

/-- Two channels, of which the first one gets an outcome of its own. -/
def twoChannels (o : Outcome) : List Event :=
  [.startOne (.str "broken") (.str "bad"), .startOne (.str "fine") (.str "good"), .advance 0,
   .outcome (.str "broken") o, .outcome (.str "fine") granted, .outcome (.str "fine") granted]

/-- What comes in for one channel is nothing to the other one, and neither loop ends. -/
theorem failing_channel_delays_itself_broken :
    let clock : Nat → Moment := fun time => ⟨time⟩
    sparing (.str "broken") (twoChannels revoked) = sparing (.str "broken") (twoChannels granted) ∧
      (steps clock (twoChannels revoked)).view "fine" = (steps clock (twoChannels granted)).view "fine" ∧
      (steps clock (twoChannels revoked)).schedule.isLive (.str "broken") = true := by
  intro clock
  have hspared : sparing (.str "broken") (twoChannels revoked) = sparing (.str "broken") (twoChannels granted) := by
    simp [sparing, twoChannels, Event.isFor, Value.same_text]
  have hname : Value.str "broken" ≠ .str "fine" := by decide
  have hstarted : Started "broken" (twoChannels revoked) :=
    ⟨[], _, _, rfl, ⟨.str "bad", List.mem_cons_self⟩, by simp⟩
  obtain ⟨-, -, -, -, hlive, hview⟩ :=
    failing_channel_delays_itself clock (twoChannels revoked) (twoChannels granted) (.str "broken") hspared
  exact ⟨hspared, hview "fine" hname, (hlive "broken").1.mpr hstarted⟩

example :
    let r := steps (fun time => ⟨time⟩) (twoChannels revoked)
    (r.view "broken").due = some (60 * Moment.second) ∧ (r.view "fine").due = some (3540 * Moment.second) :=
  ⟨rfl, rfl⟩

end Run

end ChannelBot.Refresh
