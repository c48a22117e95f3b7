/-
How long a loop waits, and when it asks. After a failure a loop waits, and after a grant it waits for less
than the grant lasts, but not at all if that is no more than the margin (`Course.waits`). So a loop asks for
a grant twice at one time only if it was stopped then, or was given such a short grant (`View.Paced`).
-/
import Mathlib.Data.List.Chain
import ChannelBot.Proofs.Refresh.Independence
import ChannelBot.Proofs.Refresh.Rotation

namespace ChannelBot.Refresh

open Dialogue

/-! ## The wait after a round -/

theorem wait_lt {g : Spotify.Grant} (h : 0 < g.expiresIn) : wait g < g.expiresIn := by
  rw [wait, margin]
  omega

theorem wait_pos_iff {g : Spotify.Grant} : 0 < wait g ↔ margin < g.expiresIn := by
  rw [wait]
  omega

/-- A round that the store took waits as long as its grant says; any other round waits before the next. -/
theorem Course.waits {s s' : State} {turns : List (Turn surroundings)} {result : Except Fault Int}
    (h : Course s turns (s', result)) :
    (isTaken turns = false → delay result = retryDelay) ∧
      (isTaken turns = true → ∃ g, ⟨.grant s.refreshToken, .ok g⟩ ∈ turns ∧ result = .ok (wait g)) := by
  rcases h.ends with ⟨hnone, f, hx, -⟩ | ⟨htaken, -, g, now, expiry, channel, answer, hx, -, -, rfl⟩
  · refine ⟨fun _ => ?_, fun htaken => (by cases htaken.symm.trans hnone)⟩
    rw [← View.delay_afterFault s f, ← hx]
  · cases hx
    exact ⟨fun hnone => (by cases htaken.symm.trans hnone), fun _ => ⟨g, List.mem_cons_self, rfl⟩⟩

/-! ## What leads to a wait -/

/-- What a refresh comes to when the store has answered. -/
def handed (s : State) (channel : String) (g : Spotify.Grant) (expiry : Moment) :
    Answer (.store (update channel g expiry)) → Refreshing
  | .error f => .done (afterFault s f)
  | .ok _ => .done (s.accept g expiry, .ok (wait g))

/-- A refresh that hands a grant to the store. -/
def handing (s : State) (channel : String) (g : Spotify.Grant) (expiry : Moment) : Refreshing :=
  .ask (.store (update channel g expiry)) (handed s channel g expiry)

theorem handing_of {s : State} {channel : String} {g : Spotify.Grant} {expiry : Moment}
    {next : Answer (.store (update channel g expiry)) → Refreshing}
    (herror : ∀ f, next (.error f) = .done (afterFault s f))
    (hok : ∀ a, next (.ok a) = .done (s.accept g expiry, .ok (wait g))) :
    .ask (.store (update channel g expiry)) next = handing s channel g expiry := by
  refine congrArg (Dialogue.ask (I := surroundings) (.store (update channel g expiry))) (funext fun answer => ?_)
  cases answer with
  | error f => exact herror f
  | ok a => exact hok a

theorem byClock_settle (now : Moment) (s : State) (g : Spotify.Grant) :
    byClock now (settle s (.ok g)) =
      match now.addSeconds? g.expiresIn, s.channel.addressPart with
      | none, _ => .done (afterFault s (.shape .dateOverflow))
      | some _, .error f => .done (afterFault s (.shape f))
      | some expiry, .ok channel => handing s channel g expiry := by
  simp only [settle, askTime, Dialogue.query, Dialogue.ask_bind, Dialogue.done_bind, byClock]
  cases now.addSeconds? g.expiresIn with
  | none => rfl
  | some expiry =>
    cases s.channel.addressPart with
    | error f => rfl
    | ok channel => exact handing_of (fun _ => rfl) fun _ => rfl

/-- The times at which a grant was asked for. -/
def View.requests (v : View) : List Nat :=
  v.asked.filterMap fun
    | (time, .grant _) => some time
    | _ => none

/-- Whether the provider had a grant for a channel. -/
def Granted (name : String) (events : List Event) (g : Spotify.Grant) : Prop :=
  ∃ o, .outcome (.str name) o ∈ events ∧ o.grant = .ok g

/-- Whether the store took a grant for a channel at a time. -/
def Taken (clock : Nat → Moment) (name : String) (events : List Event) (time : Nat) (g : Spotify.Grant) : Prop :=
  ∃ before o later, events = before ++ .outcome (.str name) o :: later ∧ (Run.steps clock before).now = time ∧
    ∃ s channel expiry v, ((Run.steps clock before).view name).underway = some (handing s channel g expiry) ∧
      o.store (update channel g expiry) = .ok v

/-- Whether all loops were stopped at a time. -/
def StoppedAt (clock : Nat → Moment) (events : List Event) (time : Nat) : Prop :=
  ∃ before later, events = before ++ .stop :: later ∧ (Run.steps clock before).now = time

/-- Whether a channel may ask again at the time at which it has asked: the loops were stopped then, or the
store took a grant then that lasts no longer than the margin. -/
def Excused (clock : Nat → Moment) (name : String) (events : List Event) (time : Nat) : Prop :=
  StoppedAt clock events time ∨
    ∃ g, Granted name events g ∧ Taken clock name events time g ∧ g.expiresIn ≤ margin

variable {clock : Nat → Moment} {name : String} {events : List Event} {e : Event} {time : Nat} {g : Spotify.Grant}

theorem Granted.snoc (h : Granted name events g) : Granted name (events ++ [e]) g := by
  obtain ⟨o, ho, hgrant⟩ := h
  exact ⟨o, List.mem_append_left _ ho, hgrant⟩

theorem Excused.snoc (h : Excused clock name events time) : Excused clock name (events ++ [e]) time := by
  rcases h with ⟨before, later, rfl, htime⟩ | ⟨g, hgranted, ⟨before, o, later, rfl, htime, htaken⟩, hshort⟩
  · exact .inl ⟨before, later ++ [e], by simp, htime⟩
  · exact .inr ⟨g, hgranted.snoc, ⟨before, o, later ++ [e], by simp, htime, htaken⟩, hshort⟩

/-- Whether a channel may ask at one time after another. -/
def Follows (clock : Nat → Moment) (name : String) (events : List Event) (time later : Nat) : Prop :=
  time < later ∨ (time = later ∧ Excused clock name events time)

theorem Follows.snoc {later : Nat} (h : Follows clock name events time later) :
    Follows clock name (events ++ [e]) time later :=
  h.imp_right fun ⟨heq, hexcused⟩ => ⟨heq, hexcused.snoc⟩

/-! ## What an event does to one channel -/

namespace View

variable {v : View} {now : Nat} {s : State}

@[simp] theorem requests_asking_grant (v : View) (time : Nat) (token : Value)
    (next : Answer (.grant token) → Refreshing) : (v.asking time (.grant token) next).requests = v.requests ++ [time] := by
  simp [requests, asking]

@[simp] theorem requests_asking_store (v : View) (time : Nat) (q : StoreQuery)
    (next : Answer (.store q) → Refreshing) : (v.asking time (.store q) next).requests = v.requests := by
  simp [requests, asking]

theorem startAll_cases (v : View) (now : Nat) (name : String) (pairs : List (Value × Value)) :
    v.startAll now name pairs = v ∨
      (v.due = none ∧ ∃ s, v.startAll now name pairs = { v with state := some s, due := some now }) := by
  induction pairs generalizing v with
  | nil => exact .inl rfl
  | cons p rest ih =>
    have hrest : v.startAll now name (p :: rest) =
        (if p.1 = .str name then v.start now name p.2 else v).startAll now name rest := rfl
    rw [hrest]
    split
    · cases hdue : v.due with
      | some due =>
        rw [start, if_pos (Option.isSome_of_eq_some hdue), ← hdue]
        exact ih v
      | none =>
        have hstart : v.start now name p.2 =
            { v with state := some { channel := .str name, refreshToken := p.2 }, due := some now } := by
          rw [start, if_neg (by simp [hdue])]
        rw [hstart]
        rcases ih { v with state := some { channel := .str name, refreshToken := p.2 }, due := some now } with
          heq | ⟨hnone, -⟩
        · exact .inr ⟨rfl, _, heq⟩
        · cases hnone
    · exact ih v

theorem Sound.wake_cases (h : v.Sound name) (clock : Nat → Moment) (now : Nat) :
    v.wake clock now = v ∨
      ∃ due s, v.due = some due ∧ v.state = some s ∧ due ≤ now ∧ v.underway = none ∧
        v.wake clock now = v.asking due (.grant s.refreshToken) (settle s) := by
  cases hdue : v.due with
  | none => exact .inl (by rw [View.wake, hdue])
  | some due =>
    obtain ⟨s, hs⟩ := Option.isSome_iff_exists.mp (h.known (Option.isSome_of_eq_some hdue))
    by_cases hwakes : due ≤ now ∧ v.underway = none
    · exact .inr ⟨due, s, rfl, hs, hwakes.1, hwakes.2, wake_eq hdue hs hwakes.2 hwakes.1⟩
    · refine .inl ?_
      rw [View.wake, hdue, hs]
      exact if_neg hwakes

/-- What an outcome does to a channel that waits for a grant. -/
theorem hear_asking (hs : v.state = some s)
    (hunderway : v.underway = some (.ask (.grant s.refreshToken) (settle s))) (clock : Nat → Moment) (now : Nat)
    (o : Outcome) :
    (∃ channel g expiry, o.grant = .ok g ∧
        v.hear clock now o = v.asking now (.store (update channel g expiry)) (handed s channel g expiry)) ∨
      v.hear clock now o = v.retrying now := by
  rw [hear_eq hunderway, Outcome.answer]
  cases hgrant : o.grant with
  | error f => exact .inr (goOn_failed hs rfl)
  | ok g =>
    have hsettle := byClock_settle (clock now) s g
    split at hsettle
    · exact .inr (goOn_failed hs hsettle)
    · exact .inr (goOn_failed hs hsettle)
    next expiry channel _ _ =>
      refine .inl ⟨channel, g, expiry, rfl, ?_⟩
      rw [View.goOn, hsettle]
      rfl

/-- What an outcome does to a channel that waits for the store to take a grant. -/
theorem hear_handing {channel : String} {expiry : Moment} (hs : v.state = some s)
    (hunderway : v.underway = some (handing s channel g expiry)) (clock : Nat → Moment) (now : Nat) (o : Outcome) :
    v.hear clock now o = v.retrying now ∨
      ∃ a, o.store (update channel g expiry) = .ok a ∧ v.hear clock now o = v.holding now s g expiry := by
  rw [hear_eq hunderway, Outcome.answer]
  cases hstore : o.store (update channel g expiry) with
  | error f => exact .inl (goOn_failed hs rfl)
  | ok a => exact .inr ⟨a, rfl, rfl⟩

/-- The refresh that is underway waits for a grant, or for the store to take a grant that the provider had. -/
def Carries (v : View) (name : String) (events : List Event) : Prop :=
  ∀ x ∈ v.underway, ∃ s, v.state = some s ∧
    (x = .ask (.grant s.refreshToken) (settle s) ∨
      ∃ channel g expiry, x = handing s channel g expiry ∧ Granted name events g)

theorem Carries.snoc (h : v.Carries name events) (e : Event) : v.Carries name (events ++ [e]) := by
  intro x hx
  obtain ⟨s, hs, hasking | ⟨channel, g, expiry, hhanding, hgranted⟩⟩ := h x hx
  · exact ⟨s, hs, .inl hasking⟩
  · exact ⟨s, hs, .inr ⟨channel, g, expiry, hhanding, hgranted.snoc⟩⟩

theorem carries_idle (h : v.underway = none) : v.Carries name events := by
  intro x hx
  cases h.symm.trans hx

theorem Carries.startAll (h : v.Carries name events) (hsound : v.Sound name) (now : Nat) (pairs : List (Value × Value)) :
    (v.startAll now name pairs).Carries name events := by
  rcases v.startAll_cases now name pairs with heq | ⟨hdue, s, heq⟩
  · rw [heq]
    exact h
  · rw [heq]
    refine carries_idle ?_
    cases hunderway : v.underway with
    | none => rfl
    | some x => exact absurd (hsound.owned x hunderway) (by simp [hdue])

theorem Carries.wake (h : v.Carries name events) (hsound : v.Sound name) (now : Nat) :
    (v.wake clock now).Carries name events := by
  rcases hsound.wake_cases clock now with heq | ⟨due, s, -, hs, -, -, heq⟩
  · rw [heq]
    exact h
  · rw [heq]
    intro x hx
    exact ⟨s, hs, .inl (Option.mem_some_iff.mp hx).symm⟩

theorem Carries.hear (h : v.Carries name events) (now : Nat) (o : Outcome) :
    (v.hear clock now o).Carries name (events ++ [.outcome (.str name) o]) := by
  cases hunderway : v.underway with
  | none =>
    rw [View.hear, hunderway]
    exact h.snoc _
  | some x =>
    obtain ⟨s, hs, rfl | ⟨channel, g, expiry, rfl, -⟩⟩ := h x hunderway
    · rcases hear_asking hs hunderway clock now o with ⟨channel, g, expiry, hgrant, heq⟩ | heq
      · rw [heq]
        intro x hx
        refine ⟨s, hs, .inr ⟨channel, g, expiry, (Option.mem_some_iff.mp hx).symm, o, ?_, hgrant⟩⟩
        exact List.mem_append_right _ List.mem_cons_self
      · rw [heq]
        exact carries_idle rfl
    · rcases hear_handing hs hunderway clock now o with heq | ⟨a, -, heq⟩ <;>
      · rw [heq]
        exact carries_idle rfl

/-- What a channel has asked and when it goes on, after events: requests follow one another, and the next
one follows the last, unless the channel has no loop since all were stopped. -/
structure Paced (v : View) (clock : Nat → Moment) (name : String) (events : List Event) (now : Nat) : Prop where
  apart : v.requests.IsChain (Follows clock name events)
  past : ∀ time ∈ v.requests.getLast?, time ≤ now
  next : ∀ time ∈ v.requests.getLast?, ∀ due ∈ v.due, v.underway = none → Follows clock name events time due
  stopped : v.due = none → ∀ time ∈ v.requests.getLast?, ∃ stop, StoppedAt clock events stop ∧ time ≤ stop ∧ stop ≤ now

theorem paced_empty (clock : Nat → Moment) (name : String) : Paced {} clock name [] 0 :=
  ⟨.nil, nofun, nofun, nofun⟩

theorem Paced.snoc (h : v.Paced clock name events now) (e : Event) {now' : Nat} (hnow : now ≤ now') :
    v.Paced clock name (events ++ [e]) now' where
  apart := h.apart.imp fun _ _ => .snoc
  past time htime := (h.past time htime).trans hnow
  next time htime due hdue hidle := (h.next time htime due hdue hidle).snoc
  stopped hdue time htime := by
    obtain ⟨stop, ⟨before, later, rfl, hstop⟩, hle, hge⟩ := h.stopped hdue time htime
    exact ⟨stop, ⟨before, later ++ [e], by simp, hstop⟩, hle, hge.trans hnow⟩

theorem Paced.startAll (h : v.Paced clock name events now) (pairs : List (Value × Value)) :
    (v.startAll now name pairs).Paced clock name events now := by
  rcases v.startAll_cases now name pairs with heq | ⟨hdue, s, heq⟩
  · rw [heq]
    exact h
  · rw [heq]
    refine ⟨h.apart, h.past, fun time htime due hstart _ => ?_, nofun⟩
    obtain ⟨stop, hstopped, hle, hge⟩ := h.stopped hdue time htime
    obtain rfl := Option.mem_some_iff.mp hstart
    -- The last request may have been made at this time only if the loops were stopped at this time.
    rcases Nat.lt_or_ge time now with hlt | hsame
    · exact .inl hlt
    · obtain rfl : stop = time := by omega
      exact .inr ⟨by omega, .inl hstopped⟩

theorem Paced.wake (h : v.Paced clock name events now) (hsound : v.Sound name) :
    (v.wake clock now).Paced clock name events now := by
  rcases hsound.wake_cases clock now with heq | ⟨due, s, hdue, -, hnow, hidle, heq⟩
  · rw [heq]
    exact h
  · rw [heq]
    refine ⟨?_, ?_, fun _ _ _ _ hbusy => (by cases hbusy), fun hnone => ?_⟩
    · rw [requests_asking_grant]
      refine h.apart.append (.singleton _) fun time htime later hlater => ?_
      obtain rfl := Option.mem_some_iff.mp hlater
      exact h.next time htime due hdue hidle
    · rw [requests_asking_grant, List.getLast?_concat]
      intro time htime
      obtain rfl := Option.mem_some_iff.mp htime
      exact hnow
    · cases hdue.symm.trans hnone

theorem waitMicros_pos {seconds : Int} (h : 0 < seconds) : 0 < Schedule.waitMicros seconds := by
  rw [Schedule.waitMicros, Moment.second]
  omega

/-- A channel that waits after the end of a refresh goes on later, unless the grant was short. -/
theorem Paced.ended (h : v.Paced clock name events now) {later : View} {seconds : Int}
    (hdue : later.due = some (now + Schedule.waitMicros seconds)) (hrequests : later.requests = v.requests)
    (hwait : 0 < seconds ∨ Excused clock name events now) : later.Paced clock name events now := by
  refine ⟨hrequests ▸ h.apart, hrequests ▸ h.past, fun time htime due hnext _ => ?_, fun hnone => ?_⟩
  · have hpast := h.past time (hrequests ▸ htime)
    obtain rfl := Option.some.inj (hdue.symm.trans hnext)
    rcases hwait with hpos | hexcused
    · have hmicros := waitMicros_pos hpos
      exact .inl (by omega)
    · rcases Nat.lt_or_ge time (now + Schedule.waitMicros seconds) with hlt | hsame
      · exact .inl hlt
      · obtain rfl : now = time := by omega
        exact .inr ⟨by omega, hexcused⟩
  · cases hdue.symm.trans hnone

end View

namespace Run

theorem carries_steps (clock : Nat → Moment) (events : List Event) (name : String) :
    ((steps clock events).view name).Carries name events := by
  induction events using List.reverseRecOn with
  | nil => exact View.carries_idle rfl
  | append_singleton events e ih =>
    have hsound := (sound_view clock events name).1
    rw [steps_snoc, view_step (tidy_steps clock events)]
    cases e with
    | start rows => exact (ih.snoc _).startAll hsound _ _
    | startOne channel token => exact (ih.snoc _).startAll hsound _ _
    | stop => exact View.carries_idle rfl
    | advance duration => exact (ih.snoc _).wake hsound _
    | outcome channel o =>
      rw [View.step]
      split
      next hchannel =>
        subst hchannel
        exact ih.hear _ o
      · exact ih.snoc _

/-- What an outcome that a channel waits for does to when it asks. -/
theorem paced_hear (o : Outcome)
    (h : ((steps clock events).view name).Paced clock name events (steps clock events).now) :
    (((steps clock events).view name).hear clock (steps clock events).now o).Paced clock name
      (events ++ [.outcome (.str name) o]) (steps clock events).now := by
  have hlater := h.snoc (.outcome (.str name) o) (Nat.le_refl _)
  cases hunderway : ((steps clock events).view name).underway with
  | none =>
    rw [View.hear, hunderway]
    exact hlater
  | some x =>
    obtain ⟨s, hs, rfl | ⟨channel, g, expiry, rfl, hgranted⟩⟩ := carries_steps clock events name x hunderway
    · rcases View.hear_asking hs hunderway clock (steps clock events).now o with ⟨channel, g, expiry, -, heq⟩ | heq
      · rw [heq]
        have hrequests := View.requests_asking_store ((steps clock events).view name) (steps clock events).now
          (update channel g expiry) (handed s channel g expiry)
        exact ⟨hrequests ▸ hlater.apart, hrequests ▸ hlater.past, fun _ _ _ _ hbusy => (by cases hbusy),
          hrequests ▸ hlater.stopped⟩
      · rw [heq]
        exact hlater.ended rfl rfl (.inl (by decide))
    · rcases View.hear_handing hs hunderway clock (steps clock events).now o with heq | ⟨a, hstore, heq⟩
      · rw [heq]
        exact hlater.ended rfl rfl (.inl (by decide))
      · rw [heq]
        refine hlater.ended rfl rfl ?_
        by_cases hlong : margin < g.expiresIn
        · exact .inl (wait_pos_iff.mpr hlong)
        · have htaken : Taken clock name (events ++ [.outcome (.str name) o]) (steps clock events).now g :=
            ⟨events, o, [], rfl, rfl, s, channel, expiry, a, hunderway, hstore⟩
          exact .inr (.inr ⟨g, hgranted.snoc, htaken, Int.not_lt.mp hlong⟩)

/-- The requests of a channel follow one another in every run. -/
theorem paced_steps (clock : Nat → Moment) (events : List Event) (name : String) :
    ((steps clock events).view name).Paced clock name events (steps clock events).now := by
  induction events using List.reverseRecOn with
  | nil => exact View.paced_empty clock name
  | append_singleton events e ih =>
    have hsound := (sound_view clock events name).1
    have hlater := ih.snoc e (Nat.le_add_right _ e.lasts)
    rw [steps_snoc, step_now, view_step (tidy_steps clock events)]
    cases e with
    | start rows => exact hlater.startAll _
    | startOne channel token => exact hlater.startAll _
    | stop =>
      refine ⟨hlater.apart, hlater.past, fun _ _ _ hnone => (nomatch hnone), fun _ time htime => ?_⟩
      exact ⟨_, ⟨events, [], rfl, rfl⟩, hlater.past time htime, Nat.le_refl _⟩
    | advance duration => exact hlater.wake hsound
    | outcome channel o =>
      rw [View.step]
      split
      next hchannel =>
        subst hchannel
        exact paced_hear o ih
      · exact hlater

/-- **A loop asks again at once only after a grant that is all margin.** A round that the store took waits
for a time that is less than the grant lasts, if that is any time at all, and that is none exactly if the
grant lasts no longer than the margin; every other round, whatever went wrong, waits before the next. So in
every run a channel asks for a grant at one time after another, unless all loops were stopped at the time of
its request, or the store took at that time a grant that lasts no longer than the margin. In a run without
either it never asks twice at one time. -/
theorem asks_again_later (clock : Nat → Moment) (events : List Event) (name : String) :
    (∀ s turns s' result, Runs (once s) turns (s', result) →
      (isTaken turns = false → 0 < delay result) ∧
        (isTaken turns = true → ∃ g : Spotify.Grant, ⟨.grant s.refreshToken, .ok g⟩ ∈ turns ∧ 0 ≤ delay result ∧
          (0 < g.expiresIn → delay result < g.expiresIn) ∧ (0 < delay result ↔ margin < g.expiresIn))) ∧
      ((steps clock events).view name).requests.IsChain (fun time later =>
        time < later ∨ (time = later ∧ (StoppedAt clock events time ∨
          ∃ g, Granted name events g ∧ Taken clock name events time g ∧ g.expiresIn ≤ margin))) ∧
      ((∀ g, Granted name events g → margin < g.expiresIn) → .stop ∉ events →
        ((steps clock events).view name).requests.Pairwise (· < ·)) := by
  have hpaced := (paced_steps clock events name).apart
  refine ⟨fun s turns s' result hruns => ?_, hpaced, fun hlong hstop => ?_⟩
  · obtain ⟨hfailed, htaken⟩ := (runs_once.mp hruns).waits
    refine ⟨fun h => ?_, fun h => ?_⟩
    · rw [hfailed h]
      decide
    · obtain ⟨g, hgrant, rfl⟩ := htaken h
      exact ⟨g, hgrant, le_max_right _ _, wait_lt, wait_pos_iff⟩
  · refine List.isChain_iff_pairwise.mp (hpaced.imp fun time later hfollows => ?_)
    rcases hfollows with hlt | ⟨-, ⟨before, later', rfl, -⟩ | ⟨g, hgranted, -, hshort⟩⟩
    · exact hlt
    · exact absurd (List.mem_append_right _ List.mem_cons_self) hstop
    · exact absurd (hlong g hgranted) (Int.not_lt.mpr hshort)

/-- Grants for an hour are asked for one minute before the end of the last. -/
theorem asks_again_later_hourly :
    let clock : Nat → Moment := fun time => ⟨time⟩
    let o := Event.outcome (.str "chan") granted
    let requests := ((steps clock [.startOne (.str "chan") (.str "r"), .advance 0, o, o,
      .advance (3540 * Moment.second)]).view "chan").requests
    requests = [0, 3540 * Moment.second] ∧ requests.Pairwise (· < ·) := by
  intro clock o requests
  refine ⟨by decide +kernel, (asks_again_later clock _ "chan").2.2 (fun g hgranted => ?_) (by simp [o])⟩
  obtain ⟨o', ho', hgrant⟩ := hgranted
  have ho : o' = granted := by simpa [o] using ho'
  subst ho
  obtain rfl := Except.ok.inj hgrant
  decide

/-- The provider grants a token for two seconds, and the store takes it. -/
def grantedBriefly : Outcome where
  grant := .ok ⟨.str "a", 2, .null⟩
  store
    | .updateSpotifyToken .. => .ok .null
    | _ => .error .timeout

/-- A grant for two seconds leaves no wait, and the loop asks for the next one at the very same time. -/
theorem brief_grant_is_asked_again_at_once :
    let s : State := { channel := .str "chan", refreshToken := .str "r" }
    let clock : Nat → Moment := fun time => ⟨time⟩
    let o := Event.outcome (.str "chan") grantedBriefly
    (∃ turns s', Runs (once s) turns (s', .ok 0) ∧ isTaken turns = true ∧
        ⟨.grant (.str "r"), .ok ⟨.str "a", 2, .null⟩⟩ ∈ turns) ∧
      ((steps clock [.startOne (.str "chan") (.str "r"), .advance 0, o, o, .advance 0]).view "chan").requests =
        [0, 0] := by
  intro s clock o
  have hexpiry : (⟨0⟩ : Moment).addSeconds? 2 = some ⟨2 * Moment.second⟩ := by decide
  have hchannel : s.channel.addressPart = .ok "chan" := rfl
  have hruns := runs_once.mpr (.stored ⟨.str "a", 2, .null⟩ ⟨0⟩ Value.null hexpiry hchannel)
  exact ⟨⟨_, _, hruns, rfl, List.mem_cons_self⟩, by decide +kernel⟩

end Run

end ChannelBot.Refresh
