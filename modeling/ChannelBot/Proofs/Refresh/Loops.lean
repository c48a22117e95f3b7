/-
Runs of the refresh loops of all channels. Loops are started for the rows of the store or for one
channel, all of them are stopped, time passes, and what the provider and the store answer comes in, in any
order; a refresh is underway while it waits for such an answer. Starting loops comes to what the rows say
(`starting_rows`), and at all times a channel has one loop at most, with one refresh underway at most
(`Run.Tidy`).
-/
import Mathlib.Data.List.Induction
import ChannelBot.Bot.Lifecycle
import ChannelBot.Proofs.Refresh.Rounds
import ChannelBot.Refresh.Schedule

namespace ChannelBot.Refresh

/-! ## Runs -/

/-- A refresh on its way. -/
abbrev Refreshing : Type := Dialogue surroundings (State × Except Fault Int)

/-- What comes of that for which a refresh waits: what the provider says, or what the store says. -/
structure Outcome where
  grant : Except Fault Spotify.Grant
  store : (q : StoreQuery) → storeAnswer q

/-- The answer to a question; the time is not for anyone to choose. -/
def Outcome.answer (o : Outcome) (now : Moment) : (q : Query) → Answer q
  | .grant _ => o.grant
  | .now => now
  | .store q => o.store q

/-- A refresh up to where it waits for someone: it reads the clock by itself. -/
def byClock (now : Moment) : Refreshing → Refreshing
  | .ask .now next => byClock now (next now)
  | x => x

/-- What happens to the loops. -/
inductive Event where
  /-- Loops are started for the rows of the store, or for the fault in their place. -/
  | start (rows : Except Fault Value)
  | startOne (channel refreshToken : Value)
  | stop
  | outcome (channel : Value) (o : Outcome)
  | advance (duration : Nat)

/-- Answers what starting loops asks. The rows are there only if they were asked for. -/
def answering (now : Nat) (rows : Option (Except Fault Value)) :
    (q : Bot.Query) → StateT Schedule Option (Bot.Answer q)
  | .store .refreshTokens => fun s => rows.map fun answer => (answer, s)
  | .startRefreshing channel token => fun s => some ((), s.start now channel token)
  | .countRefreshing => fun s => some (s.loops.length, s)
  | _ => fun _ => none

/-- What a program that starts loops comes to, with the schedule after it; none if it asks for
anything else. -/
def Schedule.starting {α : Type} (s : Schedule) (now : Nat) (rows : Option (Except Fault Value))
    (p : Bot.Program α) : Option (Except Fault α × Schedule) :=
  p.outcome.run (answering now rows) s

/-- The state of a run. -/
structure Run where
  now : Nat := 0
  schedule : Schedule := {}
  /-- The refreshes that are underway, with their channels. -/
  underway : List (Value × Refreshing) := []
  /-- What was asked: when, for which channel, and what. -/
  asked : List (Nat × Value × Query) := []

namespace Run

/-- The refresh of a channel that is underway. -/
def underway? (r : Run) (channel : Value) : Option (Value × Refreshing) :=
  r.underway.find? (·.1.same channel)

/-- A refresh goes on at a time, until it is over or waits. -/
def goOn (clock : Nat → Moment) (r : Run) (time : Nat) (channel : Value) (x : Refreshing) : Run :=
  let others := r.underway.filter (!·.1.same channel)
  match byClock (clock time) x with
  | .done after => { r with schedule := r.schedule.settle time ⟨channel, time⟩ after, underway := others }
  | .ask q next =>
    { r with underway := others ++ [(channel, .ask q next)], asked := r.asked ++ [(time, channel, q)] }

/-- A loop begins a refresh, if it is due and does not wait for the end of one. -/
def wake (clock : Nat → Moment) (r : Run) (l : Loop) : Run :=
  if l.due ≤ r.now ∧ r.underway? l.channel = none then
    match r.schedule.state? l.channel with
    | some s => r.goOn clock l.due l.channel (once s)
    | none => r
  else r

/-- An outcome comes in, and the refresh that waits for it goes on. -/
def hear (clock : Nat → Moment) (r : Run) (channel : Value) (o : Outcome) : Run :=
  match r.underway? channel with
  | some (key, .ask q next) => r.goOn clock r.now key (next (o.answer (clock r.now) q))
  | _ => r

/-- The schedule after a program that starts loops. -/
def started {α : Type} (r : Run) (x : Option (Except Fault α × Schedule)) : Run :=
  { r with schedule := (x.map (·.2)).getD r.schedule }

/-- What an event does. When time has passed, every loop that has become due goes on. -/
def step (clock : Nat → Moment) (r : Run) : Event → Run
  | .start rows => r.started (r.schedule.starting r.now (some rows) Bot.startRefreshing)
  | .startOne channel token => r.started (r.schedule.starting r.now none (Bot.startRefreshingFor channel token))
  | .stop => { r with schedule := r.schedule.stop, underway := [] }
  | .outcome channel o => r.hear clock channel o
  | .advance duration =>
    let r := { r with now := r.now + duration }
    r.schedule.loops.foldl (wake clock) r

/-- A run of events. -/
def steps (clock : Nat → Moment) (events : List Event) : Run := events.foldl (step clock) {}

theorem steps_snoc (clock : Nat → Moment) (events : List Event) (e : Event) :
    steps clock (events ++ [e]) = (steps clock events).step clock e := by
  rw [steps, List.foldl_append]
  rfl

end Run

/-! ## Starting loops -/

/-- Whether a loop can be started for a channel, which must be fit for a key. -/
def startable (channel : Value) : Except Fault Unit :=
  match channel with
  | .list _ | .obj _ => .error (.shape (.notKey channel.shape))
  | _ => .ok ()

/-- The channel that a row of the store starts a loop for, with its refresh token; none if one of them
is missing. -/
def wanted? (row : Value) : Except Fault (Option (Value × Value)) :=
  match row.get "channel", row.get "refresh_token" with
  | .error f, _ | .ok _, .error f => .error (.shape f)
  | .ok channel, .ok token =>
    if channel.holds && token.holds then (startable channel).map fun _ => some (channel, token) else .ok none

/-- What rows start, up to the first one that is not as it should be, and what comes of that one. -/
def plan : List Value → List (Value × Value) × Except Fault Unit
  | [] => ([], .ok ())
  | row :: rest =>
    match wanted? row with
    | .error f => ([], .error f)
    | .ok pair => (pair.toList ++ (plan rest).1, (plan rest).2)

/-- What an answer of the store starts. -/
def planned (rows : Except Fault Value) : List (Value × Value) × Except Fault Unit :=
  match rows with
  | .error f => ([], .error f)
  | .ok v => match v.elements with
    | .error f => ([], .error (.shape f))
    | .ok items => plan items

/-- Starts loops for channels with their tokens. -/
def Schedule.startAll (s : Schedule) (now : Nat) (pairs : List (Value × Value)) : Schedule :=
  pairs.foldl (fun s p => s.start now p.1 p.2) s

/-- Rows of which each says which channel it is for, and with which token, if any. -/
def Readable (rows : Except Fault Value) : Prop :=
  ∃ v items, rows = .ok v ∧ v.elements = .ok items ∧ ∀ row ∈ items, ∃ pair, wanted? row = .ok pair

theorem plan_eq_ok_iff {items : List Value} :
    (plan items).2 = .ok () ↔ ∀ row ∈ items, ∃ pair, wanted? row = .ok pair := by
  induction items with
  | nil => simp [plan]
  | cons row rest ih =>
    rw [List.forall_mem_cons, ← ih, plan]
    cases wanted? row with
    | error f => simp
    | ok pair => simp

theorem planned_eq_ok_iff {rows : Except Fault Value} : (planned rows).2 = .ok () ↔ Readable rows := by
  cases rows with
  | error f => simp [planned, Readable]
  | ok v =>
    cases hitems : v.elements with
    | error f => simp [planned, Readable, hitems]
    | ok items => simp [planned, Readable, hitems, plan_eq_ok_iff]

section Starting

variable {α β : Type} {s s' : Schedule} {now : Nat} {rows : Option (Except Fault Value)}

theorem run_bind {I : Interface} {m : Type → Type} [Monad m] [LawfulMonad m] (h : (q : I.Query) → m (I.Answer q))
    (x : Dialogue I α) (f : α → Dialogue I β) :
    (Dialogue.bind x f).run h = x.run h >>= fun a => (f a).run h := by
  induction x with
  | done a => simp [Dialogue.run]
  | ask q next ih => simp [Dialogue.run, ih]

theorem Schedule.starting_bind {p : Bot.Program α} {f : α → Bot.Program β} {x : Except Fault α} :
    s.starting now rows p = some (x, s') →
      s.starting now rows (p >>= f) =
        match x with
        | .ok a => s'.starting now rows (f a)
        | .error e => some (.error e, s') := by
  intro h
  rw [starting, Attempt.outcome_bind, run_bind]
  refine (congrArg (Option.bind · _) h).trans ?_
  cases x <;> rfl

theorem Schedule.starting_ofExcept (x : Except Fault α) :
    s.starting now rows (Attempt.ofExcept x) = some (x, s) := by
  cases x <;> rfl

/-- A loop is started for any channel that is fit for a key. -/
theorem Schedule.starting_for (channel token : Value) :
    s.starting now rows (Bot.startRefreshingFor channel token) =
      some (startable channel, if (startable channel).isOk then s.start now channel token else s) := by
  cases channel <;> rfl

theorem Schedule.starting_rest (items : List Value) :
    s.starting now rows (Bot.refreshRows items) = some ((plan items).2, s.startAll now (plan items).1) := by
  induction items generalizing s with
  | nil => rfl
  | cons row rest ih =>
    rw [Bot.refreshRows, starting_bind (starting_ofExcept _), plan, wanted?]
    cases row.get "channel" with
    | error f => rfl
    | ok channel =>
      refine (starting_bind (starting_ofExcept _)).trans ?_
      cases row.get "refresh_token" with
      | error f => rfl
      | ok token =>
        dsimp only [Except.mapError]
        split
        · rw [starting_bind (starting_for channel token)]
          cases startable channel with
          | error f => rfl
          | ok _ => exact ih
        · exact ih

/-- **What starting comes to.** All that the rows say is started, up to the first row that is not as it
should be; without one, the result is how many loops there are then. -/
theorem Schedule.starting_rows (answer : Except Fault Value) :
    s.starting now (some answer) Bot.startRefreshing =
      some ((planned answer).2.map fun _ => (s.startAll now (planned answer).1).loops.length,
        s.startAll now (planned answer).1) := by
  have hrows : s.starting now (some answer) (Bot.askStore .refreshTokens) = some (answer, s) := rfl
  refine (starting_bind hrows).trans ?_
  cases answer with
  | error f => rfl
  | ok v =>
    refine (starting_bind (starting_ofExcept _)).trans ?_
    rw [planned]
    cases v.elements with
    | error f => rfl
    | ok items =>
      refine (starting_bind (starting_rest items)).trans ?_
      dsimp only
      cases (plan items).2 <;> rfl

end Starting

/-- The channels for which an event starts loops, with their tokens. -/
def Event.starts : Event → List (Value × Value)
  | .start rows => (planned rows).1
  | .startOne channel token => if (startable channel).isOk then [(channel, token)] else []
  | _ => []

theorem Run.step_start (clock : Nat → Moment) (r : Run) (rows : Except Fault Value) :
    r.step clock (.start rows) =
      { r with schedule := r.schedule.startAll r.now (Event.start rows).starts } := by
  rw [step, Schedule.starting_rows]
  rfl

/-- Starting loops for rows comes to an end: with the number of loops that there are then, if every row is
as it should be, else with a fault. -/
theorem Run.start_counts (clock : Nat → Moment) (r : Run) (rows : Except Fault Value) :
    ∃ result, r.schedule.starting r.now (some rows) Bot.startRefreshing =
        some (result, (r.step clock (.start rows)).schedule) ∧
      ∀ n, result = .ok n ↔ Readable rows ∧ n = (r.step clock (.start rows)).schedule.loops.length := by
  rw [step_start]
  refine ⟨_, Schedule.starting_rows rows, fun n => ?_⟩
  rw [← planned_eq_ok_iff, Event.starts]
  cases (planned rows).2 with
  | error f => simp [Except.map]
  | ok _ => simp [Except.map, eq_comm]

theorem Run.step_startOne (clock : Nat → Moment) (r : Run) (channel token : Value) :
    r.step clock (.startOne channel token) =
      { r with schedule := r.schedule.startAll r.now (Event.startOne channel token).starts } := by
  rw [step, Schedule.starting_for, Event.starts]
  cases startable channel <;> rfl

/-! ## A refresh on its way -/

/-- Where a refresh stands that has read the clock: it waits for a grant, or for the store to take the
grant, or it has failed, or the store has taken the grant. -/
inductive Stands (s : State) : Refreshing → Prop
  | asking : Stands s (.ask (.grant s.refreshToken) (settle s))
  | handing (g : Spotify.Grant) (expiry : Moment) (channel : String) :
    Stands s (.ask (.store (update channel g expiry)) fun
      | .error f => .done (afterFault s f)
      | .ok _ => .done (s.accept g expiry, .ok (wait g)))
  | failed (f : Fault) : Stands s (.done (afterFault s f))
  | taken (g : Spotify.Grant) (expiry : Moment) : Stands s (.done (s.accept g expiry, .ok (wait g)))

section Stands

variable {s : State} {q : Query} {next : Answer q → Refreshing} {after : State × Except Fault Int}

/-- A refresh begins with the question for a grant. -/
theorem byClock_once (now : Moment) (s : State) :
    byClock now (once s) = .ask (.grant s.refreshToken) (settle s) := by
  rw [once_eq]
  rfl

/-- Where a refresh stands after the answer to a question. Only the answer to the question for a grant
leads to another question, which is for the store. -/
structure Proceeds (s : State) (q : Query) (x : Refreshing) : Prop where
  stands : Stands s x
  asks : ∀ q' next, x = .ask q' next →
    q = .grant s.refreshToken ∧ ∃ channel g expiry, q' = .store (update channel g expiry)

theorem Proceeds.of_done (h : Stands s (.done after)) : Proceeds s q (.done after) := by
  refine ⟨h, fun q' next hnext => ?_⟩
  cases hnext

theorem Stands.answered (h : Stands s (.ask q next)) (now : Moment) (o : Outcome) :
    Proceeds s q (byClock now (next (o.answer now q))) := by
  cases h with
  | asking =>
    suffices hgrant : ∀ grant, Proceeds s (.grant s.refreshToken) (byClock now (settle s grant)) from hgrant o.grant
    intro grant
    cases grant with
    | error f => exact .of_done (.failed f)
    | ok g =>
      simp only [settle, askTime, Dialogue.query, Dialogue.ask_bind, Dialogue.done_bind, byClock]
      split
      · exact .of_done (.failed _)
      · exact .of_done (.failed _)
      · refine ⟨.handing .., fun q' next' hon => ?_⟩
        cases hon
        exact ⟨rfl, _, _, _, rfl⟩
  | handing g expiry channel =>
    rw [Outcome.answer]
    cases o.store (update channel g expiry) with
    | error f => exact .of_done (.failed f)
    | ok _ => exact .of_done (.taken g expiry)

/-- Whether an outcome answers a question with a fault. -/
def Outcome.Refuses (o : Outcome) : Query → Prop
  | .grant _ => ∃ f, o.grant = .error f
  | .now => False
  | .store q => ∃ f, o.store q = .error f

theorem Stands.refused (h : Stands s (.ask q next)) (now : Moment) {o : Outcome} (ho : o.Refuses q) :
    ∃ f, byClock now (next (o.answer now q)) = .done (afterFault s f) := by
  cases h with
  | asking =>
    obtain ⟨f, hf⟩ := ho
    exact ⟨f, congrArg (fun grant => byClock now (settle s grant)) hf⟩
  | handing g expiry channel =>
    obtain ⟨f, hf⟩ := ho
    refine ⟨f, ?_⟩
    rw [Outcome.answer, hf]
    rfl

theorem Stands.channel_eq (h : Stands s (.done after)) : after.1.channel = s.channel := by
  cases h <;> rfl

end Stands

/-! ## One loop for each channel -/

namespace Schedule

variable {s : Schedule} {now : Nat} {channel token : Value}

/-- No two loops are of one channel. -/
def Apart (s : Schedule) : Prop := s.loops.Pairwise fun l l' => l.channel.same l'.channel = false

theorem start_cases (s : Schedule) (now : Nat) (channel token : Value) :
    (s.isLive channel = true ∧ s.start now channel token = s) ∨
      (s.isLive channel = false ∧ s.start now channel token =
        { s.putState { channel := channel, refreshToken := token } with
          loops := s.loops ++ [⟨channel, now⟩] }) := by
  unfold start
  cases s.isLive channel with
  | true => exact .inl ⟨rfl, rfl⟩
  | false => exact .inr ⟨rfl, rfl⟩

theorem Apart.start (h : s.Apart) : (s.start now channel token).Apart := by
  rcases s.start_cases now channel token with ⟨-, heq⟩ | ⟨hlive, heq⟩
  · rw [heq]
    exact h
  · rw [heq]
    refine List.pairwise_append.mpr ⟨h, List.pairwise_singleton _ _, fun l hl l' hl' => ?_⟩
    cases List.mem_singleton.mp hl'
    exact Bool.eq_false_iff.mpr (List.any_eq_false.mp hlive l hl)

theorem loops_start (s : Schedule) (now : Nat) (channel token : Value) :
    s.loops ⊆ (s.start now channel token).loops := by
  rcases s.start_cases now channel token with ⟨-, heq⟩ | ⟨-, heq⟩ <;> rw [heq]
  · exact List.Subset.refl _
  · exact List.subset_append_left _ _

theorem Apart.startAll (h : s.Apart) (pairs : List (Value × Value)) : (s.startAll now pairs).Apart := by
  induction pairs generalizing s with
  | nil => exact h
  | cons p rest ih => exact ih h.start

theorem loops_startAll (s : Schedule) (now : Nat) (pairs : List (Value × Value)) :
    s.loops ⊆ (s.startAll now pairs).loops := by
  induction pairs generalizing s with
  | nil => exact List.Subset.refl _
  | cons p rest ih => exact List.Subset.trans (s.loops_start now p.1 p.2) (ih _)

end Schedule

namespace Run

variable {clock : Nat → Moment} {r : Run}

/-- Each channel has one loop at most, and each loop one refresh at most that is underway and waits. -/
structure Tidy (r : Run) : Prop where
  apart : r.schedule.Apart
  single : r.underway.Pairwise fun p p' => p.1.same p'.1 = false
  owned : ∀ p ∈ r.underway, ∃ l ∈ r.schedule.loops, l.channel = p.1
  waits : ∀ p ∈ r.underway, ∃ s : State, s.channel.same p.1 = true ∧ Stands s p.2

theorem tidy_empty : Tidy {} :=
  ⟨.nil, .nil, fun _ h => absurd h List.not_mem_nil, fun _ h => absurd h List.not_mem_nil⟩

theorem Tidy.startAll (h : r.Tidy) (pairs : List (Value × Value)) :
    Tidy { r with schedule := r.schedule.startAll r.now pairs } where
  apart := h.apart.startAll pairs
  single := h.single
  owned := by
    intro p hp
    obtain ⟨l, hl, hchannel⟩ := h.owned p hp
    exact ⟨l, r.schedule.loops_startAll _ pairs hl, hchannel⟩
  waits := h.waits

theorem underway?_eq_some {channel : Value} {p : Value × Refreshing} (h : r.underway? channel = some p) :
    p ∈ r.underway ∧ p.1.same channel = true := by
  have hsame := List.find?_some h
  exact ⟨List.mem_of_find?_eq_some h, hsame⟩

/-- A refresh that goes on leaves each channel with its loop. -/
theorem Tidy.goOn (h : r.Tidy) {time : Nat} {channel : Value} {x : Refreshing} {s : State}
    (hchannel : s.channel.same channel = true) (hx : Stands s (byClock (clock time) x))
    (hloop : ∃ l ∈ r.schedule.loops, l.channel = channel) : (r.goOn clock time channel x).Tidy := by
  have hothers : ∀ p ∈ r.underway.filter (!·.1.same channel), p ∈ r.underway ∧ p.1.same channel = false := by
    intro p hp
    obtain ⟨hp, hsame⟩ := List.mem_filter.mp hp
    exact ⟨hp, by simpa using hsame⟩
  unfold Run.goOn
  generalize byClock (clock time) x = y at hx
  cases y with
  | done after =>
    refine ⟨?_, h.single.filter _, fun p hp => ?_, fun p hp => h.waits p (hothers p hp).1⟩
    · refine List.pairwise_append.mpr ⟨h.apart.filter _, List.pairwise_singleton _ _, fun l hl l' hl' => ?_⟩
      cases List.mem_singleton.mp hl'
      simpa using (List.mem_filter.mp hl).2
    · obtain ⟨hp, hsame⟩ := hothers p hp
      obtain ⟨l, hl, hlp⟩ := h.owned p hp
      refine ⟨l, List.mem_append_left _ (List.mem_filter.mpr ⟨hl, ?_⟩), hlp⟩
      simp [hlp, hsame]
  | ask q next =>
    refine ⟨h.apart, ?_, fun p hp => ?_, fun p hp => ?_⟩
    · refine List.pairwise_append.mpr ⟨h.single.filter _, List.pairwise_singleton _ _, fun p hp p' hp' => ?_⟩
      cases List.mem_singleton.mp hp'
      exact (hothers p hp).2
    · rcases List.mem_append.mp hp with hp | hp
      · exact h.owned p (hothers p hp).1
      · cases List.mem_singleton.mp hp
        exact hloop
    · rcases List.mem_append.mp hp with hp | hp
      · exact h.waits p (hothers p hp).1
      · cases List.mem_singleton.mp hp
        exact ⟨s, hchannel, hx⟩

/-- A loop that begins a refresh asks for a grant, so the loops stay as they are. -/
theorem wake_schedule (clock : Nat → Moment) (r : Run) (l : Loop) : (r.wake clock l).schedule = r.schedule := by
  unfold wake
  split
  · cases r.schedule.state? l.channel with
    | none => rfl
    | some s => simp only [goOn, byClock_once]
  · rfl

theorem Tidy.wake (h : r.Tidy) {l : Loop} (hl : l ∈ r.schedule.loops) : (r.wake clock l).Tidy := by
  unfold Run.wake
  split
  · cases hstate : r.schedule.state? l.channel with
    | none => exact h
    | some s =>
      have hsame := List.find?_some hstate
      refine h.goOn hsame ?_ ⟨l, hl, rfl⟩
      rw [byClock_once]
      exact .asking
  · exact h

theorem Tidy.wakeAll (h : r.Tidy) {ls : List Loop} (hls : ls ⊆ r.schedule.loops) :
    (ls.foldl (Run.wake clock) r).Tidy := by
  induction ls generalizing r with
  | nil => exact h
  | cons l rest ih =>
    obtain ⟨hl, hrest⟩ := List.cons_subset.mp hls
    refine ih (h.wake hl) ?_
    rw [wake_schedule]
    exact hrest

theorem Tidy.hear (h : r.Tidy) (channel : Value) (o : Outcome) : (r.hear clock channel o).Tidy := by
  unfold Run.hear
  split
  next key q next hunderway =>
    obtain ⟨hmem, -⟩ := underway?_eq_some hunderway
    obtain ⟨s, hkey, hstands⟩ := h.waits _ hmem
    exact h.goOn hkey (hstands.answered _ o).stands (h.owned _ hmem)
  · exact h

theorem Tidy.step (h : r.Tidy) (e : Event) : (r.step clock e).Tidy := by
  cases e with
  | start rows =>
    rw [step_start]
    exact h.startAll _
  | startOne channel token =>
    rw [step_startOne]
    exact h.startAll _
  | stop => exact ⟨.nil, .nil, fun _ h => absurd h List.not_mem_nil, fun _ h => absurd h List.not_mem_nil⟩
  | outcome channel o => exact h.hear channel o
  | advance duration =>
    have hlater : Tidy { r with now := r.now + duration } := ⟨h.apart, h.single, h.owned, h.waits⟩
    exact hlater.wakeAll (List.Subset.refl _)

theorem tidy_steps (clock : Nat → Moment) (events : List Event) : (steps clock events).Tidy := by
  induction events using List.reverseRecOn with
  | nil => exact tidy_empty
  | append_singleton events e ih =>
    rw [steps_snoc]
    exact ih.step e

end Run

end ChannelBot.Refresh
