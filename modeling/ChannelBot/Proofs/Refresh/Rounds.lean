/-
A refresh loop, round by round. A round asks for a grant with the token that its state holds, once,
and goes one of five ways (`runs_once`). Only where the store takes the grant does the state change.
-/
import ChannelBot.Proofs.Dialogue.Runs
import ChannelBot.Refresh.State

namespace ChannelBot.Refresh

open Dialogue

variable {s s' : State} {turns : List (Turn surroundings)} {x : State × Except Fault Int}

/-- The ways that a refresh can go. -/
inductive Course (s : State) : List (Turn surroundings) → State × Except Fault Int → Prop
  /-- The provider grants nothing. -/
  | refused (f : Fault) : Course s [⟨.grant s.refreshToken, .error f⟩] (afterFault s f)
  /-- The grant ends beyond the calendar. -/
  | endless (g : Spotify.Grant) (now : Moment) (h : now.addSeconds? g.expiresIn = none) :
    Course s [⟨.grant s.refreshToken, .ok g⟩, ⟨.now, now⟩] (afterFault s (.shape .dateOverflow))
  /-- The channel is no name that the store could be asked about. -/
  | unaddressed (g : Spotify.Grant) (now : Moment) {expiry : Moment} {f : ShapeFault}
    (h : now.addSeconds? g.expiresIn = some expiry) (hchannel : s.channel.addressPart = .error f) :
    Course s [⟨.grant s.refreshToken, .ok g⟩, ⟨.now, now⟩] (afterFault s (.shape f))
  /-- The store does not take the grant. -/
  | unstored (g : Spotify.Grant) (now : Moment) {expiry : Moment} {channel : String} (f : Fault)
    (h : now.addSeconds? g.expiresIn = some expiry) (hchannel : s.channel.addressPart = .ok channel) :
    Course s
      [⟨.grant s.refreshToken, .ok g⟩, ⟨.now, now⟩, ⟨.store (update channel g expiry), .error f⟩]
      (afterFault s f)
  /-- The store takes the grant. -/
  | stored (g : Spotify.Grant) (now : Moment) {expiry : Moment} {channel : String}
    (v : (update channel g expiry).Result) (h : now.addSeconds? g.expiresIn = some expiry)
    (hchannel : s.channel.addressPart = .ok channel) :
    Course s
      [⟨.grant s.refreshToken, .ok g⟩, ⟨.now, now⟩, ⟨.store (update channel g expiry), .ok v⟩]
      (s.accept g expiry, .ok (wait g))

/-- What a dialogue asks first, and how it goes on. -/
theorem runs_asked {α : Type} {q : Query} {f : Answer q → Dialogue surroundings α} {a : α} :
    Runs (Dialogue.bind (query (I := surroundings) q) f) turns a ↔
      ∃ answer rest, turns = ⟨q, answer⟩ :: rest ∧ Runs (f answer) rest a := runs_ask

/-- What a refresh does with a grant. -/
def settle (s : State) : Except Fault Spotify.Grant → Dialogue surroundings (State × Except Fault Int)
  | .error f => .done (afterFault s f)
  | .ok g => askTime.bind fun now =>
    match now.addSeconds? g.expiresIn, s.channel.addressPart with
    | none, _ => .done (afterFault s (.shape .dateOverflow))
    | some _, .error f => .done (afterFault s (.shape f))
    | some expiry, .ok channel => (askStore (update channel g expiry)).bind fun
      | .error f => .done (afterFault s f)
      | .ok _ => .done (s.accept g expiry, .ok (wait g))

theorem once_eq (s : State) : once s = (askGrant s.refreshToken).bind (settle s) := by
  refine congrArg (Dialogue.bind _) (funext fun answer => ?_)
  cases answer with
  | error f => rfl
  | ok g =>
    refine congrArg (Dialogue.bind _) (funext fun now => ?_)
    cases now.addSeconds? g.expiresIn with
    | none => rfl
    | some expiry => cases s.channel.addressPart <;> rfl

/-- A refresh goes one of these ways, and may go each of them. -/
theorem runs_once : Runs (once s) turns x ↔ Course s turns x := by
  rw [once_eq, askGrant, runs_asked]
  constructor
  · rintro ⟨answer, rest, rfl, hsettle⟩
    cases answer with
    | error f =>
      obtain ⟨rfl, rfl⟩ := runs_done.mp hsettle
      exact .refused f
    | ok g =>
      obtain ⟨now, last, rfl, hstore⟩ := runs_asked.mp hsettle
      split at hstore
      next hexpiry =>
        obtain ⟨rfl, rfl⟩ := runs_done.mp hstore
        exact .endless g now hexpiry
      next expiry f hexpiry hchannel =>
        obtain ⟨rfl, rfl⟩ := runs_done.mp hstore
        exact .unaddressed g now hexpiry hchannel
      next expiry channel hexpiry hchannel =>
        obtain ⟨taken, none, rfl, hend⟩ := runs_asked.mp hstore
        cases taken with
        | error f =>
          obtain ⟨rfl, rfl⟩ := runs_done.mp hend
          exact .unstored g now f hexpiry hchannel
        | ok v =>
          obtain ⟨rfl, rfl⟩ := runs_done.mp hend
          exact .stored g now v hexpiry hchannel
  · intro h
    cases h with
    | refused f => exact ⟨_, _, rfl, .done _⟩
    | endless g now h =>
      refine ⟨_, _, rfl, runs_asked.mpr ⟨now, _, rfl, ?_⟩⟩
      rw [h]
      exact .done _
    | unaddressed g now h hchannel =>
      refine ⟨_, _, rfl, runs_asked.mpr ⟨now, _, rfl, ?_⟩⟩
      rw [h, hchannel]
      exact .done _
    | unstored g now f h hchannel =>
      refine ⟨_, _, rfl, runs_asked.mpr ⟨now, _, rfl, ?_⟩⟩
      rw [h, hchannel]
      exact runs_asked.mpr ⟨.error f, _, rfl, .done _⟩
    | stored g now v h hchannel =>
      refine ⟨_, _, rfl, runs_asked.mpr ⟨now, _, rfl, ?_⟩⟩
      rw [h, hchannel]
      exact runs_asked.mpr ⟨.ok v, _, rfl, .done _⟩

/-- The rounds of a loop that starts in a state, and the state that they lead to. What a round comes
to is the next one's delay and nothing else. -/
inductive Rounds (s : State) : List (List (Turn surroundings)) → State → Prop
  | start : Rounds s [] s
  | next {rounds : List (List (Turn surroundings))} {s₁ s₂ : State} {turns : List (Turn surroundings)}
    {result : Except Fault Int} (h : Rounds s rounds s₁) (hruns : Runs (once s₁) turns (s₂, result)) :
    Rounds s (rounds ++ [turns]) s₂

/-- A round starts in the state that the rounds before it led to. -/
theorem Rounds.cut {before after : List (List (Turn surroundings))} {last : State}
    (h : Rounds s (before ++ turns :: after) last) :
    ∃ s₁ x, Rounds s before s₁ ∧ Course s₁ turns x := by
  generalize hall : before ++ turns :: after = rounds at h
  induction h generalizing after with
  | start => simp at hall
  | @next rounds s₁ s₂ turns' result h hruns ih =>
    rcases snoc_eq_append_cons_iff.mp hall.symm with ⟨-, rfl, rfl⟩ | ⟨between, -, hrounds⟩
    · exact ⟨s₁, _, h, runs_once.mp hruns⟩
    · exact ih hrounds.symm

end ChannelBot.Refresh
