/-
The backends that any sequence of requests leads to, and what they all have in common. What one
request makes of the tables is said once (`handle_writes`): most requests do not touch them
(`…_tables`), the others are calls or put music credentials. So what all writings keep holds of every
backend that is reached (`Reachable.of_writes`); one such thing is that the tables are sound
(`Reachable.sound`).
-/
import ChannelBot.Proofs.Server.Outsider

namespace ChannelBot.Server

/-- What a request makes of the tables: nothing, what a call does to them whose body says what it needs
to know, or new music credentials of a channel that was found. -/
inductive Tables.Writes (t : Tables) : Tables → Prop
  | nothing : t.Writes t
  | call (c : Call) (content : Content) (said : c.Said content) : t.Writes (c.act t).1
  | credential (name : String) (c : ChannelRow) (found : t.channel name = .found c) (k : Credential) :
    t.Writes (t.putCredential c.id k)

namespace Backend

variable {b : Backend}

/-! ## Requests beside the tables -/

@[simp] theorem withProfile_tables (b : Backend) : b.withProfile.1.tables = b.tables := by
  rw [withProfile]
  split <;> rfl

theorem showProfile_tables (b : Backend) : b.showProfile.1.tables = b.tables := b.withProfile_tables

theorem changeProfile_tables (b : Backend) (c : BotChange) : (b.changeProfile c).1.tables = b.tables := by
  rw [changeProfile]
  dsimp only
  split <;> exact b.withProfile_tables

theorem changeTokens_tables (b : Backend) (c : BotTokens) : (b.changeTokens c).1.tables = b.tables :=
  b.withProfile_tables

theorem pushLog_tables (b : Backend) (now : Moment) (e : LogEntry) : (b.pushLog now e).1.tables = b.tables := by
  rw [pushLog]

end Backend

namespace Authorization

theorem finishBot_tables (b : Backend) (now : Moment) (grant owner access : Value) :
    (finishBot b now grant owner access).1.tables = b.tables := by
  rw [finishBot]
  dsimp only
  split <;> exact b.withProfile_tables

theorem botCallback_tables (b : Backend) (now : Moment) (origin : String) (answers : List HttpOutcome)
    (code state : String) : (botCallback b now origin answers code state).1.tables = b.tables := by
  rw [botCallback_eq]
  split
  next => rfl
  next =>
    dsimp only
    split
    next => rfl
    next grant access owner _ => exact finishBot_tables (redeem b.warm state).1 now grant owner access
  next => rfl

/-- A music callback puts the credentials of a channel that was found, or nothing. -/
theorem musicCallback_writes (b : Backend) (now : Moment) (origin : String) (answers : List HttpOutcome)
    (code state : String) : b.tables.Writes (musicCallback b now origin answers code state).1.tables := by
  rw [musicCallback_eq]
  dsimp only
  split
  next name _ =>
    split
    next => exact .nothing
    next => exact .nothing
    next c hfound =>
      split
      next => exact .nothing
      next k _ => exact .credential name c hfound k
  next => exact .nothing

end Authorization

/-! ## All requests -/

theorem Tables.changeCredential_writes (t : Tables) (name : String) (p : MusicTokens) :
    t.Writes (t.changeCredential name p).1 := by
  rw [changeCredential, withCredential, withChannel]
  cases hfound : t.channel name with
  | absent | ambiguous => exact .nothing
  | found c =>
    simp only [withOne]
    cases t.credential? c.id with
    | none => exact .nothing
    | some k => exact .credential name c hfound _

theorem Tables.showCredential_tables (t : Tables) (name : String) : (t.showCredential name).1 = t := by
  rw [showCredential, withCredential, withChannel]
  cases t.channel name with
  | absent | ambiguous => rfl
  | found c =>
    simp only [withOne]
    split <;> rfl

namespace Backend

variable {b : Backend}

theorem checked_writes {α : Type} {c : Checked α} {use : α → Backend × Reply}
    (h : ∀ a, c = .valid a → b.tables.Writes (use a).1.tables) : b.tables.Writes (b.checked c use).1.tables := by
  cases c with
  | valid a => exact h a rfl
  | invalid vs => exact .nothing

theorem callback_writes {r : Request} {use : String → String → Backend × Reply}
    (h : ∀ code state, b.tables.Writes (use code state).1.tables) : b.tables.Writes (b.callback r use).1.tables := by
  rcases r.callback_cases with ⟨-, response, -, hspot⟩ | ⟨code, state, -, hcallback⟩
  · rw [hspot]
    exact .nothing
  · rw [hcallback]
    exact h code state

/-- What a call does whose endpoint takes no body. -/
theorem writes_call (c : Call) (said : c.Said .none) : b.tables.Writes (c.act b.tables).1 := .call c .none said

/-- A request at an endpoint writes once at most. -/
theorem serve_writes (b : Backend) (now : Moment) (answers : List HttpOutcome) (r : Request) (content : Content)
    (e : Endpoint) : b.tables.Writes (b.serve now answers r content e).1.tables := by
  cases e with
  | front | health | commandsPage | listChannels | listRefreshTokens | streamLog => exact .nothing
  | showProfile => exact b.showProfile_tables ▸ .nothing
  | changeProfile => exact checked_writes fun p _ => b.changeProfile_tables p ▸ .nothing
  | changeTokens => exact checked_writes fun p _ => b.changeTokens_tables p ▸ .nothing
  | pushLog =>
    refine checked_writes fun p _ => ?_
    show b.tables.Writes (b.pushLog now p).1.tables
    rw [pushLog_tables]
    exact .nothing
  | showLog =>
    rw [serve]
    exact checked_writes fun _ _ => .nothing
  | addChannel => exact checked_writes fun p hp => .call (.addChannel p) content hp
  | showChannel c => exact writes_call (.showChannel c) trivial
  | removeChannel c => exact writes_call (.removeChannel c) trivial
  | changeSigil c => exact checked_writes fun s hs => .call (.changeSigil c s) content hs
  | listCommands c => exact writes_call (.listCommands c) trivial
  | addCommand c => exact checked_writes fun p hp => .call (.addCommand c p) content hp
  | showCommand c t => exact writes_call (.showCommand c t) trivial
  | removeCommand c t => exact writes_call (.removeCommand c t) trivial
  | addRedeem c => exact checked_writes fun p hp => .call (.addRedeem c p) content hp
  | showRedeem c t => exact writes_call (.showRedeem c t) trivial
  | removeRedeem c t => exact writes_call (.removeRedeem c t) trivial
  | addTarget c u => exact writes_call (.addTarget c u) trivial
  | showTarget c u => exact writes_call (.showTarget c u) trivial
  | changeTarget c u => exact checked_writes fun p hp => .call (.changeTarget c u p) content hp
  | showCredential c =>
    show b.tables.Writes (b.tables.showCredential c).1
    rw [Tables.showCredential_tables]
    exact .nothing
  | changeCredential c => exact checked_writes fun p _ => Tables.changeCredential_writes b.tables c p
  | startBot => exact (Authorization.startBot_untouched b now r.origin).tables ▸ .nothing
  | botCallback =>
    rw [serve]
    refine callback_writes fun code state => ?_
    rw [Authorization.botCallback_tables]
    exact .nothing
  | startMusic c => exact (Authorization.startMusic_untouched b now r.origin c).tables ▸ .nothing
  | musicCallback =>
    rw [serve]
    exact callback_writes fun code state => Authorization.musicCallback_writes b now r.origin answers code state

/-- Any request writes once at most. -/
theorem handle_writes (b : Backend) (now : Moment) (answers : List HttpOutcome) (r : Request) :
    b.tables.Writes (b.handle now answers r).1.tables := by
  unfold handle
  split
  · exact .nothing
  · split
    · rw [serveGuarded]
      split
      · exact .nothing
      · exact .nothing
      · split
        · exact .nothing
        · exact serve_writes b now answers r _ _
    · exact .nothing

end Backend

/-- Writing keeps the tables sound. -/
theorem Tables.Writes.sound {t t' : Tables} (h : t.Sound) (hwrites : t.Writes t') : t'.Sound := by
  cases hwrites with
  | nothing => exact h
  | call c content said => exact c.act_sound h
  | credential name c found k =>
    rw [h.channel_eq] at found
    cases hrow : t.row? (ChannelName.normalize name) with
    | none =>
      rw [hrow] at found
      cases found
    | some d =>
      rw [hrow] at found
      obtain rfl := Search.found.inj found
      exact h.putCredential (Tables.row?_id_mem hrow) k

namespace Backend

theorem handle_sound {b : Backend} (h : b.tables.Sound) (now : Moment) (answers : List HttpOutcome) (r : Request) :
    (b.handle now answers r).1.tables.Sound :=
  (b.handle_writes now answers r).sound h

/-- The backends that exist: one starts with empty tables, answers requests, and changes otherwise
only beside its tables. -/
inductive Reachable : Backend → Prop
  | start {b : Backend} (empty : b.tables = {}) : Reachable b
  | handle {b : Backend} (h : Reachable b) (now : Moment) (answers : List HttpOutcome) (r : Request) :
    Reachable (b.handle now answers r).1
  | beside {b b' : Backend} (h : Reachable b) (same : b'.tables = b.tables) : Reachable b'

/-- What empty tables have and writing keeps, the tables of every backend have. -/
theorem Reachable.of_writes {P : Tables → Prop} (hempty : P {}) (hwrites : ∀ t t', P t → t.Writes t' → P t')
    {b : Backend} (h : Reachable b) : P b.tables := by
  induction h with
  | start empty => exact empty ▸ hempty
  | @handle b _ now answers r ih => exact hwrites _ _ ih (b.handle_writes now answers r)
  | beside _ same ih => exact same ▸ ih

theorem Reachable.sound {b : Backend} (h : Reachable b) : b.tables.Sound :=
  h.of_writes .empty fun _ _ hsound hwrites => hwrites.sound hsound

end Backend

end ChannelBot.Server
