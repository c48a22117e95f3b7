/-
Requests without the token. They write nothing but the table of pending states, and of them only a
start of an authorization adds to it; a callback writes as long as it brings back a state text that
is pending for its own authorization, and else nothing (`outsiders_write_nothing`).
-/
import ChannelBot.Proofs.Authorization.Callback

namespace ChannelBot.Server

namespace Backend

/-- All that is stored, and what readers see of the settings, stays; the pending states may change. -/
structure Untouched (b b' : Backend) : Prop where
  tables : b'.tables = b.tables
  bot : b'.bot = b.bot
  rows : b'.settings.rows = b.settings.rows
  settings : b'.settings.current = b.settings.current
  log : b'.log = b.log

theorem Untouched.refl (b : Backend) : b.Untouched b := ⟨rfl, rfl, rfl, rfl, rfl⟩

theorem Untouched.trans {b₁ b₂ b₃ : Backend} (h : b₁.Untouched b₂) (h' : b₂.Untouched b₃) : b₁.Untouched b₃ :=
  ⟨h'.tables.trans h.tables, h'.bot.trans h.bot, h'.rows.trans h.rows, h'.settings.trans h.settings,
    h'.log.trans h.log⟩

/-- Reading the settings remembers them, and no more. -/
theorem Untouched.warm (b : Backend) : b.Untouched b.warm := ⟨rfl, rfl, rfl, rfl, rfl⟩

end Backend

namespace Tables

variable {α : Type} {t : Tables} {missing : String}

/-- Who looks a row up and leaves the tables as they are, leaves them so if there is no row, too. -/
theorem withOne_tables {use : α → Tables × Response} (huse : ∀ a, (use a).1 = t) (s : Search α) :
    (t.withOne missing use s).1 = t := by
  cases s with
  | found a => exact huse a
  | absent | ambiguous => rfl

end Tables

/-- What only reads leaves everything as it is. -/
theorem Endpoint.IsReading.serve {e : Endpoint} (h : e.IsReading) (b : Backend) (now : Moment)
    (answers : List HttpOutcome) (r : Request) (content : Content) : (b.serve now answers r content e).1 = b := by
  have hread : ∀ act : Tables → Tables × Response, (act b.tables).1 = b.tables →
      (Backend.replying (b.onTables act)).1 = b := by
    intro act hact
    show { b with tables := (act b.tables).1 } = b
    rw [hact]
  cases e with
  | front | health | commandsPage | listChannels => rfl
  | showChannel | listCommands => exact hread _ (Tables.withOne_tables (t := b.tables) (fun _ => rfl) _)
  | showCommand | showRedeem | showTarget =>
    refine hread _ (Tables.withOne_tables (t := b.tables) (fun c => ?_) _)
    exact Tables.withOne_tables (t := b.tables) (fun _ => rfl) _
  | _ => exact h.elim

namespace Authorization

variable {b : Backend}

theorem startBot_untouched (b : Backend) (now : Moment) (origin : String) :
    b.Untouched (startBot b now origin).1 := by
  have hwarm := Backend.Untouched.warm b
  rw [startBot]
  dsimp only
  split
  · exact hwarm
  · exact hwarm.trans ⟨rfl, rfl, rfl, rfl, rfl⟩

theorem startMusic_untouched (b : Backend) (now : Moment) (origin channel : String) :
    b.Untouched (startMusic b now origin channel).1 := by
  have hwarm := Backend.Untouched.warm b
  rw [startMusic]
  split
  · exact .refl b
  · exact .refl b
  · dsimp only
    split
    · exact hwarm
    · exact hwarm.trans ⟨rfl, rfl, rfl, rfl, rfl⟩

theorem redeem_untouched (b : Backend) (state : String) : b.Untouched (redeem b state).1 := ⟨rfl, rfl, rfl, rfl, rfl⟩

/-- A callback whose state text is not pending for its own authorization writes nothing. -/
theorem comeBack_untouched {f : Flow} {state : String} (h : ¬ Awaits b f state) (now : Moment) (origin : String)
    (answers : List HttpOutcome) (code : String) : b.Untouched (comeBack b now origin answers code state f).1 := by
  have hwarm := Backend.Untouched.warm b
  cases f with
  | bot =>
    rw [comeBack, botCallback_eq]
    split
    next => exact hwarm
    next hpending => exact absurd ⟨.bot, hpending, rfl⟩ h
    next => exact hwarm.trans (redeem_untouched b.warm state)
  | music =>
    rw [comeBack, musicCallback_eq]
    dsimp only
    split
    next name hpending => exact absurd ⟨.music name, hpending, rfl⟩ h
    next => exact redeem_untouched b state

end Authorization

/-- **Without the token nothing is written.** A request that does not carry it, and is no callback,
leaves all that is stored as it is; even the pending states change only at the start of an
authorization. A callback leaves all that is stored as it is unless the state text that it brings
back is pending for its own authorization. -/
theorem outsiders_write_nothing (b : Backend) (now : Moment) (answers : List HttpOutcome) {r : Request}
    (h : r.token ≠ some adminToken) :
    ((∀ f : Flow, r.endpoint? ≠ some f.callback) →
      b.Untouched (b.handle now answers r).1 ∧
        ((b.handle now answers r).1.pending ≠ b.pending →
          r.endpoint? = some .startBot ∨ ∃ channel, r.endpoint? = some (.startMusic channel))) ∧
    ∀ f : Flow, r.endpoint? = some f.callback →
      (∀ e ∈ b.pending, r.parameter? "state" = some e.state → e.purpose.flow ≠ f) →
      b.Untouched (b.handle now answers r).1 := by
  rcases r.dispatch now answers with ⟨response, hspot⟩ | ⟨e, hrouted, hallowed, hserve⟩
  · rw [hspot]
    exact ⟨fun _ => ⟨.refl b, fun hne => absurd rfl hne⟩, fun _ _ _ => .refl b⟩
  rw [hserve, hrouted]
  rcases Endpoint.open_cases fun hguarded => h (hallowed hguarded) with hreading | (rfl | ⟨channel, rfl⟩) | ⟨g, rfl⟩
  · rw [hreading.serve]
    exact ⟨fun _ => ⟨.refl b, fun hne => absurd rfl hne⟩, fun _ _ _ => .refl b⟩
  · have hstart := Authorization.startBot_untouched b now r.origin
    exact ⟨fun _ => ⟨hstart, fun _ => .inl rfl⟩, fun _ _ _ => hstart⟩
  · have hstart := Authorization.startMusic_untouched b now r.origin channel
    exact ⟨fun _ => ⟨hstart, fun _ => .inr ⟨channel, rfl⟩⟩, fun _ _ _ => hstart⟩
  · refine ⟨fun hnone => absurd rfl (hnone g), fun f hf hother => ?_⟩
    obtain rfl := Flow.callback_inj (Option.some.inj hf)
    rw [Authorization.serve_callback]
    rcases r.callback_cases with ⟨-, response, -, hspot⟩ | ⟨code, state, hbrings, hcallback⟩
    · rw [hspot]
      exact .refl b
    · rw [hcallback]
      refine Authorization.comeBack_untouched ?_ now r.origin answers code
      rintro ⟨p, hp, hflow⟩
      obtain ⟨e, he, rfl, rfl⟩ := Authorization.redeem_purpose hp
      exact hother e he hbrings.state hflow

/-- A music authorization that is brought to the bot's callback, and a removal with a wrong token. -/
theorem outsiders_write_nothing_crossed :
    let b : Backend :=
      { tables := { channels := [⟨1, "chan", "!"⟩] }
        settings := { rows := [("twitch_client_id", some "id"), ("twitch_client_secret", some "secret")] }
        pending := [⟨"state-1", .music "chan", ⟨0⟩⟩]
        issued := 1 }
    let crossed : Request := { method := "GET", target := "/auth/callback?code=c&state=state-1" }
    let removal : Request := { method := "DELETE", target := "/channels/chan", token := some "guess" }
    (crossed.token ≠ some adminToken ∧ crossed.endpoint? = some Flow.bot.callback ∧
        (∀ e ∈ b.pending, crossed.parameter? "state" = some e.state → e.purpose.flow ≠ .bot) ∧
        b.Untouched (b.handle ⟨1⟩ [] crossed).1) ∧
      removal.token ≠ some adminToken ∧ removal.endpoint? = some (.removeChannel "chan") ∧
        b.Untouched (b.handle ⟨1⟩ [] removal).1 := by
  intro b crossed removal
  have hcrossed : crossed.token ≠ some adminToken := by decide
  have hremoval : removal.token ≠ some adminToken := by decide
  have hcallback : crossed.endpoint? = some Flow.bot.callback := by decide
  have hrouted : removal.endpoint? = some (.removeChannel "chan") := by decide
  have hother : ∀ e ∈ b.pending, crossed.parameter? "state" = some e.state → e.purpose.flow ≠ .bot := by decide
  have hwritten := (outsiders_write_nothing b ⟨1⟩ [] hremoval).1 fun f => by
    rw [hrouted]
    cases f <;> decide
  exact ⟨⟨hcrossed, hcallback, hother, (outsiders_write_nothing b ⟨1⟩ [] hcrossed).2 .bot hcallback hother⟩,
    hremoval, hrouted, hwritten.1⟩

end ChannelBot.Server
