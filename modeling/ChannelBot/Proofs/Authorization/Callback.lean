/-
Callbacks, by what they find. Each looks at what the state text that it brings is pending for
(`botCallback_eq`, `musicCallback_eq`). A callback that is ready goes on exactly if the text is pending
for its own authorization (`comeBack_passes`), and refuses it without asking anybody if not
(`comeBack_refuses`).
-/
import ChannelBot.Proofs.Server.Dispatch

namespace ChannelBot.Server.Authorization

variable {b : Backend}

/-- What a callback does that brings a state text back, by the authorization that it belongs to. -/
def comeBack (b : Backend) (now : Moment) (origin : String) (answers : List HttpOutcome) (code state : String) :
    Flow → Backend × Reply
  | .bot => botCallback b now origin answers code state
  | .music => musicCallback b now origin answers code state

/-- What is served at the callback of an authorization. -/
theorem serve_callback (b : Backend) (now : Moment) (answers : List HttpOutcome) (r : Request) (content : Content)
    (f : Flow) :
    b.serve now answers r content f.callback =
      b.callback r fun code state => comeBack b now r.origin answers code state f := by
  cases f <;> rfl

/-- A request to a callback is always served. -/
theorem handle_callback (b : Backend) (now : Moment) (answers : List HttpOutcome) {r : Request} {f : Flow}
    (hrouted : r.endpoint? = some f.callback) :
    b.handle now answers r = b.callback r fun code state => comeBack b now r.origin answers code state f := by
  have hopen : f.callback.isGuarded = false := by cases f <;> rfl
  have hplain : f.callback.takesContent = false := by cases f <;> rfl
  rw [b.handle_open now answers hrouted hopen hplain, serve_callback]

/-- Whether a callback gets as far as looking at the state text. -/
def Ready (b : Backend) : Flow → Prop
  | .bot => botApplication? b ≠ none
  | .music => True

instance (b : Backend) : (f : Flow) → Decidable (Ready b f)
  | .bot => inferInstanceAs (Decidable (botApplication? b ≠ none))
  | .music => inferInstanceAs (Decidable True)

/-- A state text is pending for an authorization. -/
def Awaits (b : Backend) (f : Flow) (state : String) : Prop := ∃ p, (redeem b state).2 = some p ∧ p.flow = f

/-- A state text is taken for what it is pending for. -/
theorem redeem_purpose {state : String} {p : Purpose} (h : (redeem b state).2 = some p) :
    ∃ e ∈ b.pending, e.state = state ∧ e.purpose = p := by
  obtain ⟨e, hfind, rfl⟩ := Option.map_eq_some_iff.mp h
  exact ⟨e, List.mem_of_find?_eq_some hfind, by simpa using List.find?_some hfind, rfl⟩

theorem botCallback_eq (b : Backend) (now : Moment) (origin : String) (answers : List HttpOutcome)
    (code state : String) :
    botCallback b now origin answers code state =
      match botApplication? b, (redeem b state).2 with
      | none, _ => (b.warm, { response := refused 500 "Twitch OAuth not configured" })
      | some (id, secret), some .bot =>
        let taken := (redeem b.warm state).1
        let trade := tradeBot taken origin id secret code answers
        match trade.1 with
        | .error f => (taken, ⟨f.response "Twitch", trade.2⟩)
        | .ok (grant, access, owner) =>
          let finish := finishBot taken now grant owner access
          (finish.1, ⟨finish.2, trade.2⟩)
      | some _, _ => ((redeem b.warm state).1, { response := expired }) := by
  have hredeem : redeem b.warm state = ((redeem b.warm state).1, (redeem b state).2) := rfl
  have happ : botApplication? b.warm = botApplication? b := rfl
  rw [botCallback]
  dsimp only
  rw [happ]
  cases botApplication? b with
  | none => rfl
  | some app =>
    rw [hredeem]
    generalize (redeem b state).2 = p
    match p with
    | none => rfl
    | some (.music _) => rfl
    | some .bot =>
      dsimp only
      generalize tradeBot (redeem b.warm state).1 origin app.1 app.2 code answers = trade
      obtain ⟨traded, calls⟩ := trade
      cases traded <;> rfl

theorem musicCallback_eq (b : Backend) (now : Moment) (origin : String) (answers : List HttpOutcome)
    (code state : String) :
    musicCallback b now origin answers code state =
      let taken := (redeem b state).1
      match (redeem b state).2 with
      | some (.music name) =>
        match b.tables.channel name with
        | .absent => (taken, { response := refused 404 "channel not found" })
        | .ambiguous => (taken, { response := .crash })
        | .found c =>
          let calls := [musicTokenRequest taken.warm origin code]
          match grantedCredential now (next answers).1 with
          | .error f => (taken.warm, ⟨f.response "Spotify", calls⟩)
          | .ok k =>
            ({ taken.warm with tables := b.tables.putCredential c.id k },
              ⟨⟨200, .page (Page.connected c.name)⟩, calls⟩)
      | _ => (taken, { response := expired }) := by
  have hredeem : redeem b state = ((redeem b state).1, (redeem b state).2) := rfl
  rw [musicCallback, hredeem]
  generalize (redeem b state).2 = p
  match p with
  | none => rfl
  | some .bot => rfl
  | some (.music name) => rfl

theorem TradeFault.le_status (provider : String) (f : TradeFault) : 500 ≤ (f.response provider).status := by
  cases f with
  | provider => exact (by decide : 500 ≤ 502)
  | crash => exact Nat.le_refl 500

theorem TradeFault.status_ne_ok (provider : String) (f : TradeFault) : (f.response provider).status ≠ 200 := by
  have hstatus := f.le_status provider
  exact fun heq => absurd (heq ▸ hstatus) (by decide : ¬ 500 ≤ 200)

theorem TradeFault.response_ne_expired (provider : String) (f : TradeFault) : f.response provider ≠ expired := by
  intro heq
  have hstatus := f.le_status provider
  rw [heq] at hstatus
  exact absurd hstatus (by decide : ¬ 500 ≤ 400)

theorem finishBot_ne_expired (b : Backend) (now : Moment) (grant owner access : Value) :
    (finishBot b now grant owner access).2 ≠ expired := by
  rw [finishBot]
  dsimp only
  split
  · exact TradeFault.response_ne_expired _ _
  · exact fun heq => nomatch congrArg (·.status) heq

/-- A callback for whose authorization the state text is not pending refuses it and asks nobody. -/
theorem comeBack_refuses {f : Flow} {state : String} (h : Ready b f) (hnot : ¬ Awaits b f state) (now : Moment)
    (origin : String) (answers : List HttpOutcome) (code : String) :
    (comeBack b now origin answers code state f).2 = { response := expired } := by
  cases f with
  | bot =>
    rw [comeBack, botCallback_eq]
    split
    next hnone => exact absurd hnone h
    next hpending => exact absurd ⟨.bot, hpending, rfl⟩ hnot
    next => rfl
  | music =>
    rw [comeBack, musicCallback_eq]
    dsimp only
    split
    next name hpending => exact absurd ⟨.music name, hpending, rfl⟩ hnot
    next => rfl

/-- A callback for whose authorization the state text is pending goes on with it. -/
theorem comeBack_passes {f : Flow} {state : String} (h : Ready b f) (hawaits : Awaits b f state) (now : Moment)
    (origin : String) (answers : List HttpOutcome) (code : String) :
    (comeBack b now origin answers code state f).2.response ≠ expired := by
  obtain ⟨p, hp, rfl⟩ := hawaits
  cases p with
  | bot =>
    obtain ⟨app, happ⟩ := Option.ne_none_iff_exists'.mp h
    rw [Purpose.flow, comeBack, botCallback_eq, happ, hp]
    dsimp only
    split
    · exact TradeFault.response_ne_expired _ _
    · exact finishBot_ne_expired _ _ _ _ _
  | music name =>
    rw [Purpose.flow, comeBack, musicCallback_eq, hp]
    dsimp only
    split
    · exact fun heq => nomatch congrArg (·.status) heq
    · exact fun heq => nomatch congrArg (·.status) heq
    · split
      · exact TradeFault.response_ne_expired _ _
      · exact fun heq => nomatch congrArg (·.status) heq

end ChannelBot.Server.Authorization
