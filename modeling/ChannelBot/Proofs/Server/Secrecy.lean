/-
What nobody without the token learns. Two backends are alike if they differ at most in the music
credentials, the bot's account, the log, and the values of secret settings, of which the same ones
are blank (`Backend.Alike`). A request without the token is answered alike by both and leaves them
alike (`handle_alike`), so a whole history of such requests is answered alike (`secrets_stay_hidden`).
-/
import ChannelBot.Proofs.Server.History
import ChannelBot.Proofs.Server.Outsider
import ChannelBot.Proofs.Server.Settings

namespace ChannelBot.Server

/-! ## Backends that look the same -/

namespace Settings

/-- The settings whose values are secret. -/
def secretKeys : List String := ["twitch_client_secret", "spotify_client_secret", "openweathermap_api_key"]

/-- Settings that differ at most in secret values, each of them set in both or blank in both. -/
structure RowsAlike (xs ys : SettingRows) : Prop where
  shown : ∀ key ∉ secretKeys, xs.lookup key = ys.lookup key
  hidden : ∀ key ∈ secretKeys, (reading xs key).isSome = (reading ys key).isSome

theorem RowsAlike.refl (rows : SettingRows) : RowsAlike rows rows := ⟨fun _ _ => rfl, fun _ _ => rfl⟩

theorem RowsAlike.put {xs ys : SettingRows} (h : RowsAlike xs ys) (key : String) (value : Option String) :
    RowsAlike (put key value xs) (Settings.put key value ys) where
  shown k hk := by rw [lookup_put, lookup_put, h.shown k hk]
  hidden k hk := by
    rw [reading, reading, lookup_put, lookup_put]
    split
    · rfl
    · exact h.hidden k hk

/-- The values put under a secret key may differ, as long as they are both blank or both not. -/
theorem RowsAlike.putSecret {xs ys : SettingRows} (h : RowsAlike xs ys) {key : String} (hkey : key ∈ secretKeys)
    {value value' : Option String} (hsome : (value.bind filled?).isSome = (value'.bind filled?).isSome) :
    RowsAlike (Settings.put key value xs) (Settings.put key value' ys) where
  shown k hk := by
    have hne : k ≠ key := fun heq => hk (heq ▸ hkey)
    rw [lookup_put, lookup_put, if_neg hne, if_neg hne, h.shown k hk]
  hidden k hk := by
    rw [reading, reading, lookup_put, lookup_put]
    split
    · exact hsome
    · exact h.hidden k hk

theorem RowsAlike.withDefaults {xs ys : SettingRows} (h : RowsAlike xs ys) :
    RowsAlike (withDefaults xs) (Settings.withDefaults ys) where
  shown k hk := by rw [lookup_withDefaults, lookup_withDefaults, h.shown k hk]
  hidden k hk := by
    have hnone : defaults.lookup k = none := by
      simp only [secretKeys, List.mem_cons, List.not_mem_nil, or_false] at hk
      rcases hk with rfl | rfl | rfl <;> decide
    have hsome := h.hidden k hk
    rw [reading, reading] at hsome ⊢
    rw [lookup_withDefaults, lookup_withDefaults, hnone, Option.map_none, Option.or_none, Option.or_none]
    exact hsome

/-- Settings that are alike in their rows and in what readers see of them. -/
structure Alike (s s' : Settings) : Prop where
  rows : RowsAlike s.rows s'.rows
  current : RowsAlike s.current s'.current

variable {s s' : Settings}

theorem Alike.warm (h : s.Alike s') : s.warm.Alike s'.warm := ⟨h.rows, h.current⟩

theorem RowsAlike.set (h : RowsAlike s.rows s'.rows) (updates : SettingRows) :
    RowsAlike (s.set updates).rows (s'.set updates).rows := by
  induction updates generalizing s s' with
  | nil => exact h
  | cons u us ih =>
    have hfirst := h.put u.1 (u.2.bind filled?)
    exact @ih { rows := Settings.put u.1 (u.2.bind filled?) s.rows } { rows := Settings.put u.1 _ s'.rows } hfirst

theorem Alike.set (h : s.Alike s') (updates : SettingRows) : (s.set updates).Alike (s'.set updates) :=
  ⟨h.rows.set updates, (h.rows.set updates).withDefaults⟩

theorem Alike.value? (h : s.Alike s') {key : String} (hkey : key ∉ secretKeys) : s'.value? key = s.value? key := by
  rw [value?_eq, value?_eq, reading_congr (h.current.shown key hkey)]

theorem Alike.isSome_value? (h : s.Alike s') {key : String} (hkey : key ∈ secretKeys) :
    (s'.value? key).isSome = (s.value? key).isSome := by
  rw [value?_eq, value?_eq, h.current.hidden key hkey]

theorem Alike.pieces (h : s.Alike s') {key : String} (hkey : key ∉ secretKeys) : s'.pieces key = s.pieces key := by
  rw [Settings.pieces, Settings.pieces, h.value? hkey]

end Settings

open Settings (secretKeys)

/-- Backends that differ at most in what is secret. -/
structure Backend.Alike (b b' : Backend) : Prop where
  tables : ∃ credentials, b'.tables = { b.tables with credentials := credentials }
  settings : b.settings.Alike b'.settings
  pending : b'.pending = b.pending
  issued : b'.issued = b.issued

/-- Two runs end alike and give the same. -/
structure AnsweredAlike {α : Type} (x y : Backend × α) : Prop where
  ends : x.1.Alike y.1
  answer : y.2 = x.2

/-- Two runs end alike and reply the same; the calls made on the way may show secrets. -/
def RepliedAlike (x y : Backend × Reply) : Prop := AnsweredAlike (x.1, x.2.response) (y.1, y.2.response)

variable {b b' : Backend}

theorem Backend.Alike.warm (h : b.Alike b') : b.warm.Alike b'.warm := ⟨h.tables, h.settings.warm, h.pending, h.issued⟩

theorem Backend.Alike.channel (h : b.Alike b') (name : String) : b'.tables.channel name = b.tables.channel name := by
  obtain ⟨credentials, htables⟩ := h.tables
  rw [htables]
  rfl

theorem Backend.Alike.withProfile (h : b.Alike b') : b.withProfile.1.Alike b'.withProfile.1 := by
  have hends : ∀ {c c' : Backend}, c.Alike c' → ∀ p p', Alike { c with bot := p } { c' with bot := p' } :=
    fun hc _ _ => ⟨hc.tables, hc.settings, hc.pending, hc.issued⟩
  rw [Backend.withProfile, Backend.withProfile]
  cases hbot : b.bot <;> cases hbot' : b'.bot
  · exact hends h.warm _ _
  · exact ⟨h.tables, ⟨h.settings.rows, h.settings.current⟩, h.pending, h.issued⟩
  · exact ⟨h.tables, ⟨h.settings.rows, h.settings.current⟩, h.pending, h.issued⟩
  · exact h

/-! ## Requests that only read -/

theorem Tables.withOne_response {α : Type} {t t' : Tables} {missing : String} {use use' : α → Tables × Response}
    (huse : ∀ a, (use' a).2 = (use a).2) (s : Search α) :
    (t'.withOne missing use' s).2 = (t.withOne missing use s).2 := by
  cases s with
  | found a => exact huse a
  | absent | ambiguous => rfl

theorem Endpoint.IsReading.response {e : Endpoint} (h : e.IsReading) (hb : b.Alike b') (now : Moment)
    (answers : List HttpOutcome) (r : Request) (content : Content) :
    (b'.serve now answers r content e).2.response = (b.serve now answers r content e).2.response := by
  obtain ⟨credentials, htables⟩ := hb.tables
  have hread : ∀ act : Tables → Tables × Response,
      (act { b.tables with credentials := credentials }).2 = (act b.tables).2 →
        (b'.onTables act).2 = (b.onTables act).2 := by
    intro act hact
    show (act b'.tables).2 = (act b.tables).2
    rw [htables]
    exact hact
  cases e with
  | front | health => rfl
  | commandsPage channel =>
    show b'.tables.commandsPage channel = b.tables.commandsPage channel
    rw [htables]
    rfl
  | listChannels =>
    show b'.tables.listChannels = b.tables.listChannels
    rw [htables]
    rfl
  | showChannel channel =>
    refine hread (·.showChannel channel) (Tables.withOne_response (fun _ => ?_) (b.tables.channel channel))
    rfl
  | listCommands channel =>
    refine hread (·.listCommands channel) (Tables.withOne_response (fun _ => ?_) (b.tables.channel channel))
    rfl
  | showCommand channel trigger =>
    refine hread (·.showCommand channel trigger) (Tables.withOne_response (fun c => ?_) (b.tables.channel channel))
    refine Tables.withOne_response (fun _ => ?_) (OwnedRow.find c.id trigger b.tables.commands)
    rfl
  | showRedeem channel title =>
    refine hread (·.showRedeem channel title) (Tables.withOne_response (fun c => ?_) (b.tables.channel channel))
    refine Tables.withOne_response (fun _ => ?_) (OwnedRow.find c.id title b.tables.redeems)
    rfl
  | showTarget channel user =>
    refine hread (·.showTarget channel user) (Tables.withOne_response (fun c => ?_) (b.tables.channel channel))
    refine Tables.withOne_response (fun _ => ?_) (b.tables.target c.id user)
    rfl
  | _ => exact h.elim

/-! ## Starts and callbacks -/

namespace Authorization

/-- Whether an application is configured, and its id, show nothing of its secret. -/
theorem application_alike (h : b.Alike b') {idKey secretKey : String} (hid : idKey ∉ secretKeys)
    (hsecret : secretKey ∈ secretKeys) :
    (application? b' idKey secretKey).map (·.1) = (application? b idKey secretKey).map (·.1) := by
  have hsome := h.settings.isSome_value? hsecret
  simp only [application?, Backend.setting?, h.settings.value? hid]
  cases b.settings.value? idKey with
  | none => rfl
  | some id =>
    cases hs : b.settings.value? secretKey <;> cases hs' : b'.settings.value? secretKey <;>
      rw [hs, hs'] at hsome <;> first | rfl | cases hsome

/-- The applications of two backends that are alike are both missing, or both there with one id. -/
theorem application_cases {app app' : Option (String × String)} (h : app'.map (·.1) = app.map (·.1)) :
    app = none ∧ app' = none ∨ ∃ id secret secret', app = some (id, secret) ∧ app' = some (id, secret') := by
  cases app with
  | none => exact .inl ⟨rfl, Option.map_eq_none_iff.mp h⟩
  | some a =>
    obtain ⟨id, secret⟩ := a
    obtain ⟨⟨_, secret'⟩, rfl, rfl⟩ := Option.map_eq_some_iff.mp h
    exact .inr ⟨_, secret, secret', rfl, rfl⟩

theorem botApplication_cases (h : b.Alike b') :
    botApplication? b = none ∧ botApplication? b' = none ∨
      ∃ id secret secret', botApplication? b = some (id, secret) ∧ botApplication? b' = some (id, secret') :=
  application_cases (application_alike h (by decide) (by decide))

theorem musicApplication_cases (h : b.Alike b') :
    musicApplication? b = none ∧ musicApplication? b' = none ∨
      ∃ id secret secret', musicApplication? b = some (id, secret) ∧ musicApplication? b' = some (id, secret') :=
  application_cases (application_alike h (by decide) (by decide))

theorem returnAddress_alike (h : b.Alike b') {key : String} (hkey : key ∉ secretKeys) (origin path : String) :
    returnAddress b' origin key path = returnAddress b origin key path := by
  rw [returnAddress, returnAddress, Backend.setting?, Backend.setting?, h.settings.value? hkey]

theorem botReturn_alike (h : b.Alike b') (origin : String) : botReturn b' origin = botReturn b origin :=
  returnAddress_alike h (by decide) origin _

theorem musicReturn_alike (h : b.Alike b') (origin : String) : musicReturn b' origin = musicReturn b origin :=
  returnAddress_alike h (by decide) origin _

theorem issue_alike (h : b.Alike b') (now : Moment) (p : Purpose) : AnsweredAlike (issue b now p) (issue b' now p) := by
  refine ⟨⟨h.tables, h.settings, ?_, ?_⟩, ?_⟩
  · simp only [issue, h.pending, h.issued]
  · simp only [issue, h.issued]
  · simp only [issue, h.issued]

theorem redeem_alike (h : b.Alike b') (state : String) : AnsweredAlike (redeem b state) (redeem b' state) := by
  refine ⟨⟨h.tables, h.settings, ?_, h.issued⟩, ?_⟩
  · simp only [redeem, h.pending]
  · simp only [redeem, h.pending]

theorem startBot_alike (h : b.Alike b') (now : Moment) (origin : String) :
    AnsweredAlike (startBot b now origin) (startBot b' now origin) := by
  obtain ⟨hends, hstate⟩ := issue_alike h.warm now .bot
  rw [startBot, startBot]
  dsimp only
  rcases botApplication_cases h.warm with ⟨happ, happ'⟩ | ⟨id, secret, secret', happ, happ'⟩
  · rw [happ, happ']
    exact ⟨h.warm, rfl⟩
  · rw [happ, happ']
    refine ⟨hends, ?_⟩
    simp only [hstate, botReturn_alike hends, hends.settings.pieces (by decide : "bot_app_scopes" ∉ secretKeys)]

theorem startMusic_alike (h : b.Alike b') (now : Moment) (origin channel : String) :
    AnsweredAlike (startMusic b now origin channel) (startMusic b' now origin channel) := by
  rw [startMusic, startMusic, h.channel]
  cases b.tables.channel channel with
  | absent => exact ⟨h, rfl⟩
  | ambiguous => exact ⟨h, rfl⟩
  | found c =>
    obtain ⟨hends, hstate⟩ := issue_alike h.warm now (.music c.name)
    dsimp only
    rcases musicApplication_cases h.warm with ⟨happ, happ'⟩ | ⟨id, secret, secret', happ, happ'⟩
    · rw [happ, happ']
      exact ⟨h.warm, rfl⟩
    · rw [happ, happ']
      refine ⟨hends, ?_⟩
      simp only [hstate, musicReturn_alike hends]

/-- What a trade gives depends on the answers alone, not on what was sent. -/
theorem tradeBot_answers (b b' : Backend) (origin id secret secret' code : String) (answers : List HttpOutcome) :
    (tradeBot b' origin id secret' code answers).1 = (tradeBot b origin id secret code answers).1 := by
  rw [tradeBot, tradeBot]
  dsimp only
  split <;> rfl

theorem finishBot_alike (h : b.Alike b') (now : Moment) (grant owner access : Value) :
    AnsweredAlike (finishBot b now grant owner access) (finishBot b' now grant owner access) := by
  have hprofile := h.withProfile
  rw [finishBot, finishBot]
  dsimp only
  split
  · exact ⟨hprofile, rfl⟩
  · exact ⟨⟨hprofile.tables, (hprofile.settings.set _).warm, hprofile.pending, hprofile.issued⟩, rfl⟩

theorem botCallback_alike (h : b.Alike b') (now : Moment) (origin : String) (answers : List HttpOutcome)
    (code state : String) :
    RepliedAlike (botCallback b now origin answers code state) (botCallback b' now origin answers code state) := by
  have htaken := (redeem_alike h.warm state).ends
  rw [botCallback_eq, botCallback_eq, (redeem_alike h state).answer]
  rcases botApplication_cases h with ⟨happ, happ'⟩ | ⟨id, secret, secret', happ, happ'⟩
  · rw [happ, happ']
    exact ⟨h.warm, rfl⟩
  · rw [happ, happ']
    cases (redeem b state).2 with
    | none => exact ⟨htaken, rfl⟩
    | some p =>
      cases p with
      | music name => exact ⟨htaken, rfl⟩
      | bot =>
        dsimp only
        rw [tradeBot_answers (redeem b.warm state).1 (redeem b'.warm state).1 origin id secret secret' code answers]
        split
        next => exact ⟨htaken, rfl⟩
        next grant access owner _ =>
          obtain ⟨hends, hpage⟩ := finishBot_alike htaken now grant owner access
          exact ⟨hends, hpage⟩

theorem musicCallback_alike (h : b.Alike b') (now : Moment) (origin : String) (answers : List HttpOutcome)
    (code state : String) :
    RepliedAlike (musicCallback b now origin answers code state) (musicCallback b' now origin answers code state) := by
  obtain ⟨htaken, hpurpose⟩ := redeem_alike h state
  rw [musicCallback_eq, musicCallback_eq, hpurpose]
  dsimp only
  split
  next name _ =>
    rw [h.channel]
    split
    next => exact ⟨htaken, rfl⟩
    next => exact ⟨htaken, rfl⟩
    next c _ =>
      split
      next => exact ⟨htaken.warm, rfl⟩
      next k _ =>
        obtain ⟨credentials, htables⟩ := h.tables
        have hput : b'.tables.putCredential c.id k = { b.tables.putCredential c.id k with
            credentials := (b'.tables.putCredential c.id k).credentials } := by
          rw [htables]
          rfl
        exact ⟨⟨⟨_, hput⟩, htaken.warm.settings, htaken.pending, htaken.issued⟩, rfl⟩
  next => exact ⟨htaken, rfl⟩

theorem comeBack_alike (h : b.Alike b') (now : Moment) (origin : String) (answers : List HttpOutcome)
    (code state : String) (f : Flow) :
    RepliedAlike (comeBack b now origin answers code state f) (comeBack b' now origin answers code state f) := by
  cases f with
  | bot => exact botCallback_alike h now origin answers code state
  | music => exact musicCallback_alike h now origin answers code state

end Authorization

/-! ## All requests without the token -/

theorem Backend.Alike.handle (h : b.Alike b') (now : Moment) (answers : List HttpOutcome) {r : Request}
    (hout : r.token ≠ some adminToken) : RepliedAlike (b.handle now answers r) (b'.handle now answers r) := by
  rcases r.dispatch now answers with ⟨response, hspot⟩ | ⟨e, -, hallowed, hserve⟩
  · rw [hspot, hspot]
    exact ⟨h, rfl⟩
  rw [hserve, hserve]
  rcases Endpoint.open_cases fun hguarded => hout (hallowed hguarded) with hreading | (rfl | ⟨channel, rfl⟩) | ⟨f, rfl⟩
  · refine ⟨?_, hreading.response h now answers r _⟩
    rw [hreading.serve, hreading.serve]
    exact h
  · obtain ⟨hends, hanswer⟩ := Authorization.startBot_alike h now r.origin
    exact ⟨hends, hanswer⟩
  · obtain ⟨hends, hanswer⟩ := Authorization.startMusic_alike h now r.origin channel
    exact ⟨hends, hanswer⟩
  · rw [Authorization.serve_callback, Authorization.serve_callback]
    rcases r.callback_cases with ⟨-, response, -, hspot⟩ | ⟨code, state, -, hcallback⟩
    · rw [hspot, hspot]
      exact ⟨h, rfl⟩
    · rw [hcallback, hcallback]
      exact Authorization.comeBack_alike h now r.origin answers code state f

/-- **Who has no token learns no secret.** Two backends that differ at most in secrets give the same
answers to every sequence of requests without the token, and end differing at most in secrets. -/
theorem secrets_stay_hidden (h : b.Alike b') {history : List Delivery}
    (hout : ∀ d ∈ history, d.request.token ≠ some adminToken) :
    AnsweredAlike (b.answerAll history) (b'.answerAll history) := by
  induction history generalizing b b' with
  | nil => exact ⟨h, rfl⟩
  | cons d rest ih =>
    obtain ⟨hends, hanswer⟩ := h.handle d.now d.answers (hout d List.mem_cons_self)
    dsimp only at hends hanswer
    obtain ⟨hfinal, hothers⟩ := ih hends fun e he => hout e (List.mem_cons_of_mem d he)
    rw [Backend.answerAll_cons, Backend.answerAll_cons, hanswer, hothers]
    exact ⟨hfinal, rfl⟩

/-- A music authorization, one that is made up, the start of a bot's and a look at its tokens, with one
set of secrets and with another. -/
theorem secrets_stay_hidden_swapped :
    let applications : SettingRows := [("twitch_client_id", some "cid"), ("spotify_client_id", some "sid")]
    let held (botSecret musicSecret token : String) : Backend :=
      let secrets :=
        Settings.put "spotify_client_secret" (some musicSecret)
          (Settings.put "twitch_client_secret" (some botSecret) applications)
      { tables := { channels := [⟨1, "chan", "!"⟩], credentials := [(1, ⟨some token, token, none⟩)] }
        settings := { rows := secrets }
        bot := some { access := some token }
        log := { history := [.str token] } }
    let history : List Delivery :=
      [⟨⟨0⟩, [], { method := "GET", target := "/spotify/auth/chan" }⟩,
        ⟨⟨1⟩, [.answered ⟨200, "", "\x7b\"refresh_token\": \"r\"\x7d"⟩],
          { method := "GET", target := "/spotify/callback?code=c&state=state-1" }⟩,
        ⟨⟨2⟩, [], { method := "GET", target := "/auth/callback?code=c&state=state-9" }⟩,
        ⟨⟨3⟩, [], { method := "GET", target := "/auth" }⟩,
        ⟨⟨4⟩, [], { method := "GET", target := "/bot/config", token := some "guess" }⟩]
    let b := held "one" "two" "three"
    let b' := held "four" "five" "six"
    b.Alike b' ∧ (∀ d ∈ history, d.request.token ≠ some adminToken) ∧
      AnsweredAlike (b.answerAll history) (b'.answerAll history) ∧
      (b.answerAll history).2.map (·.status) = [307, 200, 400, 307, 401] := by
  intro applications held history b b'
  have hrows : Settings.RowsAlike b.settings.rows b'.settings.rows :=
    ((Settings.RowsAlike.refl _).putSecret (by decide) (by decide)).putSecret (by decide) (by decide)
  have halike : b.Alike b' := ⟨⟨b'.tables.credentials, rfl⟩, ⟨hrows, hrows.withDefaults⟩, rfl, rfl⟩
  have hout : ∀ d ∈ history, d.request.token ≠ some adminToken := by decide
  exact ⟨halike, hout, secrets_stay_hidden halike hout, by decide +kernel⟩

end ChannelBot.Server
