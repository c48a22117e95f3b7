/-
The worker runs on what the backend stores. A configuration without one of the credentials is no account,
and the reason names those that are missing (`ofConfig_missing`); else the account is made of the fields
(`ofConfig_complete`). The fields that the backend shows are those that the worker looks at, so what the
worker makes of them is said by the stored profile and the rows of the settings
(`worker_reads_what_is_stored`).
-/
import ChannelBot.Proofs.Bot.Timeouts
import ChannelBot.Proofs.Server.Occasions
import ChannelBot.Proofs.Service.Fingerprint
import ChannelBot.Proofs.Store.Exchange

namespace ChannelBot

namespace Value

theorem ofText?_cases (o : Option String) : ofText? o = .null ∨ ∃ s, ofText? o = .str s := by
  cases o with
  | none => exact .inl rfl
  | some s => exact .inr ⟨s, rfl⟩

theorem orElse_ofText? (o : Option String) : ∃ s, (ofText? o).orElse (.str "") = .str s := by
  rcases ofText?_cases o with h | ⟨s, h⟩
  · exact ⟨"", by rw [h]; rfl⟩
  · rw [h, orElse]
    split
    · exact ⟨s, rfl⟩
    · exact ⟨"", rfl⟩

theorem same_ofText? (o : Option String) : (ofText? o).same (ofText? o) = true := by
  rcases ofText?_cases o with h | ⟨s, h⟩
  · rw [h]
    simp [same]
  · rw [h, same_text, decide_eq_true rfl]

end Value

namespace Account

/-! ## What is made of a configuration -/

/-- The credentials that a configuration must have, with what it has of them. -/
def credentials (config : List (String × Value)) : List (String × Option Value) :=
  [("access_token", first? config ["access_token", "token"]), ("refresh_token", first? config ["refresh_token"]),
    ("login", first? config ["login", "bot_login"]), ("client_id", first? config ["client_id"]),
    ("client_secret", first? config ["client_secret"]), ("bot_user_id", first? config ["bot_user_id", "bot_id"])]

/-- The reason to refuse a configuration that lacks credentials. -/
def lacking (names : List String) : String := "Missing bot credentials: " ++ String.intercalate ", " names

variable {config : List (String × Value)}

/-- Nothing but the configuration counts in an empty environment. -/
theorem ofConfig_missing (h : ∃ c ∈ credentials config, c.2 = none) :
    ofConfig {} (.obj config) = .error (lacking (((credentials config).filter (·.2.isNone)).map (·.1))) := by
  have hnone : ∀ x : Option Value, x.or (given? (.ofText? none)) = x := fun x => Option.or_none
  unfold ofConfig
  dsimp only
  rw [hnone, hnone, hnone]
  unfold credentials at h ⊢
  split
  next htoken hrefresh hlogin hid hsecret huser =>
    rw [htoken, hrefresh, hlogin, hid, hsecret, huser] at h
    simp at h
  next => rfl

/-- A configuration with all credentials is an account. -/
theorem ofConfig_complete {token refresh login clientId clientSecret botUserId : Value}
    (htoken : first? config ["access_token", "token"] = some token) (hrefresh : first? config ["refresh_token"] = some refresh)
    (hlogin : first? config ["login", "bot_login"] = some login) (hid : first? config ["client_id"] = some clientId)
    (hsecret : first? config ["client_secret"] = some clientSecret)
    (huser : first? config ["bot_user_id", "bot_id"] = some botUserId) :
    ofConfig {} (.obj config) = .ok {
      token := token
      refreshToken := refresh
      login := login
      clientId := clientId
      clientSecret := clientSecret
      botUserId := botUserId.display
      scopes := scopesOf ((Value.lookup? "scopes" config).getD .null)
      enabled := ((Value.lookup? "enabled" config).getD .null).holds
      superUser := (first? config ["super_user"]).getD .null
      integrations := integrationKeys.filterMap fun key => (first? config [key]).map fun v => (key, v.display) } := by
  have hnone : ∀ x : Option Value, x.or (given? (.ofText? none)) = x := fun x => Option.or_none
  unfold ofConfig
  dsimp only
  rw [hnone, hnone, hnone, htoken, hrefresh, hlogin, hid, hsecret, huser]
  rfl

/-- A list of words is read as those words. -/
theorem scopesOf_words (s : String) : scopesOf (.list ((Text.words s).map .str)) = Text.words s := by
  have hheld : ∀ v ∈ (Text.words s).map Value.str, v.holds = true := by
    intro v hv
    obtain ⟨w, hw, rfl⟩ := List.mem_map.mp hv
    have hword := (Text.isWord_of_mem_words hw).ne_nil
    have hne : ¬ w.isEmpty = true := fun hempty => hword (by rw [String.isEmpty_iff.mp hempty]; rfl)
    simpa [Value.holds] using hne
  rw [scopesOf, List.filter_eq_self.mpr hheld, List.map_map]
  exact List.map_id _

theorem given?_text (o : Option String) :
    (o.map Value.str).bind given? = if Server.Backend.isGiven o then o.map .str else none := by
  cases o with
  | none => rfl
  | some s => rfl

end Account

namespace Server.Backend

open Account (first? credentials)

/-! ## What is shown of what is stored -/

/-- The credentials that a backend stores, under the names that the worker knows them by. -/
def storedCredentials (b : Backend) (p : BotProfile) : List (String × Option String) :=
  [("access_token", p.access), ("refresh_token", p.refresh), ("login", p.login),
    ("client_id", b.setting? "twitch_client_id"), ("client_secret", b.setting? "twitch_client_secret"),
    ("bot_user_id", b.setting? "bot_user_id")]

/-- The names of the credentials that a backend lacks. -/
def missingCredentials (b : Backend) (p : BotProfile) : List String :=
  ((b.storedCredentials p).filter fun c => !isGiven c.2).map (·.1)

/-- A setting that is read is not empty. -/
theorem isGiven_setting? (b : Backend) (key : String) : isGiven (b.setting? key) = (b.setting? key).isSome := by
  rw [setting?, Settings.value?_eq, Settings.reading]
  cases hvalue : (b.settings.current.lookup key).join.bind Settings.filled? with
  | none => rfl
  | some text =>
    obtain ⟨v, -, hv⟩ := Option.bind_eq_some_iff.mp hvalue
    exact congrArg not (Settings.isEmpty_of_filled? hv)

/-- The worker finds the credentials that are stored and not empty; the backend uses none of their other names. -/
theorem credentials_profileTable (b : Backend) (p : BotProfile) :
    credentials (Value.present (b.profileTable p)) =
      (b.storedCredentials p).map fun c => (c.1, if isGiven c.2 then c.2.map .str else none) := by
  have htoken : (b.profileTable p).lookup "token" = none := rfl
  have hlogin : (b.profileTable p).lookup "bot_login" = none := rfl
  have huser : (b.profileTable p).lookup "bot_id" = none := rfl
  simp only [credentials, first?, lookup?_profileTable, htoken, hlogin, huser, Option.join_none, Option.bind_none,
    Option.or_none, storedCredentials, List.map_cons, List.map_nil, ← Account.given?_text]
  rfl

theorem missing_profileTable (b : Backend) (p : BotProfile) :
    ((credentials (Value.present (b.profileTable p))).filter (·.2.isNone)).map (·.1) = b.missingCredentials p := by
  have hnone : ∀ o : Option String, (if isGiven o then o.map Value.str else none).isNone = !isGiven o := by
    intro o
    cases o with
    | none => rfl
    | some s => cases hs : isGiven (some s) <;> rfl
  rw [credentials_profileTable, List.filter_map, List.map_map, missingCredentials]
  simp only [Function.comp_def, hnone]

/-! ## The account that the worker makes of it -/

/-- An account has what a backend stores. -/
structure Backs (b : Backend) (p : BotProfile) (a : Account) : Prop where
  token : a.token = .ofText? p.access
  refreshToken : a.refreshToken = .ofText? p.refresh
  login : a.login = .ofText? p.login
  clientId : a.clientId = .ofText? (b.setting? "twitch_client_id")
  clientSecret : a.clientSecret = .ofText? (b.setting? "twitch_client_secret")
  botUserId : b.setting? "bot_user_id" = some a.botUserId
  scopes : a.scopes = Text.words (p.scopes.getD "")
  enabled : a.enabled = p.enabled
  superUser : a.superUser = .ofText? (b.setting? "super_user")
  integrations : a.integrations = Account.integrationKeys.filterMap fun key => (b.setting? key).map (key, ·)

/-- Where no credential is missing, each is a text. -/
theorem exists_of_missing_nil {b : Backend} {p : BotProfile} (h : b.missingCredentials p = []) :
    ∀ c ∈ b.storedCredentials p, ∃ s, c.2 = some s ∧ isGiven (some s) = true := by
  intro c hc
  obtain ⟨name, text⟩ := c
  have hgiven : isGiven text = true := by
    by_contra hnot
    have hfound : name ∈ b.missingCredentials p :=
      List.mem_map.mpr ⟨(name, text), List.mem_filter.mpr ⟨hc, by simpa using hnot⟩, rfl⟩
    rw [h] at hfound
    cases hfound
  cases text with
  | none => cases hgiven
  | some s => exact ⟨s, rfl, hgiven⟩

/-- The worker's finding under a name of the table whose value is a setting. -/
theorem first?_setting (b : Backend) (p : BotProfile) {key : String}
    (hrow : (b.profileTable p).lookup key = some ((b.setting? key).map .str)) :
    first? (Value.present (b.profileTable p)) [key] = (b.setting? key).map .str := by
  rw [first?, first?, lookup?_profileTable, hrow, Option.or_none, Option.join_some, Account.given?_text, isGiven_setting?]
  cases b.setting? key <;> rfl

/-- A backend that lacks credentials gives the worker a reason, with their names. -/
theorem ofConfig_profileValue_missing {b : Backend} {p : BotProfile} (h : b.missingCredentials p ≠ []) :
    Account.ofConfig {} (b.profileValue p) = .error (Account.lacking (b.missingCredentials p)) := by
  rw [profileValue_eq, ← missing_profileTable] at *
  refine Account.ofConfig_missing ?_
  obtain ⟨name, hname⟩ := List.exists_mem_of_ne_nil _ h
  obtain ⟨c, hc, -⟩ := List.mem_map.mp hname
  obtain ⟨hc, hnone⟩ := List.mem_filter.mp hc
  exact ⟨c, hc, Option.isNone_iff_eq_none.mp hnone⟩

/-- A backend with all credentials gives the worker the account that it stores. -/
theorem ofConfig_profileValue_complete {b : Backend} {p : BotProfile} (h : b.missingCredentials p = []) :
    ∃ a, Account.ofConfig {} (b.profileValue p) = .ok a ∧ b.Backs p a := by
  have hfields := b.credentials_profileTable p
  have htexts := exists_of_missing_nil h
  simp only [storedCredentials, List.forall_mem_cons, List.not_mem_nil, false_imp_iff, implies_true, and_true] at htexts
  obtain ⟨⟨token, htoken, hgiven₁⟩, ⟨refresh, hrefresh, hgiven₂⟩, ⟨login, hlogin, hgiven₃⟩, ⟨id, hid, hgiven₄⟩,
    ⟨secret, hsecret, hgiven₅⟩, ⟨user, huser, hgiven₆⟩⟩ := htexts
  simp only [credentials, storedCredentials, List.map_cons, List.map_nil, htoken, hrefresh, hlogin, hid, hsecret, huser,
    hgiven₁, hgiven₂, hgiven₃, hgiven₄, hgiven₅, hgiven₆, if_true, Option.map_some, List.cons.injEq, Prod.mk.injEq,
    true_and, and_true] at hfields
  obtain ⟨hfirst₁, hfirst₂, hfirst₃, hfirst₄, hfirst₅, hfirst₆⟩ := hfields
  rw [profileValue_eq, Account.ofConfig_complete hfirst₁ hfirst₂ hfirst₃ hfirst₄ hfirst₅ hfirst₆]
  refine ⟨_, rfl, {
    token := by rw [htoken]; rfl
    refreshToken := by rw [hrefresh]; rfl
    login := by rw [hlogin]; rfl
    clientId := by rw [hid]; rfl
    clientSecret := by rw [hsecret]; rfl
    botUserId := huser
    scopes := ?_
    enabled := ?_
    superUser := ?_
    integrations := ?_ }⟩
  · dsimp only
    rw [lookup?_profileTable]
    exact Account.scopesOf_words _
  · dsimp only
    rw [lookup?_profileTable]
    rfl
  · rw [b.first?_setting p rfl]
    cases b.setting? "super_user" <;> rfl
  · refine List.filterMap_congr fun key hkey => ?_
    have hrow : (b.profileTable p).lookup key = some ((b.setting? key).map .str) := by
      simp only [Account.integrationKeys, List.mem_cons, List.not_mem_nil, or_false] at hkey
      rcases hkey with rfl | rfl | rfl | rfl <;> rfl
    rw [b.first?_setting p hrow, Option.map_map]
    rfl

theorem Backs.isTyped {b : Backend} {p : BotProfile} {a : Account} (h : b.Backs p a) : a.IsTyped where
  token := h.token ▸ Value.ofText?_cases p.access
  superUser := h.superUser ▸ Value.ofText?_cases _
  keys := by
    rw [h.integrations, List.map_filterMap]
    have hkeys : (Account.integrationKeys.filterMap fun key => ((b.setting? key).map (key, ·)).map Prod.fst) =
        Account.integrationKeys.filter fun key => (b.setting? key).isSome := by
      rw [← List.filterMap_eq_filter]
      refine List.filterMap_congr fun key _ => ?_
      cases hkey : b.setting? key <;> simp [Option.guard, hkey]
    rw [hkeys]
    exact List.Nodup.filter _ (by decide)

/-- A poll that finds the same account finds one that its bot serves. -/
theorem Backs.matches_self {b : Backend} {p : BotProfile} {a : Account} (h : b.Backs p a) (htoken : a.token.holds = true) :
    a.Matches a where
  token := by
    rcases h.isTyped.token with hnull | ⟨token, htext⟩
    · rw [hnull] at htoken
      cases htoken
    · exact ⟨token, token, htext, htext, rfl⟩
  refreshToken := by
    obtain ⟨s, hs⟩ := Value.orElse_ofText? p.refresh
    rw [h.refreshToken, hs, Value.same_text, decide_eq_true rfl]
  login := by rw [h.login, Value.same_ofText?]
  clientId := by rw [h.clientId, Value.same_ofText?]
  clientSecret := by rw [h.clientSecret, Value.same_ofText?]
  botUserId := rfl
  scopes := .refl _
  superUser := by
    obtain ⟨s, hs⟩ := Value.orElse_ofText? (b.setting? "super_user")
    rw [h.superUser]
    exact ⟨s, s, hs, hs, rfl⟩
  integrations := .refl _

/-- An account that a backend stores has a fingerprint, which fits itself. -/
theorem Backs.exists_fingerprint {b : Backend} {p : BotProfile} {a : Account} (h : b.Backs p a)
    (hcomplete : b.missingCredentials p = []) : ∃ mark, a.fingerprint = .ok mark ∧ mark.fits mark = true := by
  obtain ⟨token, htoken, hgiven⟩ := exists_of_missing_nil hcomplete ("access_token", p.access) List.mem_cons_self
  have hheld : a.token.holds = true := by
    rw [h.token, show p.access = some token from htoken]
    exact hgiven
  obtain ⟨mark, hmark⟩ := h.isTyped.exists_fingerprint hheld
  exact ⟨mark, hmark, Account.fits_of_matches hmark hmark h.isTyped.keys (h.matches_self hheld)⟩

/-! ## Polls -/

/-- What the worker makes of the backend's answer to its question for the configuration. -/
def polled (b : Backend) (now : Moment) (answers : List HttpOutcome) : Except Fault (Except String Account) :=
  (StoreQuery.botConfig.decode (.answered (b.handle now answers StoreQuery.botConfig.sent).2.response.http) :
    Except Fault Value).map (Account.ofConfig {})

theorem handle_botConfig (b : Backend) (now : Moment) (answers : List HttpOutcome) :
    b.handle now answers StoreQuery.botConfig.sent = replying b.showProfile :=
  b.handle_plain now answers (e := .showProfile) (by decide +kernel) (fun _ => rfl) rfl

/-- The worker reads the configuration of the account, which is created if there is none. -/
theorem polled_eq (b : Backend) (now : Moment) (answers : List HttpOutcome) :
    b.polled now answers = .ok (Account.ofConfig {} (b.withProfile.1.profileValue b.withProfile.2)) := by
  have hresponse : (b.handle now answers StoreQuery.botConfig.sent).2.response.http =
      ⟨200, "application/json", (b.withProfile.1.profileValue b.withProfile.2).write Value.compact⟩ := by
    rw [handle_botConfig]
    rfl
  have hdecoded := StoreQuery.content_ok StoreQuery.botConfig.request
    (isPlain_profileValue b.withProfile.1 b.withProfile.2)
  rw [polled, hresponse]
  exact congrArg (Except.map (Account.ofConfig {})) hdecoded

/-- The settings that a reader sees are those of the rows. -/
theorem setting?_of_rows {b b' : Backend} (h : b.settings.Coherent) (h' : b'.settings.Coherent)
    (hrows : b'.settings.rows = b.settings.rows) : b'.setting? = b.setting? := by
  funext key
  rw [setting?, setting?, h'.value?_eq, h.value?_eq, hrows]

/-- A poll finds the account that is kept from then on. -/
theorem polled_of_bot {b : Backend} {p : BotProfile} (h : b.bot = some p) (now : Moment) (answers : List HttpOutcome) :
    b.polled now answers = .ok (Account.ofConfig {} (b.profileValue p)) := by
  have hprofile : b.withProfile = (b, p) := by rw [withProfile, h]
  rw [polled_eq, hprofile]

/-- **The worker reads what the backend stores.** Whatever happened to a backend, the worker that asks it
for the configuration, without anything in its own environment, is told which credentials are empty in it,
in order, or gets the account that is stored, in which blank settings are absent; such an account has a
fingerprint, which fits itself. Asking changes nothing, except that the account is created if there was
none, and whoever asks again while account and settings are the same finds the very same. -/
theorem worker_reads_what_is_stored {b : Backend} (hcold : b.settings.cached = none) (occasions : List Occasion)
    (now : Moment) (answers : List HttpOutcome) :
    let held := b.undergoAll occasions
    let left := (held.handle now answers StoreQuery.botConfig.sent).1
    held.Unchanged left ∧ ∃ p, left.bot = some p ∧
      (left.fresh.missingCredentials p ≠ [] →
        held.polled now answers = .ok (.error (Account.lacking (left.fresh.missingCredentials p)))) ∧
      (left.fresh.missingCredentials p = [] → ∃ a, held.polled now answers = .ok (.ok a) ∧ left.fresh.Backs p a ∧
        ∃ mark, a.fingerprint = .ok mark ∧ mark.fits mark = true) ∧
      ∀ (later : List Occasion) (now' : Moment) (answers' : List HttpOutcome),
        (left.undergoAll later).bot = left.bot → (left.undergoAll later).settings.rows = left.settings.rows →
        (left.undergoAll later).polled now' answers' = held.polled now answers := by
  intro held left
  have hheld : held.settings.Coherent := undergoAll_coherent (Settings.coherent_of_cold hcold) occasions
  have hleft : left = held.withProfile.1.warm := by
    show (held.handle now answers StoreQuery.botConfig.sent).1 = _
    rw [handle_botConfig]
    rfl
  clear_value left held
  have hsame := held.withProfile.1.agrees_warm
  rw [← hleft] at hsame
  have hunchanged : held.Unchanged left := by
    have hprofile := held.withProfile_unchanged
    exact ⟨hsame.tables.trans hprofile.tables, by rw [hsame.bot]; exact hprofile.bot,
      hsame.settings.rows.trans hprofile.rows, hsame.settings.current.trans hprofile.settings, hsame.log.trans hprofile.log⟩
  have hcoherent : left.settings.Coherent := hheld.of_agrees hunchanged.agrees
  have hbot : left.bot = some held.withProfile.2 := hsame.bot.trans held.withProfile_bot
  have hpolled : held.polled now answers = .ok (Account.ofConfig {} (left.fresh.profileValue held.withProfile.2)) := by
    rw [polled_eq, ← hsame.profileValue_eq, (agrees_fresh hcoherent).profileValue_eq]
  refine ⟨hunchanged, held.withProfile.2, hbot, fun hmissing => ?_, fun hcomplete => ?_, fun later now' answers' hbot' hrows => ?_⟩
  · rw [hpolled, ofConfig_profileValue_missing hmissing]
  · obtain ⟨a, ha, hbacks⟩ := ofConfig_profileValue_complete hcomplete
    exact ⟨a, by rw [hpolled, ha], hbacks, hbacks.exists_fingerprint hcomplete⟩
  · have hagain := setting?_of_rows hcoherent (undergoAll_coherent hcoherent later) hrows
    rw [polled_of_bot (hbot'.trans hbot), hpolled, profileValue_congr hagain,
      (agrees_fresh hcoherent).profileValue_eq]

theorem missingCredentials_congr {b b' : Backend} (h : b'.setting? = b.setting?) (p : BotProfile) :
    b'.missingCredentials p = b.missingCredentials p := by
  rw [missingCredentials, missingCredentials, storedCredentials, storedCredentials, h]

/-- A worker that finds an account, twice, and one that finds a backend of which nobody set anything. -/
theorem worker_reads_what_is_stored_each :
    let p : BotProfile := { login := some "bot", scopes := some "a b", access := some "x", refresh := some "y", enabled := true }
    let rows : SettingRows := [("twitch_client_id", some "id"), ("twitch_client_secret", some " secret "),
      ("bot_user_id", some "7"), ("super_user", some " ")]
    let b : Backend := { bot := some p, settings := { rows := rows } }
    let left := (b.handle ⟨0⟩ [] StoreQuery.botConfig.sent).1
    (b.settings.cached = none ∧ left.fresh.missingCredentials p = [] ∧ (left.undergoAll [.read]).bot = left.bot ∧
      (left.undergoAll [.read]).settings.rows = left.settings.rows) ∧
    (∃ a mark, b.polled ⟨0⟩ [] = .ok (.ok a) ∧ (left.undergoAll [.read]).polled ⟨1⟩ [] = .ok (.ok a) ∧
      a.fingerprint = .ok mark ∧ mark.fits mark = true ∧ a.clientSecret = .str "secret" ∧ a.superUser = .null ∧
      a.scopes = ["a", "b"]) ∧
    ({} : Backend).polled ⟨0⟩ [] = .ok (.error
      "Missing bot credentials: access_token, refresh_token, login, client_id, client_secret, bot_user_id") := by
  intro p rows b
  have hsome := worker_reads_what_is_stored (b := b) rfl [] ⟨0⟩ []
  have hnone := worker_reads_what_is_stored (b := {}) rfl [] ⟨0⟩ []
  have hstart : ∀ c : Backend, c.undergoAll [] = c := fun _ => rfl
  dsimp only at hsome hnone ⊢
  rw [hstart] at hsome hnone
  revert hsome hnone
  generalize (b.handle ⟨0⟩ [] StoreQuery.botConfig.sent).1 = left
  generalize (({} : Backend).handle ⟨0⟩ [] StoreQuery.botConfig.sent).1 = bare
  rintro ⟨hleft, p₁, hbot₁, -, hcomplete, hagain⟩ ⟨hbare, p₂, hbot₂, hmissing, -⟩
  have hkept : left.bot = some p := by
    rcases hleft.bot with hbot | ⟨hnobody, -⟩
    · exact hbot
    · cases hnobody
  obtain rfl : p = p₁ := Option.some.inj (hkept.symm.trans hbot₁)
  have hsetting : left.fresh.setting? = b.setting? :=
    setting?_of_rows (Settings.coherent_of_cold rfl) (Settings.coherent_of_cold rfl) hleft.rows
  have hnobody : bare.fresh.setting? = ({} : Backend).setting? :=
    setting?_of_rows (Settings.coherent_of_cold rfl) (Settings.coherent_of_cold rfl) hbare.rows
  have hall : left.fresh.missingCredentials p = [] := (missingCredentials_congr hsetting p).trans (by decide +kernel)
  obtain ⟨a, ha, hbacks, mark, hmark, hfits⟩ := hcomplete hall
  have hcold : left.undergoAll [.read] = left.warm := rfl
  rw [hcold]
  refine ⟨⟨rfl, hall, rfl, rfl⟩, ⟨a, mark, ha, (hagain [.read] ⟨1⟩ [] rfl rfl).trans ha, hmark, hfits, ?_, ?_, ?_⟩, ?_⟩
  · rw [hbacks.clientSecret, hsetting]
    decide +kernel
  · rw [hbacks.superUser, hsetting]
    decide +kernel
  · rw [hbacks.scopes]
    decide +kernel
  · have hcreated : p₂ = { scopes := scopesText? (({} : Backend).settings.pieces "bot_app_scopes") } := by
      rcases hbare.bot with hbot | ⟨-, hbot⟩
      · rw [hbot₂] at hbot
        cases hbot
      · exact Option.some.inj (hbot₂.symm.trans hbot)
    have hnames : bare.fresh.missingCredentials p₂ =
        ["access_token", "refresh_token", "login", "client_id", "client_secret", "bot_user_id"] := by
      rw [missingCredentials_congr hnobody, hcreated]
      decide +kernel
    rw [hmissing (by rw [hnames]; exact List.cons_ne_nil _ _), hnames]
    rfl

end Server.Backend

end ChannelBot
