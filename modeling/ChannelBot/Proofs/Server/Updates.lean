/-
Updates of the bot's configuration: parts of it to change, or new tokens. An update carries some entries of the
configuration, and writes just those (`Backend.kept_updated`); all else that the backend holds stays
(`Backend.updated_spares`). So an entry is what the last update that carried it made it, and updates that carry
nothing in common can change places (`Backend.updated_comm`).
-/
import ChannelBot.Proofs.Server.ScopeStorage

namespace ChannelBot.Server

open Settings (filled?)

/-! ## Entries -/

/-- The entries of the bot's configuration. -/
inductive Entry where
  | enabled
  | scopes
  | displayName
  | login
  | userId
  | access
  | refresh
  | expiresAt
  deriving Repr, DecidableEq

/-- What is kept in an entry. -/
abbrev Entry.Kept : Entry → Type
  | .enabled => Bool
  | .expiresAt => Option Moment
  | .scopes | .displayName | .login | .userId | .access | .refresh => Option String

/-- An update of the bot's configuration. -/
inductive Update where
  /-- Parts of it to change. -/
  | change (c : BotChange)
  /-- New tokens. -/
  | renew (c : BotTokens)
  deriving Repr, DecidableEq

/-- What an update carries for an entry, as it is kept: a text trimmed, a blank one as none, and scopes in the
one text that keeps them. Blank scopes that come along with tokens are not carried. -/
def Update.carried? : Update → (e : Entry) → Option e.Kept
  | .change c, .enabled => c.enabled
  | .change c, .scopes => c.scopes.map fun scopes => Backend.scopesText? (Scope.normalize scopes)
  | .change c, .displayName => c.displayName.map filled?
  | .change c, .login => c.login.map filled?
  | .change c, .userId => c.botUserId.map filled?
  | .change _, .access | .change _, .refresh | .change _, .expiresAt => none
  | .renew c, .access => some (some c.access)
  | .renew c, .refresh => some (some c.refresh)
  | .renew c, .expiresAt => some (c.expiresAt.map (·.shown))
  | .renew c, .scopes => (Backend.scopesText? (Scope.normalize c.scopes)).map some
  | .renew _, .enabled | .renew _, .displayName | .renew _, .login | .renew _, .userId => none

/-- A request asks for an update. -/
def Request.Updates (r : Request) : Update → Prop
  | .change c => r.Changes c
  | .renew c => r.Renews c

/-- An entry of an account; the number of its user is kept apart from it. -/
def BotProfile.entry (p : BotProfile) (userId : Option String) : (e : Entry) → e.Kept
  | .enabled => p.enabled
  | .scopes => p.scopes
  | .displayName => p.displayName
  | .login => p.login
  | .userId => userId
  | .access => p.access
  | .refresh => p.refresh
  | .expiresAt => p.expiresAt

/-- An entry of the configuration, as whoever asks for it gets it. -/
def Backend.kept (b : Backend) (e : Entry) : e.Kept := b.withProfile.2.entry b.userId e

/-! ## What an update carries -/

/-- The field of a body that tells about an entry. -/
def Entry.key : Entry → String
  | .enabled => "enabled"
  | .scopes => "scopes"
  | .displayName => "display_name"
  | .login => "login"
  | .userId => "bot_user_id"
  | .access => "access_token"
  | .refresh => "refresh_token"
  | .expiresAt => "expires_at"

/-- What is kept in an entry for the value of its field. -/
def Entry.Keeps : (e : Entry) → Value → e.Kept → Prop
  | .enabled, v, kept => Checked.truth v = .valid kept
  | .scopes, v, kept =>
    ∃ scopes, v = .list (scopes.map .str) ∧ kept = Backend.scopesText? (Scope.normalize scopes)
  | .displayName, v, kept | .login, v, kept | .userId, v, kept => ∃ text, v = .str text ∧ kept = filled? text
  | .access, v, kept | .refresh, v, kept => ∃ text, v = .str text ∧ kept = some text
  | .expiresAt, v, kept => ∃ time, Checked.time v = .valid time ∧ kept = some time.shown

/-- A field has a value that is not null, and that is what is to be kept. -/
def Entry.GivenBy (e : Entry) (fields : List (String × Value)) (kept : e.Kept) : Prop :=
  ∃ v, Value.lookup? e.key fields = some v ∧ v ≠ .null ∧ e.Keeps v kept

/-- The body of a change tells what is to be kept in an entry. -/
def Entry.ChangedBy (fields : List (String × Value)) : (e : Entry) → e.Kept → Prop
  | .access, _ | .refresh, _ | .expiresAt, _ => False
  | e, kept => e.GivenBy fields kept

/-- The body of new tokens tells what is to be kept in an entry: no expiry if none is given, and scopes if one of
them is not blank. -/
def Entry.RenewedBy (fields : List (String × Value)) : (e : Entry) → e.Kept → Prop
  | .access, kept => Entry.access.GivenBy fields kept
  | .refresh, kept => Entry.refresh.GivenBy fields kept
  | .expiresAt, kept =>
    Entry.expiresAt.GivenBy fields kept ∨ kept = none ∧ ∀ time, ¬ Entry.expiresAt.GivenBy fields time
  | .scopes, kept => Entry.scopes.GivenBy fields kept ∧
    ∃ scopes : List String, Value.lookup? "scopes" fields = some (.list (scopes.map .str)) ∧
      ∃ e ∈ scopes, Text.trim e ≠ ""
  | .enabled, _ | .displayName, _ | .login, _ | .userId, _ => False

theorem BotChange.read_fields {body : List (String × Value)} {c : BotChange} (h : BotChange.read body = .valid c) :
    Checked.optional "enabled" none (Checked.orNull Checked.truth) body = .valid c.enabled ∧
    Checked.optional "scopes" none (Checked.orNull Checked.texts) body = .valid c.scopes ∧
    Checked.optional "display_name" none (Checked.orNull Checked.text) body = .valid c.displayName ∧
    Checked.optional "login" none (Checked.orNull Checked.text) body = .valid c.login ∧
    Checked.optional "bot_user_id" none (Checked.orNull Checked.text) body = .valid c.botUserId := by
  simp only [BotChange.read, Checked.also_eq_valid_iff, Checked.map_eq_valid_iff] at h
  obtain ⟨_, userId, ⟨_, login, ⟨_, displayName, ⟨_, scopes, ⟨enabled, henabled, rfl⟩, hscopes, rfl⟩, hdisplay, rfl⟩,
    hlogin, rfl⟩, huser, rfl⟩ := h
  exact ⟨henabled, hscopes, hdisplay, hlogin, huser⟩

theorem BotTokens.read_fields {body : List (String × Value)} {c : BotTokens} (h : BotTokens.read body = .valid c) :
    Checked.required "access_token" Checked.text body = .valid c.access ∧
    Checked.required "refresh_token" Checked.text body = .valid c.refresh ∧
    Checked.optional "expires_at" none (Checked.orNull Checked.time) body = .valid c.expiresAt ∧
    Checked.optional "scopes" [] Checked.texts body = .valid c.scopes := by
  simp only [BotTokens.read, Checked.also_eq_valid_iff, Checked.map_eq_valid_iff] at h
  obtain ⟨_, scopes, ⟨_, expiry, ⟨_, refresh, ⟨access, haccess, rfl⟩, hrefresh, rfl⟩, hexpiry, rfl⟩, hscopes, rfl⟩ := h
  exact ⟨haccess, hrefresh, hexpiry, hscopes⟩

/-- A text that was read is carried trimmed. -/
theorem carried_text {key : String} {fields : List (String × Value)} {text : Option String}
    (h : Checked.optional key none (Checked.orNull Checked.text) fields = .valid text) (kept : Option String) :
    text.map filled? = some kept ↔
      ∃ v, Value.lookup? key fields = some v ∧ v ≠ .null ∧ ∃ s, v = .str s ∧ kept = filled? s := by
  rw [Option.map_eq_some_iff]
  constructor
  · rintro ⟨s, hs, rfl⟩
    obtain ⟨v, hfound, hgiven, hsays⟩ := (Checked.optional_orNull h s).mp hs
    exact ⟨v, hfound, hgiven, s, Checked.text_eq_valid_iff.mp hsays, rfl⟩
  · rintro ⟨v, hfound, hgiven, s, hv, hkept⟩
    exact ⟨s, (Checked.optional_orNull h s).mpr ⟨v, hfound, hgiven, Checked.text_eq_valid_iff.mpr hv⟩, hkept.symm⟩

/-- A change carries just what its body tells. -/
theorem carried_change_iff {fields : List (String × Value)} {c : BotChange} (h : BotChange.read fields = .valid c)
    (e : Entry) (kept : e.Kept) : (Update.change c).carried? e = some kept ↔ e.ChangedBy fields kept := by
  obtain ⟨henabled, hscopes, hdisplay, hlogin, huser⟩ := BotChange.read_fields h
  cases e with
  | enabled => exact Checked.optional_orNull henabled kept
  | scopes =>
    show c.scopes.map _ = some kept ↔ _
    rw [Option.map_eq_some_iff]
    constructor
    · rintro ⟨scopes, hs, rfl⟩
      obtain ⟨v, hfound, hgiven, hsays⟩ := (Checked.optional_orNull hscopes scopes).mp hs
      exact ⟨v, hfound, hgiven, scopes, Checked.texts_eq_valid_iff.mp hsays, rfl⟩
    · rintro ⟨v, hfound, hgiven, scopes, hv, rfl⟩
      have hsays := Checked.texts_eq_valid_iff.mpr hv
      exact ⟨scopes, (Checked.optional_orNull hscopes scopes).mpr ⟨v, hfound, hgiven, hsays⟩, rfl⟩
  | displayName => exact carried_text hdisplay kept
  | login => exact carried_text hlogin kept
  | userId => exact carried_text huser kept
  | access | refresh | expiresAt => exact iff_of_false (by simp [Update.carried?]) id

/-- A text that must be there is carried as it is. -/
theorem carried_token {key text : String} {fields : List (String × Value)}
    (h : Checked.required key Checked.text fields = .valid text) (kept : Option String) :
    some (some text) = some kept ↔
      ∃ v, Value.lookup? key fields = some v ∧ v ≠ .null ∧ ∃ s, v = .str s ∧ kept = some s := by
  obtain ⟨v, hfound, hv⟩ := Checked.required_eq_valid_iff.mp h
  obtain rfl := Checked.text_eq_valid_iff.mp hv
  rw [hfound]
  constructor
  · intro hkept
    exact ⟨_, rfl, by simp, text, rfl, (Option.some.inj hkept).symm⟩
  · rintro ⟨_, hsame, -, s, rfl, rfl⟩
    obtain rfl := Value.str.inj (Option.some.inj hsame)
    rfl

theorem texts_inj {found : Option Value} {texts texts' : List String} (h : found = some (.list (texts.map .str)))
    (h' : found = some (.list (texts'.map .str))) : texts' = texts :=
  List.map_injective_iff.mpr (fun _ _ => Value.str.inj) (Value.list.inj (Option.some.inj (h'.symm.trans h)))

/-- New tokens carry just what their body tells. -/
theorem carried_renew_iff {fields : List (String × Value)} {c : BotTokens} (h : BotTokens.read fields = .valid c)
    (e : Entry) (kept : e.Kept) : (Update.renew c).carried? e = some kept ↔ e.RenewedBy fields kept := by
  obtain ⟨haccess, hrefresh, hexpiry, hscopes⟩ := BotTokens.read_fields h
  cases e with
  | access => exact carried_token haccess kept
  | refresh => exact carried_token hrefresh kept
  | expiresAt =>
    have hread := Checked.optional_orNull hexpiry
    have hgiven : ∀ kept, Entry.expiresAt.GivenBy fields kept ↔ ∃ t, c.expiresAt = some t ∧ kept = some t.shown := by
      intro kept
      constructor
      · rintro ⟨v, hfound, hv, t, hsays, rfl⟩
        exact ⟨t, (hread t).mpr ⟨v, hfound, hv, hsays⟩, rfl⟩
      · rintro ⟨t, ht, rfl⟩
        obtain ⟨v, hfound, hv, hsays⟩ := (hread t).mp ht
        exact ⟨v, hfound, hv, t, hsays, rfl⟩
    show some (c.expiresAt.map _) = some kept ↔ _ ∨ kept = none ∧ _
    simp only [hgiven]
    cases c.expiresAt with
    | none => simp [eq_comm]
    | some t => simp [eq_comm]
  | scopes =>
    show (Backend.scopesText? (Scope.normalize c.scopes)).map some = some kept ↔ _ ∧ _
    have hfilled : Backend.scopesText? (Scope.normalize c.scopes) ≠ none ↔ ∃ e ∈ c.scopes, Text.trim e ≠ "" :=
      Backend.scopesText?_normalize_ne_none
    rw [Checked.optional, Checked.under_eq_valid_iff] at hscopes
    cases hfound : Value.lookup? "scopes" fields with
    | none =>
      rw [hfound] at hscopes
      rw [← Checked.valid.inj hscopes]
      have hlacking : ¬ Entry.scopes.GivenBy fields kept := by
        rintro ⟨v, hv, -⟩
        cases hfound.symm.trans hv
      refine iff_of_false (fun hkept => ?_) fun h => hlacking h.1
      cases hkept
    | some v =>
      rw [hfound] at hscopes
      obtain rfl := Checked.texts_eq_valid_iff.mp hscopes
      constructor
      · intro hkept
        obtain ⟨text, htext, rfl⟩ := Option.map_eq_some_iff.mp hkept
        have hnotBlank := hfilled.mp (htext ▸ Option.some_ne_none text)
        exact ⟨⟨_, hfound, by simp, c.scopes, rfl, htext.symm⟩, c.scopes, rfl, hnotBlank⟩
      · rintro ⟨⟨_, hv, -, scopes, rfl, rfl⟩, scopes', hv', he⟩
        obtain rfl := (texts_inj hfound hv).symm
        obtain rfl := (texts_inj rfl hv').symm
        obtain ⟨text, htext⟩ := Option.ne_none_iff_exists'.mp (hfilled.mpr he)
        rw [htext]
        rfl
  | enabled | displayName | login | userId => exact iff_of_false (by simp [Update.carried?]) id

/-! ## What an update makes of a backend -/

/-- An account after an update. -/
def Update.applied (u : Update) (p : BotProfile) : BotProfile where
  login := (u.carried? .login).getD p.login
  displayName := (u.carried? .displayName).getD p.displayName
  scopes := (u.carried? .scopes).getD p.scopes
  access := (u.carried? .access).getD p.access
  refresh := (u.carried? .refresh).getD p.refresh
  expiresAt := (u.carried? .expiresAt).getD p.expiresAt
  enabled := (u.carried? .enabled).getD p.enabled

/-- The rows of the settings after an update. -/
def Update.noted (u : Update) (rows : SettingRows) : SettingRows :=
  match u.carried? .userId with
  | some id => Settings.put "bot_user_id" id rows
  | none => rows

/-- Settings that were just read. -/
def Settings.seen (rows : SettingRows) : Settings := { rows := rows, cached := some (withDefaults rows) }

/-- A backend after an update. -/
def Backend.updated (b : Backend) (u : Update) : Backend :=
  { b with settings := .seen (u.noted b.settings.rows), bot := some (u.applied b.withProfile.2) }

namespace Backend

variable {b : Backend} {d : Delivery} {u : Update}

/-- The account is found, or made; nothing but it and what was read of the settings can differ. -/
theorem exists_withProfile (b : Backend) :
    ∃ s p, b.withProfile = ({ b with settings := s, bot := some p }, p) := by
  rw [withProfile]
  split
  next p hbot => exact ⟨b.settings, p, by rw [← hbot]⟩
  next => exact ⟨b.settings.warm, _, rfl⟩

theorem warm_eq_seen {s : Settings} (h : s.Coherent) : s.warm = .seen s.rows := by
  rw [Settings.Coherent] at h
  rw [Settings.warm, h, Settings.seen]

theorem warm_set (s : Settings) (key text : String) :
    (s.set [(key, some text)]).warm = .seen (Settings.put key (filled? text) s.rows) := by
  have hrows : (s.set [(key, some text)]).rows = Settings.put key (filled? text) s.rows := by
    simp only [Settings.set, List.foldl_cons, List.foldl_nil, Option.bind_some]
  rw [warm_eq_seen (Settings.coherent_of_cold rfl), hrows]

/-- The account after a change. -/
theorem changeProfile_bot (b : Backend) (c : BotChange) :
    (b.changeProfile c).1.bot = some ((Update.change c).applied b.withProfile.2) := by
  obtain ⟨enabled, scopes, displayName, login, userId⟩ := c
  rw [changeProfile, Update.applied]
  generalize b.withProfile = found
  obtain ⟨b', p⟩ := found
  dsimp only [Update.carried?]
  cases scopes <;> cases displayName <;> cases login <;>
    dsimp only [Option.map_some, Option.map_none, Option.getD_some, Option.getD_none] <;> rfl

/-- The account after new tokens. -/
theorem changeTokens_bot (b : Backend) (c : BotTokens) :
    (b.changeTokens c).1.bot = some ((Update.renew c).applied b.withProfile.2) := by
  rw [changeTokens, Update.applied]
  generalize b.withProfile = found
  obtain ⟨b', p⟩ := found
  dsimp only [Update.carried?]
  cases scopesText? (Scope.normalize c.scopes) <;> rfl

theorem changeProfile_settings (h : b.settings.Coherent) (c : BotChange) :
    (b.changeProfile c).1.settings = .seen ((Update.change c).noted b.settings.rows) := by
  obtain ⟨enabled, scopes, displayName, login, userId⟩ := c
  have hrows := b.withProfile_unchanged.rows
  cases userId with
  | none =>
    show b.withProfile.1.settings.warm = _
    rw [warm_eq_seen (h.of_agrees b.withProfile_unchanged.agrees), hrows]
    rfl
  | some id =>
    show (b.withProfile.1.settings.set [("bot_user_id", some id)]).warm = _
    rw [warm_set, hrows]
    rfl

/-- What is held after a request that leaves the account and the settings as they are to be after an update. -/
theorem eq_updated {b' : Backend} (hrest : b' = { b with settings := b'.settings, bot := b'.bot })
    (hsettings : b'.settings = .seen (u.noted b.settings.rows)) (hbot : b'.bot = some (u.applied b.withProfile.2)) :
    b' = b.updated u := by
  rw [hsettings, hbot] at hrest
  exact hrest

theorem changeProfile_eq (h : b.settings.Coherent) (c : BotChange) : (b.changeProfile c).1 = b.updated (.change c) := by
  refine eq_updated ?_ (changeProfile_settings h c) (b.changeProfile_bot c)
  obtain ⟨s, p, hends⟩ := b.exists_withProfile
  obtain ⟨enabled, scopes, displayName, login, userId⟩ := c
  rw [changeProfile, hends]
  cases userId <;> rfl

theorem changeTokens_eq (h : b.settings.Coherent) (c : BotTokens) : (b.changeTokens c).1 = b.updated (.renew c) := by
  refine eq_updated ?_ ?_ (b.changeTokens_bot c)
  · obtain ⟨s, p, hends⟩ := b.exists_withProfile
    rw [changeTokens, hends]
    rfl
  · show b.withProfile.1.settings.warm = _
    rw [warm_eq_seen (h.of_agrees b.withProfile_unchanged.agrees), b.withProfile_unchanged.rows]
    rfl

/-- A request for an update is answered with the configuration, and leaves what the update makes of the backend. -/
theorem undergo_update (h : b.settings.Coherent) (hu : d.request.Updates u) :
    b.undergo (.asked d) = b.updated u ∧ (b.updated u).Shows (b.answer d) := by
  rw [undergo_asked, answer]
  cases u with
  | change c =>
    rw [handle_changes hu, ← changeProfile_eq h]
    exact ⟨rfl, b.changeProfile_shows c⟩
  | renew c =>
    rw [handle_renews hu, ← changeTokens_eq h]
    exact ⟨rfl, b.changeTokens_shows c⟩

/-! ## Entries after an update -/

theorem updated_coherent (b : Backend) (u : Update) : (b.updated u).settings.Coherent := rfl

theorem updated_withProfile (b : Backend) (u : Update) : (b.updated u).withProfile.2 = u.applied b.withProfile.2 := rfl

/-- A row that an update carries is written, and all others stay. -/
theorem lookup_noted (u : Update) (rows : SettingRows) (key : String) : (u.noted rows).lookup key =
    if key = "bot_user_id" then (u.carried? .userId).or (rows.lookup key) else rows.lookup key := by
  rw [Update.noted]
  cases u.carried? .userId with
  | none =>
    rw [Option.none_or, ite_self]
  | some id => exact Settings.lookup_put _ _ _ _

/-- A text that is carried is trimmed. -/
theorem carried_userId_filled {id : Option String} (h : u.carried? .userId = some id) : id.bind filled? = id := by
  cases u with
  | change c =>
    obtain ⟨text, -, rfl⟩ := Option.map_eq_some_iff.mp h
    have htwice := Settings.filled?_bind_filled? (some text)
    rw [Option.bind_some] at htwice
    exact htwice
  | renew c => cases h

/-- An update writes the entries that it carries, and leaves the others. -/
theorem kept_updated (h : b.settings.Coherent) (u : Update) (e : Entry) :
    (b.updated u).kept e = (u.carried? e).getD (b.kept e) := by
  cases e with
  | userId =>
    show (b.updated u).userId = (u.carried? .userId).getD b.userId
    rw [userId, userId, setting?, setting?, (b.updated_coherent u).value?_eq, h.value?_eq, Settings.reading,
      Settings.reading, Settings.lookup_withDefaults, Settings.lookup_withDefaults]
    show (((u.noted b.settings.rows).lookup "bot_user_id").or _).join.bind filled? = _
    rw [lookup_noted, if_pos rfl]
    cases hcarried : u.carried? .userId with
    | none => rfl
    | some id => exact carried_userId_filled hcarried
  | _ => rfl

/-- All that is no entry of the configuration stays. -/
structure Spares (b b' : Backend) : Prop where
  tables : b'.tables = b.tables
  log : b'.log = b.log
  pending : b'.pending = b.pending
  issued : b'.issued = b.issued
  rows : ∀ key, key ≠ "bot_user_id" → b'.settings.rows.lookup key = b.settings.rows.lookup key
  settings : ∀ key, key ≠ "bot_user_id" → b'.setting? key = b.setting? key

theorem updated_spares (h : b.settings.Coherent) (u : Update) : b.Spares (b.updated u) := by
  have hrows : ∀ key, key ≠ "bot_user_id" → (b.updated u).settings.rows.lookup key = b.settings.rows.lookup key :=
    fun key hkey => (lookup_noted u b.settings.rows key).trans (if_neg hkey)
  refine ⟨rfl, rfl, rfl, rfl, hrows, fun key hkey => ?_⟩
  rw [setting?, setting?, (b.updated_coherent u).value?_eq, h.value?_eq,
    Settings.reading_withDefaults_congr (hrows key hkey)]

end Backend

/-! ## Updates that have nothing in common -/

/-- No entry is carried by both updates. -/
def Update.Disjoint (u v : Update) : Prop := ∀ e, u.carried? e = none ∨ v.carried? e = none

namespace Update

variable {u v : Update}

theorem getD_comm {α : Type} {x y : Option α} (h : x = none ∨ y = none) (a : α) :
    y.getD (x.getD a) = x.getD (y.getD a) := by
  rcases h with rfl | rfl <;> rfl

theorem Disjoint.applied_comm (h : u.Disjoint v) (p : BotProfile) :
    v.applied (u.applied p) = u.applied (v.applied p) := by
  simp only [applied, getD_comm (h _)]

theorem Disjoint.noted_comm (h : u.Disjoint v) (rows : SettingRows) :
    v.noted (u.noted rows) = u.noted (v.noted rows) := by
  simp only [noted]
  rcases h .userId with hnone | hnone <;> rw [hnone]

end Update

namespace Backend

variable {b : Backend} {d d₁ d₂ : Delivery} {u u₁ u₂ : Update} {e : Entry}

theorem updated_comm (h : u₁.Disjoint u₂) (b : Backend) : (b.updated u₁).updated u₂ = (b.updated u₂).updated u₁ := by
  show ({ b with settings := .seen _, bot := some _ } : Backend) = { b with settings := .seen _, bot := some _ }
  rw [updated_withProfile, updated_withProfile, h.applied_comm]
  show ({ b with settings := .seen (u₂.noted (u₁.noted b.settings.rows)), bot := _ } : Backend) = _
  rw [h.noted_comm]
  rfl

/-! ## Several requests -/

/-- What a backend holds after several requests. -/
def undergoRequests (b : Backend) (ds : List Delivery) : Backend := b.undergoAll (ds.map .asked)

theorem undergoRequests_cons (b : Backend) (d : Delivery) (rest : List Delivery) :
    b.undergoRequests (d :: rest) = (b.undergo (.asked d)).undergoRequests rest := by
  rw [undergoRequests, undergoRequests, undergoAll, undergoAll, List.map_cons, List.foldl_cons]

theorem undergoRequests_concat (b : Backend) (earlier : List Delivery) (d : Delivery) :
    b.undergoRequests (earlier ++ [d]) = (b.undergoRequests earlier).undergo (.asked d) := by
  rw [undergoRequests, undergoRequests, undergoAll, undergoAll, List.map_append, List.foldl_append, List.map_singleton,
    List.foldl_cons, List.foldl_nil]

/-- A request writes an entry: it is an update that carries it, or it brings back an authorization that is
awarded. -/
inductive Writes (b : Backend) (d : Delivery) (e : Entry) : Prop
  | update {u : Update} (updates : d.request.Updates u) (carries : u.carried? e ≠ none)
  | callback {code state : String} {award : Authorization.Award}
    (routed : d.request.endpoint? = some Flow.bot.callback) (brings : d.request.Brings code state)
    (awarded : Authorization.Awarded b d.now d.answers state .bot award)

/-- None of the requests writes an entry. -/
def LeavesEntry (e : Entry) : Backend → List Delivery → Prop
  | _, [] => True
  | b, d :: rest => ¬ b.Writes d e ∧ LeavesEntry e (b.undergo (.asked d)) rest

theorem kept_congr {b' : Backend} (hsettings : b.settings.Agrees b'.settings)
    (hbot : b'.bot = b.bot ∨
      b.bot = none ∧ b'.bot = some { scopes := scopesText? (b.settings.pieces "bot_app_scopes") }) (e : Entry) :
    b'.kept e = b.kept e := by
  have huser : b'.userId = b.userId := congrFun hsettings.value?_eq "bot_user_id"
  have hprofile : b'.withProfile.2 = b.withProfile.2 := by
    rcases hbot with hsame | ⟨hnone, hmade⟩
    · rw [withProfile, withProfile, hsame, hsettings.pieces_eq]
      cases b.bot <;> rfl
    · rw [withProfile_of_bot hmade, withProfile, hnone]
  rw [kept, kept, huser, hprofile]

/-- A request that does not write an entry leaves it. -/
theorem kept_of_not_writes (h : b.settings.Coherent) (hn : ¬ b.Writes d e) :
    (b.undergo (.asked d)).kept e = b.kept e := by
  have hcarries : ∀ {u : Update}, d.request.Updates u → (b.updated u).kept e = b.kept e := by
    intro u hu
    rw [kept_updated h, not_not.mp fun hcarried => hn (.update hu hcarried)]
    rfl
  rw [undergo_asked]
  have hdone := b.handle_configures d
  generalize (b.handle d.now d.answers d.request).1 = b' at hdone ⊢
  cases hdone with
  | leaves hbot hsettings => exact kept_congr hsettings hbot e
  | @changes c hchanges =>
    rw [changeProfile_eq h]
    exact hcarries hchanges
  | @renews c hrenews =>
    rw [changeTokens_eq h]
    exact hcarries hrenews
  | adopts hrouted hbrings hawarded => exact absurd (.callback hrouted hbrings hawarded) hn

theorem kept_of_leavesEntry {ds : List Delivery} (h : b.settings.Coherent) (hn : LeavesEntry e b ds) :
    (b.undergoRequests ds).kept e = b.kept e := by
  induction ds generalizing b with
  | nil => rfl
  | cons d rest ih => rw [undergoRequests_cons, ih (undergo_coherent h _) hn.2, kept_of_not_writes h hn.1]

/-- After updates an entry is what the last of them that carried it made it. -/
theorem kept_after_updates (h : b.settings.Coherent) (updates : List (Delivery × Update))
    (hall : ∀ x ∈ updates, x.1.request.Updates x.2) (e : Entry) :
    (b.undergoRequests (updates.map Prod.fst)).kept e =
      (updates.reverse.findSome? fun x => x.2.carried? e).getD (b.kept e) := by
  induction updates using List.reverseRecOn with
  | nil => rfl
  | append_singleton earlier last ih =>
    have hearlier := ih fun x hx => hall x (List.mem_append_left _ hx)
    have hlast := hall last (List.mem_append_right _ List.mem_cons_self)
    have hheld : (b.undergoRequests (earlier.map Prod.fst)).settings.Coherent := undergoAll_coherent h _
    rw [List.map_append, List.map_singleton, undergoRequests_concat, (undergo_update hheld hlast).1, kept_updated hheld,
      hearlier, List.reverse_append, List.reverse_singleton, List.singleton_append, List.findSome?_cons]
    cases last.2.carried? e with
    | none => rw [Option.getD_none]
    | some kept => rw [Option.getD_some, Option.getD_some]

/-- What is asked for at the endpoints of updates and is no update changes nothing. -/
theorem undergo_no_update
    (hrouted : d.request.endpoint? = some .changeProfile ∨ d.request.endpoint? = some .changeTokens)
    (hnone : ∀ u, ¬ d.request.Updates u) : b.undergo (.asked d) = b := by
  rw [undergo_asked]
  rcases d.request.dispatch d.now d.answers with ⟨response, hspot⟩ | ⟨e, he, hallowed, hserved⟩
  · rw [hspot]
  · rw [hserved]
    rcases hrouted with hrouted | hrouted
    · obtain rfl := Option.some.inj (hrouted.symm.trans he)
      rw [serve]
      cases hsaid : (d.request.content .changeProfile).check BotChange.read with
      | valid c => exact absurd ⟨he, hallowed rfl, hsaid⟩ (hnone (.change c))
      | invalid violations => rfl
    · obtain rfl := Option.some.inj (hrouted.symm.trans he)
      rw [serve]
      cases hsaid : (d.request.content .changeTokens).check BotTokens.read with
      | valid c => exact absurd ⟨he, hallowed rfl, hsaid⟩ (hnone (.renew c))
      | invalid violations => rfl

theorem Shows.unique {answer answer' : Response} (h : b.Shows answer) (h' : b.Shows answer') : answer' = answer := by
  obtain ⟨p, hbot, rfl⟩ := h
  obtain ⟨p', hbot', rfl⟩ := h'
  obtain rfl := Option.some.inj (hbot.symm.trans hbot')
  rfl

/-- Updates that have nothing in common can change places: the backend is the same after both, and so is the
answer to the second. -/
theorem swap_updates (h : b.settings.Coherent) (h₁ : d₁.request.Updates u₁) (h₂ : d₂.request.Updates u₂)
    (hdisjoint : u₁.Disjoint u₂) :
    b.undergoRequests [d₁, d₂] = b.undergoRequests [d₂, d₁] ∧
      (b.undergo (.asked d₁)).answer d₂ = (b.undergo (.asked d₂)).answer d₁ := by
  have htwice : ∀ {d d' : Delivery} {u u' : Update}, d.request.Updates u → d'.request.Updates u' →
      b.undergoRequests [d, d'] = (b.updated u).updated u' ∧
        ((b.updated u).updated u').Shows ((b.undergo (.asked d)).answer d') := by
    intro d d' u u' hu hu'
    have hfirst := (undergo_update h hu).1
    obtain ⟨hsecond, hshows⟩ := undergo_update (b.updated_coherent u) hu'
    rw [undergoRequests_cons, undergoRequests_cons, hfirst, hsecond]
    exact ⟨rfl, hshows⟩
  obtain ⟨hends, hshows⟩ := htwice h₁ h₂
  obtain ⟨hends', hshows'⟩ := htwice h₂ h₁
  rw [updated_comm hdisjoint b] at hends hshows
  exact ⟨hends.trans hends'.symm, hshows'.unique hshows⟩

end Backend

/-! ## Updates are independent -/

open Backend in
/-- **An update of the configuration touches what it carries, and nothing else.** Take any backend of whose settings
nothing was read yet, let anything happen to it, and call it `held`. An update writes the entries that it carries,
leaves all others, and is answered with the configuration; what is no update at these endpoints changes nothing. A
change carries an entry just if its body has a value for it that is not null, new tokens carry both tokens, the
expiry, and scopes if one of them is not blank. So after any updates an entry is what the last that carried it made
it, or what it was; other requests in between change that only if they write it. Two updates that carry nothing in
common leave the same backend in either order, which answers the same from then on. -/
theorem updates_touch_what_they_carry {b : Backend} (hcold : b.settings.cached = none) (occasions : List Occasion)
    {held : Backend} (hheld : held = b.undergoAll occasions) :
    (∀ (d : Delivery) (u : Update), d.request.Updates u →
      (∀ e, (held.undergo (.asked d)).kept e = (u.carried? e).getD (held.kept e)) ∧
      held.Spares (held.undergo (.asked d)) ∧ (held.undergo (.asked d)).Shows (held.answer d)) ∧
    (∀ d : Delivery, d.request.endpoint? = some .changeProfile ∨ d.request.endpoint? = some .changeTokens →
      (∀ u, ¬ d.request.Updates u) → held.undergo (.asked d) = held) ∧
    (∀ (d : Delivery) (c : BotChange), d.request.Changes c → ∃ fields,
      d.request.content .changeProfile = .value (.obj fields) ∧
      ∀ (e : Entry) (kept : e.Kept), (Update.change c).carried? e = some kept ↔ e.ChangedBy fields kept) ∧
    (∀ (d : Delivery) (c : BotTokens), d.request.Renews c → ∃ fields,
      d.request.content .changeTokens = .value (.obj fields) ∧
      ∀ (e : Entry) (kept : e.Kept), (Update.renew c).carried? e = some kept ↔ e.RenewedBy fields kept) ∧
    (∀ updates : List (Delivery × Update), (∀ x ∈ updates, x.1.request.Updates x.2) → ∀ e,
      (held.undergoRequests (updates.map Prod.fst)).kept e =
        (updates.reverse.findSome? fun x => x.2.carried? e).getD (held.kept e)) ∧
    (∀ (d : Delivery) (u : Update) (e : Entry) (kept : e.Kept) (later : List Delivery), d.request.Updates u →
      u.carried? e = some kept → LeavesEntry e (held.undergo (.asked d)) later →
      (held.undergoRequests (d :: later)).kept e = kept) ∧
    (∀ (d₁ d₂ : Delivery) (u₁ u₂ : Update), d₁.request.Updates u₁ → d₂.request.Updates u₂ → u₁.Disjoint u₂ →
      held.undergoRequests [d₁, d₂] = held.undergoRequests [d₂, d₁] ∧
        (held.undergo (.asked d₁)).answer d₂ = (held.undergo (.asked d₂)).answer d₁) := by
  have hcoherent : held.settings.Coherent := hheld ▸ undergoAll_coherent (Settings.coherent_of_cold hcold) occasions
  refine ⟨fun d u hu => ?_, fun d => undergo_no_update, fun d c hchanges => ?_, fun d c hrenews => ?_,
    kept_after_updates hcoherent, fun d u e kept later hu hcarried hlater => ?_,
    fun d₁ d₂ u₁ u₂ => swap_updates hcoherent⟩
  · obtain ⟨hends, hshows⟩ := undergo_update hcoherent hu
    rw [hends]
    exact ⟨kept_updated hcoherent u, updated_spares hcoherent u, hshows⟩
  · obtain ⟨fields, hcontent, hread⟩ := Content.check_eq_valid_iff.mp hchanges.said
    exact ⟨fields, hcontent, carried_change_iff hread⟩
  · obtain ⟨fields, hcontent, hread⟩ := Content.check_eq_valid_iff.mp hrenews.said
    exact ⟨fields, hcontent, carried_renew_iff hread⟩
  · rw [undergoRequests_cons, kept_of_leavesEntry (undergo_coherent hcoherent _) hlater,
      (undergo_update hcoherent hu).1, kept_updated hcoherent, hcarried, Option.getD_some]

/-- Two changes and new tokens with blank scopes. A login with white space around it is kept trimmed, and a name that
is null is left. -/
theorem updates_touch_what_they_carry_thrice :
    let change : Delivery :=
      ⟨⟨0⟩, [], Backend.bearing "PUT" "/bot/config" [("login", .str " Bot "), ("display_name", .null)]⟩
    let other : Delivery :=
      ⟨⟨1⟩, [], Backend.bearing "PUT" "/bot/config" [("bot_user_id", .str "7"), ("enabled", .bool true)]⟩
    let renewal : Delivery := ⟨⟨2⟩, [], Backend.bearing "POST" "/bot/config/tokens"
      [("access_token", .str "a"), ("refresh_token", .str "r"), ("scopes", .list [.str " "])]⟩
    let b : Backend := {}
    b.settings.cached = none ∧ b.undergoRequests [change, other] = b.undergoRequests [other, change] ∧
      (b.undergoRequests [change, renewal, other]).kept .login = some "Bot" ∧
      (b.undergoRequests [change, renewal, other]).kept .displayName = b.kept .displayName ∧
      (b.undergoRequests [change, renewal, other]).kept .userId = some "7" ∧
      (b.undergoRequests [change, renewal, other]).kept .access = some "a" ∧
      (b.undergoRequests [change, renewal, other]).kept .scopes = b.kept .scopes := by
  intro change other renewal b
  have hchange : change.request.Updates (.change ⟨none, none, none, some " Bot ", none⟩) :=
    Backend.bearing_changes (by simp [Value.IsPlain, Value.FieldsPlain])
      (by simp [BotChange.read, Checked.optional, Checked.orNull, Checked.text, Value.lookup?, Checked.under,
        Checked.map, Checked.also])
  have hother : other.request.Updates (.change ⟨some true, none, none, none, some "7"⟩) :=
    Backend.bearing_changes (by simp [Value.IsPlain, Value.FieldsPlain])
      (by simp [BotChange.read, Checked.optional, Checked.orNull, Checked.text, Checked.truth, Value.lookup?,
        Checked.under, Checked.map, Checked.also])
  have hrenewal : renewal.request.Updates (.renew ⟨"a", "r", none, [" "]⟩) :=
    Backend.bearing_renews (by simp [Value.IsPlain, Value.FieldsPlain, Value.ItemsPlain])
      (by simp [BotTokens.read, Checked.required, Checked.optional, Checked.text, Checked.texts, Checked.each,
        Value.lookup?, Checked.under, Checked.map, Checked.also])
  have hheld : b = b.undergoAll [] := rfl
  obtain ⟨-, -, -, -, hafter, -, hswap⟩ := updates_touch_what_they_carry rfl [] hheld
  have hlast := hafter [(change, _), (renewal, _), (other, _)] (by
    simp only [List.mem_cons, List.not_mem_nil, or_false]
    rintro x (rfl | rfl | rfl)
    exacts [hchange, hrenewal, hother])
  have hdisjoint : Update.Disjoint (.change ⟨none, none, none, some " Bot ", none⟩)
      (.change ⟨some true, none, none, none, some "7"⟩) := by
    intro e
    cases e <;> first | exact .inl rfl | exact .inr rfl
  have hblank : (Update.renew ⟨"a", "r", none, [" "]⟩).carried? .scopes = none := by
    have hnone : Backend.scopesText? (Scope.normalize [" "]) = none := by decide +kernel
    exact congrArg (Option.map some) hnone
  have hlogin : filled? " Bot " = some "Bot" := by decide +kernel
  have huser : filled? "7" = some "7" := by decide +kernel
  refine ⟨rfl, (hswap change other _ _ hchange hother hdisjoint).1, (hlast .login).trans ?_,
    (hlast .displayName).trans ?_, (hlast .userId).trans ?_, (hlast .access).trans ?_, (hlast .scopes).trans ?_⟩
  · simp [Update.carried?, hlogin]
  · rfl
  · simp [Update.carried?, huser]
  · rfl
  · rw [List.findSome?_eq_none_iff.mpr, Option.getD_none]
    simp only [List.mem_reverse, List.mem_cons, List.not_mem_nil, or_false]
    rintro x (rfl | rfl | rfl)
    exacts [rfl, hblank, rfl]

end ChannelBot.Server
