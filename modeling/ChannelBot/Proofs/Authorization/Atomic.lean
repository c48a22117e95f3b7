/-
What a callback leaves behind, whatever the provider answers: nothing or everything. One that is not
answered with 200 leaves all that is stored as it is, except that the bot's account may have been
created; one that is has stored every part of what its authorization led to, and this is what comes of
answers that have every part (`callbacks_store_all_or_nothing`). All parts are read before the first is
stored (`grantedProfile_eq_ok_iff`, `grantedCredential_eq_ok_iff`), and what comes after cannot fail.
-/
import ChannelBot.Proofs.Authorization.SingleUse
import ChannelBot.Proofs.Server.Settings
import ChannelBot.Proofs.Value.Access
import ChannelBot.Proofs.Value.Json

namespace ChannelBot.Server

/-! ## What stays -/

namespace Backend

/-- All that is stored stays, except that the bot's account may be created, with nothing but scopes. -/
structure Unchanged (b b' : Backend) : Prop where
  tables : b'.tables = b.tables
  bot : b'.bot = b.bot ∨
    b.bot = none ∧ b'.bot = some { scopes := scopesText? (b.settings.pieces "bot_app_scopes") }
  rows : b'.settings.rows = b.settings.rows
  settings : b'.settings.current = b.settings.current
  log : b'.log = b.log

variable {b b' b'' : Backend}

theorem Untouched.unchanged (h : b.Untouched b') : b.Unchanged b' :=
  ⟨h.tables, .inl h.bot, h.rows, h.settings, h.log⟩

theorem Untouched.then_unchanged (h : b.Untouched b') (h' : b'.Unchanged b'') : b.Unchanged b'' where
  tables := h'.tables.trans h.tables
  bot := by
    have hpieces : b'.settings.pieces = b.settings.pieces := by
      funext key
      rw [Settings.pieces, Settings.pieces, Settings.value?, Settings.value?, h.settings]
    have hbot := h'.bot
    rwa [h.bot, hpieces] at hbot
  rows := h'.rows.trans h.rows
  settings := h'.settings.trans h.settings
  log := h'.log.trans h.log

theorem withProfile_unchanged (b : Backend) : b.Unchanged b.withProfile.1 := by
  rw [withProfile]
  cases hbot : b.bot with
  | some p => exact ⟨rfl, .inl rfl, rfl, rfl, rfl⟩
  | none => exact ⟨rfl, .inr ⟨hbot, rfl⟩, rfl, rfl, rfl⟩

end Backend

/-! ## What a provider grants -/

namespace Authorization

variable {now : Moment} {grant owner access v : Value} {answers : List HttpOutcome}

/-- The moment when a grant ends that says how long it lasts: none if it does not say, else so many
seconds from now. -/
inductive Ends (now : Moment) (v : Value) : Option Moment → Prop
  | never (unsaid : v.holds = false) : Ends now v none
  | after {n : Int} {m : Moment} (said : v.holds = true) (seconds : v.toInteger = .ok n)
    (moment : now.addSeconds? n = some m) : Ends now v (some m)

theorem expiry_eq_ok_iff {m : Option Moment} : expiry now v = .ok m ↔ Ends now v m := by
  constructor
  · intro h
    rw [expiry] at h
    split at h
    next hsaid =>
      split at h
      next n hseconds =>
        split at h
        next m hmoment =>
          cases h
          exact .after hsaid hseconds hmoment
        next => cases h
      next => cases h
    next hunsaid =>
      cases h
      exact .never (Bool.eq_false_iff.mpr hunsaid)
  · intro h
    cases h with
    | never hunsaid => rw [expiry, hunsaid, if_neg Bool.false_ne_true]
    | after hsaid hseconds hmoment =>
      rw [expiry, if_pos hsaid, hseconds]
      dsimp only
      rw [hmoment]

end Authorization

/-- An account has all that a grant and its owner say. -/
structure BotProfile.Tells (p : BotProfile) (now : Moment) (grant : Value) (owner : List (String × Value)) : Prop where
  login : Column.text? ((Value.lookup? "login" owner).getD .null) = some p.login
  displayName : Column.text? (((Value.lookup? "display_name" owner).getD .null).orElse
    ((Value.lookup? "login" owner).getD .null)) = some p.displayName
  scopes : ∃ scopes, Authorization.grantedScopes ((grant.field? "scope").getD .null) = .ok scopes ∧
    p.scopes = Backend.scopesText? (Scope.normalize scopes)
  access : (grant.field? "access_token").bind Column.text? = some p.access
  refresh : Column.text? ((grant.field? "refresh_token").getD .null) = some p.refresh
  expires : Authorization.Ends now ((grant.field? "expires_in").getD .null) p.expiresAt
  enabled : p.enabled = true

/-- Credentials have all that a grant says. -/
structure Credential.Tells (k : Credential) (now : Moment) (grant : Value) : Prop where
  access : Column.text? ((grant.field? "access_token").getD .null) = some k.access
  refresh : (grant.field? "refresh_token").bind Column.text? = some (some k.refresh)
  expires : Authorization.Ends now ((grant.field? "expires_in").getD .null) k.expiresAt

namespace Authorization

variable {now : Moment} {grant owner access v : Value} {answers : List HttpOutcome}

theorem part_eq_ok_iff {α : Type} {x : Except ShapeFault α} {a : α} : part x = .ok a ↔ x = .ok a := by
  cases x with
  | error e => exact ⟨fun h => (nomatch h), fun h => (nomatch h)⟩
  | ok b => exact ⟨fun h => congrArg _ (Except.ok.inj h), fun h => congrArg _ (Except.ok.inj h)⟩

theorem column_eq_ok_iff {t : Option String} : column v = .ok t ↔ Column.text? v = some t := by
  rw [column]
  cases Column.text? v with
  | none => exact ⟨fun h => (nomatch h), fun h => (nomatch h)⟩
  | some u => exact ⟨fun h => congrArg _ (Except.ok.inj h), fun h => congrArg _ (Option.some.inj h)⟩

theorem member_eq_ok_iff {key : String} {w : Value} : v.member key = .ok w ↔ v.field? key = some w := by
  cases v with
  | obj fields =>
    rw [Value.member, Value.field?]
    cases Value.lookup? key fields with
    | none => simp
    | some u => simp
  | _ => simp [Value.member, Value.field?]

/-- Only an object can be asked for a field. -/
theorem get_eq_ok_iff {key : String} {w : Value} :
    v.get key = .ok w ↔ ∃ fields, v = .obj fields ∧ (Value.lookup? key fields).getD .null = w := by
  constructor
  · intro h
    cases v with
    | obj fields => exact ⟨fields, rfl, Except.ok.inj h⟩
    | _ => cases h
  · rintro ⟨fields, rfl, rfl⟩
    rfl

/-- Only a list starts with an object. -/
theorem first_eq_ok_iff {fields : List (String × Value)} :
    v.first = .ok (.obj fields) ↔ ∃ rest, v = .list (.obj fields :: rest) := by
  constructor
  · intro h
    cases v with
    | list items =>
      cases items with
      | nil => cases h
      | cons item rest =>
        cases h
        exact ⟨rest, rfl⟩
    | str s =>
      rw [Value.first] at h
      split at h <;> cases h
    | _ => cases h
  · rintro ⟨rest, rfl⟩
    rfl

/-- An account is made exactly of what a grant and its owner say. -/
theorem grantedProfile_eq_ok_iff {p : BotProfile} (haccess : grant.field? "access_token" = some access) :
    grantedProfile now grant owner access = .ok p ↔ ∃ fields, owner = .obj fields ∧ p.Tells now grant fields := by
  simp only [grantedProfile, bind_eq_ok_iff, part_eq_ok_iff, column_eq_ok_iff, expiry_eq_ok_iff]
  constructor
  · rintro ⟨scopes, hscopes, login, hlogin, displayName, hdisplay, expiresAt, hexpires, loginText, hloginText,
      displayText, hdisplayText, accessText, haccessText, refreshText, hrefreshText, ⟨⟩⟩
    obtain ⟨fields, rfl, rfl⟩ := get_eq_ok_iff.mp hlogin
    cases hdisplay
    exact ⟨fields, rfl, {
      login := hloginText
      displayName := hdisplayText
      scopes := ⟨scopes, hscopes, rfl⟩
      access := by rw [haccess, Option.bind_some, haccessText]
      refresh := hrefreshText
      expires := hexpires
      enabled := rfl }⟩
  · rintro ⟨fields, rfl, h⟩
    obtain ⟨scopes, hscopes, hkept⟩ := h.scopes
    have haccessText := h.access
    rw [haccess, Option.bind_some] at haccessText
    refine ⟨scopes, hscopes, _, rfl, _, rfl, _, h.expires, _, h.login, _, h.displayName, _, haccessText, _,
      h.refresh, ?_⟩
    rw [← hkept, ← h.enabled]
    rfl

/-- Credentials are made exactly of what a grant says. -/
theorem grantedCredential_eq_ok_iff {k : Credential} {answer : HttpOutcome} :
    grantedCredential now answer = .ok k ↔ ∃ grant, answerValue answer = .ok grant ∧ k.Tells now grant := by
  simp only [grantedCredential, bind_eq_ok_iff, part_eq_ok_iff, column_eq_ok_iff, expiry_eq_ok_iff, member_eq_ok_iff]
  refine exists_congr fun grant => and_congr_right fun hgrant => ?_
  constructor
  · rintro ⟨refresh, hrefresh, access, haccess, expiresAt, hexpires, refreshText, hrefreshText, hmade⟩
    cases refreshText with
    | none => cases hmade
    | some text =>
      cases hmade
      exact {
        access := haccess
        refresh := by rw [hrefresh, Option.bind_some, hrefreshText]
        expires := hexpires }
  · intro h
    obtain ⟨refresh, hrefresh, hrefreshText⟩ := Option.bind_eq_some_iff.mp h.refresh
    exact ⟨refresh, hrefresh, _, h.access, _, h.expires, _, hrefreshText, rfl⟩

/-- The trade of the bot's callback succeeds exactly with a grant, its access token and its owner. -/
theorem tradeBot_eq_ok_iff {b : Backend} {origin id secret code : String} :
    (tradeBot b origin id secret code answers).1 = .ok (grant, access, owner) ↔
      answerValue (next answers).1 = .ok grant ∧ grant.field? "access_token" = some access ∧
        ∃ v data, answerValue (next (next answers).2).1 = .ok v ∧ v.field? "data" = some data ∧
          data.first = .ok owner := by
  rw [tradeBot]
  dsimp only
  split
  next f hfirst =>
    refine ⟨fun h => (nomatch h), ?_⟩
    rintro ⟨hgrant, haccess, -⟩
    have hpair : (part (grant.member "access_token") >>= fun access => .ok (grant, access)) = .ok (grant, access) :=
      bind_eq_ok_iff.mpr ⟨access, part_eq_ok_iff.mpr (member_eq_ok_iff.mpr haccess), rfl⟩
    rw [hgrant] at hfirst
    cases hfirst.symm.trans hpair
  next grant' access' hfirst =>
    obtain ⟨_, hgrant, hrest⟩ := bind_eq_ok_iff.mp hfirst
    obtain ⟨_, haccess, ⟨⟩⟩ := bind_eq_ok_iff.mp hrest
    rw [part_eq_ok_iff, member_eq_ok_iff] at haccess
    simp only [map_eq_ok_iff, bind_eq_ok_iff, part_eq_ok_iff, member_eq_ok_iff]
    constructor
    · rintro ⟨_, ⟨v, hanswer, data, hdata, hitem⟩, ⟨⟩⟩
      exact ⟨hgrant, haccess, v, data, hanswer, hdata, hitem⟩
    · rintro ⟨hgrant', haccess', v, data, hanswer, hdata, hitem⟩
      cases hgrant.symm.trans hgrant'
      cases haccess.symm.trans haccess'
      exact ⟨owner, ⟨v, hanswer, data, hdata, hitem⟩, rfl⟩

end Authorization

/-! ## What is stored -/

namespace Backend

variable {b b' : Backend}

theorem putSetting_rows (b : Backend) (key value : String) :
    (b.putSetting key value).settings.rows = Settings.put key (Settings.filled? value) b.settings.rows := by
  simp only [putSetting, Settings.warm, Settings.set, List.foldl_cons, List.foldl_nil, Option.bind_some]

theorem putSetting_current (b : Backend) (key value : String) :
    (b.putSetting key value).settings.current = Settings.withDefaults (b.putSetting key value).settings.rows := by
  rw [putSetting, Settings.warm, Settings.current, Settings.set]
  rfl

/-- The bot's account is stored, with the number of its user and one event that tells of it. -/
structure Adopts (b b' : Backend) (now : Moment) (p : BotProfile) (id : Value) : Prop where
  bot : b'.bot = some p
  user : ∀ key, b'.settings.rows.lookup key =
    if key = "bot_user_id" then some (Settings.filled? (id.orElse (.str "")).display)
    else b.settings.rows.lookup key
  shown : b'.settings.current = Settings.withDefaults b'.settings.rows
  told : b'.log.history =
    LogBook.lastOf LogBook.historyLimit (b.log.history ++ [Authorization.completed now p.login])
  tables : b'.tables = b.tables

theorem adopts_storeProfile (b : Backend) (now : Moment) (p : BotProfile) (id : Value) :
    b.Adopts (Authorization.storeProfile b now p id) now p id := by
  rw [Authorization.storeProfile]
  generalize hput :
    ({ b with bot := some p } : Backend).putSetting "bot_user_id" (id.orElse (.str "")).display = b'
  have hrows : b'.settings.rows =
      Settings.put "bot_user_id" (Settings.filled? (id.orElse (.str "")).display) b.settings.rows := by
    rw [← hput, putSetting_rows]
  have hcurrent : b'.settings.current = Settings.withDefaults b'.settings.rows := by rw [← hput, putSetting_current]
  have hbot : b'.bot = some p := by
    rw [← hput]
    rfl
  have hlog : b'.log = b.log := by
    rw [← hput]
    rfl
  have htables : b'.tables = b.tables := by
    rw [← hput]
    rfl
  exact {
    bot := hbot
    user := fun key => by rw [hrows, Settings.lookup_put]
    shown := hcurrent
    told := by rw [LogBook.broadcast, hlog]
    tables := htables }

theorem Adopts.of_unchanged {b'' : Backend} {now : Moment} {p : BotProfile} {id : Value} (h : b.Unchanged b')
    (h' : b'.Adopts b'' now p id) : b.Adopts b'' now p id where
  bot := h'.bot
  user key := by rw [h'.user key, h.rows]
  shown := h'.shown
  told := by rw [h'.told, h.log]
  tables := h'.tables.trans h.tables

end Backend

namespace Authorization

/-- What an authorization leads to: the bot's account with the number of its user, or the credentials of
a channel. -/
inductive Award where
  | account (p : BotProfile) (user : Value)
  | credential (c : ChannelRow) (k : Credential)

/-- The state text is pending for the authorization, and the answers of the provider have every part of
the award. -/
inductive Awarded (b : Backend) (now : Moment) (answers : List HttpOutcome) (state : String) : Flow → Award → Prop
  /-- The account is that of the first user that the provider names. -/
  | account {grant v : Value} {owner : List (String × Value)} {rest : List Value} {p : BotProfile}
    (ready : Ready b .bot) (pending : (redeem b state).2 = some .bot)
    (granted : answerValue (next answers).1 = .ok grant) (named : answerValue (next (next answers).2).1 = .ok v)
    (first : v.field? "data" = some (.list (.obj owner :: rest))) (tells : p.Tells now grant owner) :
    Awarded b now answers state .bot (.account p ((Value.lookup? "id" owner).getD .null))
  /-- The channel is the one that is found under the name that the text is pending for. -/
  | credential {name : String} {c : ChannelRow} {grant : Value} {k : Credential}
    (pending : (redeem b state).2 = some (.music name)) (found : b.tables.channel name = .found c)
    (granted : answerValue (next answers).1 = .ok grant) (tells : k.Tells now grant) :
    Awarded b now answers state .music (.credential c k)

/-- Every part of an award is stored, and nothing else. -/
def Award.Stored (b b' : Backend) (now : Moment) : Award → Prop
  | .account p user => b.Adopts b' now p user
  | .credential c k => b.tables.Grants b'.tables c k ∧ { b with tables := b'.tables }.Untouched b'

/-- The second half of the bot's callback fails before it stores anything, or it stores everything. -/
theorem finishBot_cases (b : Backend) (now : Moment) {grant access : Value} (owner : Value)
    (haccess : grant.field? "access_token" = some access) :
    let x := finishBot b now grant owner access
    x.2.status ≠ 200 ∧ b.Unchanged x.1 ∧
        (∀ fields (p : BotProfile), owner = .obj fields → ¬ p.Tells now grant fields) ∨
      x.2.status = 200 ∧ ∃ fields p, owner = .obj fields ∧ p.Tells now grant fields ∧
        b.Adopts x.1 now p ((Value.lookup? "id" fields).getD .null) := by
  have hcreated := b.withProfile_unchanged
  dsimp only
  rw [finishBot]
  dsimp only
  split
  next fault hfault =>
    refine .inl ⟨fault.status_ne_ok "Twitch", hcreated, fun fields p howner htells => ?_⟩
    cases hfault.symm.trans ((grantedProfile_eq_ok_iff haccess).mpr ⟨fields, howner, htells⟩)
  next p hgranted =>
    obtain ⟨fields, rfl, htells⟩ := (grantedProfile_eq_ok_iff haccess).mp hgranted
    exact .inr ⟨rfl, fields, p, rfl, htells, (Backend.adopts_storeProfile _ now p _).of_unchanged hcreated⟩

/-- The bot's callback stores nothing, or the account that was awarded. -/
theorem botCallback_cases (b : Backend) (now : Moment) (origin : String) (answers : List HttpOutcome)
    (code state : String) :
    let x := botCallback b now origin answers code state
    x.2.response.status ≠ 200 ∧ b.Unchanged x.1 ∧ (∀ award, ¬ Awarded b now answers state .bot award) ∨
      x.2.response.status = 200 ∧ ∃ award, Awarded b now answers state .bot award ∧ award.Stored b x.1 now := by
  have hwarm := Backend.Untouched.warm b
  have htaken := hwarm.trans (redeem_untouched b.warm state)
  dsimp only
  rw [botCallback_eq]
  split
  next hnone =>
    refine .inl ⟨(by decide : 500 ≠ 200), hwarm.unchanged, fun award hawarded => ?_⟩
    cases hawarded with
    | account hready => exact hready hnone
  next id secret happ hpending =>
    dsimp only
    split
    next fault hfault =>
      refine .inl ⟨fault.status_ne_ok "Twitch", htaken.unchanged, fun award hawarded => ?_⟩
      cases hawarded with
      | account _ _ hgrant hnamed hfirst htells =>
        obtain ⟨access, haccess, -⟩ := Option.bind_eq_some_iff.mp htells.access
        cases hfault.symm.trans (tradeBot_eq_ok_iff.mpr ⟨hgrant, haccess, _, _, hnamed, hfirst, rfl⟩)
    next grant access owner htrade =>
      obtain ⟨hgrant, haccess, v, data, hnamed, hdata, hfirst⟩ := tradeBot_eq_ok_iff.mp htrade
      rcases finishBot_cases (redeem b.warm state).1 now owner haccess with
        ⟨hstatus, hkept, hnone⟩ | ⟨hstatus, fields, p, rfl, htells, hadopts⟩
      · refine .inl ⟨hstatus, htaken.then_unchanged hkept, fun award hawarded => ?_⟩
        cases hawarded with
        | account _ _ hgrant' hnamed' hdata' htells =>
          cases hgrant.symm.trans hgrant'
          cases hnamed.symm.trans hnamed'
          cases hdata.symm.trans hdata'
          cases hfirst
          exact hnone _ _ rfl htells
      · obtain ⟨rest, rfl⟩ := first_eq_ok_iff.mp hfirst
        have hready : Ready b .bot := fun hnone => nomatch happ.symm.trans hnone
        exact .inr ⟨hstatus, _, .account hready hpending hgrant hnamed hdata htells,
          hadopts.of_unchanged htaken.unchanged⟩
  next app _ hother =>
    refine .inl ⟨(by decide : 400 ≠ 200), htaken.unchanged, fun award hawarded => ?_⟩
    cases hawarded with
    | account _ hpending => exact hother app.1 app.2 hpending rfl

/-- A callback with a state text stores nothing or everything. -/
theorem comeBack_cases (b : Backend) (now : Moment) (origin : String) (answers : List HttpOutcome)
    (code state : String) (f : Flow) :
    let x := comeBack b now origin answers code state f
    x.2.response.status ≠ 200 ∧ b.Unchanged x.1 ∧ (∀ award, ¬ Awarded b now answers state f award) ∨
      x.2.response.status = 200 ∧ ∃ award, Awarded b now answers state f award ∧ award.Stored b x.1 now := by
  cases f with
  | bot => exact botCallback_cases b now origin answers code state
  | music =>
    have htaken := redeem_untouched b state
    dsimp only
    rw [comeBack, musicCallback_eq]
    dsimp only
    split
    next name hpending =>
      split
      next habsent =>
        refine .inl ⟨(by decide : 404 ≠ 200), htaken.unchanged, fun award hawarded => ?_⟩
        cases hawarded with
        | credential hpending' hfound =>
          cases hpending.symm.trans hpending'
          cases habsent.symm.trans hfound
      next hmany =>
        refine .inl ⟨(by decide : 500 ≠ 200), htaken.unchanged, fun award hawarded => ?_⟩
        cases hawarded with
        | credential hpending' hfound =>
          cases hpending.symm.trans hpending'
          cases hmany.symm.trans hfound
      next c hfound =>
        split
        next fault hfault =>
          refine .inl ⟨fault.status_ne_ok "Spotify", (htaken.trans (.warm _)).unchanged, fun award hawarded => ?_⟩
          cases hawarded with
          | credential _ _ hgrant htells =>
            cases hfault.symm.trans (grantedCredential_eq_ok_iff.mpr ⟨_, hgrant, htells⟩)
        next k hgranted =>
          obtain ⟨grant, hgrant, htells⟩ := grantedCredential_eq_ok_iff.mp hgranted
          exact .inr ⟨rfl, _, .credential hpending hfound hgrant htells, b.tables.grants_putCredential c k,
            rfl, rfl, rfl, rfl, rfl⟩
    next hother =>
      refine .inl ⟨(by decide : 400 ≠ 200), htaken.unchanged, fun award hawarded => ?_⟩
      cases hawarded with
      | credential hpending => exact hother _ hpending

end Authorization

end ChannelBot.Server
