/-
When tokens expire, as it is kept and shown. The expiry that a request says is kept as its clock shows it,
and shown so from then on: without its offset, so that it is the same instant only for a clock of universal
time (`expiry_kept_as_shown`).
-/
import ChannelBot.Proofs.Server.Credentials
import ChannelBot.Proofs.Time.Written

namespace ChannelBot.Server

/-- Whose tokens the backend keeps. -/
inductive TokenHolder where
  /-- The account of the bot. -/
  | bot
  /-- A channel, for the music service. -/
  | channel (name : String)

/-- Where the tokens of a holder are shown. -/
def TokenHolder.endpoint : TokenHolder → Endpoint
  | .bot => .showProfile
  | .channel name => .showCredential name

/-- A request says when the tokens of a holder expire. -/
inductive Request.SetsExpiry (r : Request) : TokenHolder → Timestamp → Prop
  | bot {c : BotTokens} {t : Timestamp} (renews : r.Renews c) (given : c.expiresAt = some t) : r.SetsExpiry .bot t
  | channel {name : String} {p : MusicTokens} {t : Timestamp} (renews : r.RenewsMusic name p)
    (given : p.expiresAt = some t) : r.SetsExpiry (.channel name) t

/-- An answer shows this text as the time of expiry. -/
def Response.ShowsExpiry (answer : Response) (text : String) : Prop :=
  ∃ fields, answer = .ok (.obj fields) ∧ Value.lookup? "expires_at" fields = some (.str text)

/-! ## Times that are accepted -/

/-- A time that is accepted is one of the calendar. -/
theorem Checked.time_within {v : Value} {t : Timestamp} (h : Checked.time v = .valid t) :
    t.shown.micros < Moment.limit := by
  have hread : ∀ {rule : Rule} {found : Option Timestamp}, Checked.time.orBroken v rule found = .valid t → found = some t := by
    intro rule found hfound
    cases found with
    | none => cases hfound
    | some u =>
      cases hfound
      rfl
  cases v with
  | str s =>
    have hfound := hread h
    cases hwritten : Timestamp.read? s with
    | none =>
      rw [hwritten, Option.none_or] at hfound
      exact Timestamp.ofCount?_within hfound
    | some u =>
      rw [hwritten, Option.some_or] at hfound
      cases hfound
      exact Timestamp.read?_within hwritten
  | int n => exact Timestamp.ofUnixMicros?_within (hread h)
  | real x => exact Timestamp.ofReal?_within (hread h)
  | _ => cases h

theorem Checked.optional_time_within {key : String} {body : List (String × Value)} {t : Timestamp}
    (h : Checked.optional key none (Checked.orNull Checked.time) body = .valid (some t)) :
    t.shown.micros < Moment.limit := by
  rw [Checked.optional, Checked.under_eq_valid_iff] at h
  split at h
  · unfold Checked.orNull at h
    split at h
    · cases h
    · obtain ⟨u, hu, heq⟩ := Checked.map_eq_valid_iff.mp h
      cases heq
      exact Checked.time_within hu
  · cases h

/-- Whoever says when tokens expire says a time of the calendar. -/
theorem Request.SetsExpiry.within {r : Request} {holder : TokenHolder} {t : Timestamp} (h : r.SetsExpiry holder t) :
    t.shown.micros < Moment.limit := by
  cases h with
  | bot renews given =>
    obtain ⟨fields, -, hread⟩ := Content.check_eq_valid_iff.mp renews.said
    obtain ⟨f, scopes, hscopes, -, rfl⟩ := Checked.also_eq_valid_iff.mp hread
    obtain ⟨f, expiry, hrest, hexpiry, rfl⟩ := Checked.also_eq_valid_iff.mp hscopes
    obtain ⟨f, refresh, haccess, -, rfl⟩ := Checked.also_eq_valid_iff.mp hrest
    obtain ⟨access, -, rfl⟩ := Checked.map_eq_valid_iff.mp haccess
    obtain rfl : expiry = some t := given
    exact Checked.optional_time_within hexpiry
  | channel renews given =>
    obtain ⟨fields, -, hread⟩ := Content.check_eq_valid_iff.mp renews.said
    obtain ⟨f, refresh, hrest, -, rfl⟩ := Checked.also_eq_valid_iff.mp hread
    obtain ⟨f, expiry, haccess, hexpiry, rfl⟩ := Checked.also_eq_valid_iff.mp hrest
    obtain ⟨access, -, rfl⟩ := Checked.map_eq_valid_iff.mp haccess
    obtain rfl : expiry = some t := given
    exact Checked.optional_time_within hexpiry

namespace Backend

variable {b : Backend} {d : Delivery} {t : Timestamp}

/-! ## Keeping and showing -/

/-- When the tokens of a holder expire, if there is such a holder. -/
def expiry? (b : Backend) : TokenHolder → Option (Option Moment)
  | .bot => b.bot.map (·.expiresAt)
  | .channel name => (b.tables.credentialOf? name).map (·.expiresAt)

theorem Shows.showsExpiry {answer : Response} {m : Moment} (h : b.Shows answer) (hkept : b.expiry? .bot = some (some m)) :
    answer.ShowsExpiry m.text := by
  obtain ⟨p, hbot, rfl⟩ := h
  rw [expiry?, hbot, Option.map_some, Option.some.injEq] at hkept
  refine ⟨Value.present (b.profileTable p), ?_, ?_⟩
  · rw [profileValue_eq]
  · rw [lookup?_profileTable, profileTable, hkept]
    rfl

theorem showsExpiry_credential {k : Credential} {m : Moment} (h : k.expiresAt = some m) :
    (Response.ok k.toValue).ShowsExpiry m.text := by
  refine ⟨_, rfl, ?_⟩
  rw [h]
  rfl

/-- A request that succeeds in saying when tokens expire is told so, and it is kept as its clock shows it. -/
theorem setsExpiry_kept {holder : TokenHolder} (hset : d.request.SetsExpiry holder t)
    (hok : (b.answer d).status = 200) :
    (b.undergo (.asked d)).expiry? holder = some (some t.shown) ∧ (b.answer d).ShowsExpiry t.shown.text := by
  rw [undergo_asked, answer] at *
  cases hset with
  | @bot c _ hrenews hgiven =>
    rw [handle_renews hrenews]
    have hkept : (replying (b.changeTokens c)).1.expiry? .bot = some (some t.shown) := by
      show some (c.expiresAt.map (·.shown)) = _
      rw [hgiven]
      rfl
    exact ⟨hkept, (b.changeTokens_shows c).showsExpiry hkept⟩
  | @channel name p _ hrenews hgiven =>
    rw [handle_renewsMusic hrenews] at hok ⊢
    cases hfound : b.tables.credentialOf? name with
    | none =>
      obtain ⟨response, hstatus, heq⟩ := Tables.changeCredential_lacking p hfound
      have hresponse : response.status = 200 := by
        rw [replying, onTables, heq] at hok
        exact hok
      omega
    | some k =>
      obtain ⟨hkept, hanswer⟩ := Tables.changeCredential_found p hfound
      have hexpiry : (k.renewed p).expiresAt = some t.shown := by
        rw [Credential.renewed, hgiven]
        rfl
      refine ⟨?_, ?_⟩
      · show ((b.tables.changeCredential name p).1.credentialOf? name).map (·.expiresAt) = _
        rw [hkept, Option.map_some, hexpiry]
      · show (b.tables.changeCredential name p).2.ShowsExpiry _
        rw [hanswer]
        exact showsExpiry_credential hexpiry

/-- A reader is shown when tokens expire. -/
theorem handle_showsExpiry {holder : TokenHolder} {m : Moment} (hkept : b.expiry? holder = some (some m))
    (hrouted : d.request.endpoint? = some holder.endpoint) (hallowed : d.request.token = some adminToken) :
    (b.answer d).ShowsExpiry m.text := by
  cases holder with
  | bot =>
    obtain ⟨p, hbot, -⟩ := Option.map_eq_some_iff.mp hkept
    have hends : b.showProfile.1.expiry? .bot = some (some m) := by
      rw [showProfile, withProfile, hbot]
      exact hkept
    rw [answer, b.handle_plain d.now d.answers hrouted (fun _ => hallowed) rfl]
    exact b.showProfile_shows.showsExpiry hends
  | channel name =>
    obtain ⟨k, hfound, hexpiry⟩ := Option.map_eq_some_iff.mp hkept
    rw [handle_showsCredential hfound hrouted hallowed]
    exact showsExpiry_credential hexpiry

/-! ## Requests that say it -/

/-- A request with the token that brings tokens of the bot and the time when they expire. -/
def expiring (access refresh expiry : String) : Request where
  method := "POST"
  target := "/bot/config/tokens"
  token := some adminToken
  body := some ((Value.obj [("access_token", .str access), ("refresh_token", .str refresh),
    ("expires_at", .str expiry)]).write Value.spaced)

/-- Any time in writing can be said. -/
theorem expiring_setsExpiry (access refresh : String) {expiry : String} (h : Timestamp.read? expiry = some t) :
    (expiring access refresh expiry).SetsExpiry .bot t := by
  have hplain : (Value.obj [("access_token", .str access), ("refresh_token", .str refresh),
      ("expires_at", .str expiry)]).IsPlain := by
    simp [Value.IsPlain, Value.FieldsPlain]
  have htakes : Endpoint.changeTokens.takesContent = true := rfl
  have hcontent : (expiring access refresh expiry).content .changeTokens =
      .value (.obj [("access_token", .str access), ("refresh_token", .str refresh), ("expires_at", .str expiry)]) := by
    rw [Request.content, if_pos htakes, expiring]
    exact Content.read_write Json.separates_spaced hplain
  have htime : Checked.time (.str expiry) = .valid t := by
    rw [Checked.time, h]
    rfl
  have hsaid : BotTokens.read [("access_token", .str access), ("refresh_token", .str refresh),
      ("expires_at", .str expiry)] = .valid ⟨access, refresh, some t, []⟩ := by
    simp [BotTokens.read, Checked.required, Checked.optional, Checked.text, Checked.orNull, htime, Value.lookup?,
      Checked.under, Checked.map, Checked.also]
  have hsame : (expiring access refresh expiry).endpoint? =
      (⟨"POST", "/bot/config/tokens", none, none, ""⟩ : Request).endpoint? := Request.endpoint?_congr rfl rfl
  have hrouted : (expiring access refresh expiry).endpoint? = some .changeTokens := by
    rw [hsame]
    decide +kernel
  exact .bot ⟨hrouted, rfl, Content.check_eq_valid_iff.mpr ⟨_, hcontent, hsaid⟩⟩ rfl

/-- Tokens of the bot are taken, whatever is held. -/
theorem setsExpiry_bot_status (hset : d.request.SetsExpiry .bot t) : (b.answer d).status = 200 := by
  cases hset with
  | bot hrenews hgiven =>
    rw [answer, handle_renews hrenews]
    rfl

end Backend

/-! ## The offset is dropped -/

open Backend in
/-- **An expiry is kept as its clock shows it.** Whoever succeeds in saying when tokens of the bot or of a channel
expire is told the shown time, and so is every reader as long as it is kept. Read as universal time that is later
than the instant that was said by the offset of the clock, so it is the same instant exactly if the clock has no
offset or the offset zero. -/
theorem expiry_kept_as_shown {b : Backend} {d : Delivery} {holder : TokenHolder} {t : Timestamp}
    (hset : d.request.SetsExpiry holder t) (hok : (b.answer d).status = 200) :
    (b.answer d).ShowsExpiry t.shown.text ∧
    (∀ (held : Backend) (get : Delivery), held.expiry? holder = (b.undergo (.asked d)).expiry? holder →
      get.request.endpoint? = some holder.endpoint → get.request.token = some adminToken →
      (held.answer get).ShowsExpiry t.shown.text) ∧
    ∃ read, Timestamp.read? t.shown.text = some read ∧ read.offset = none ∧
      read.instant = t.instant + t.offset.getD 0 * (60 * Moment.second : Nat) ∧
      (read.instant = t.instant ↔ t.offset.getD 0 = 0) := by
  obtain ⟨hkept, hanswer⟩ := setsExpiry_kept hset hok
  refine ⟨hanswer, fun held get hheld hrouted hallowed => ?_,
    ⟨t.shown, none⟩, Moment.read?_text hset.within, rfl, t.instant_shown⟩
  exact handle_showsExpiry (hheld.trans hkept) hrouted hallowed

/-- A clock of universal time with a fraction of a second: the instant is the one that was said. -/
theorem expiry_kept_as_shown_universal :
    let t : Timestamp := ⟨⟨63839662199250000⟩, some 0⟩
    let d : Delivery := ⟨⟨0⟩, [], Backend.expiring "access" "refresh" "2023-12-31T23:29:59.25Z"⟩
    let get : Delivery := ⟨⟨1⟩, [], { method := "GET", target := "/bot/config", token := some adminToken }⟩
    let b : Backend := {}
    d.request.SetsExpiry .bot t ∧ (b.answer d).status = 200 ∧
      ((b.undergo (.asked d)).answer get).ShowsExpiry "2023-12-31T23:29:59.250000" ∧
      ∃ read, Timestamp.read? "2023-12-31T23:29:59.250000" = some read ∧ read.instant = t.instant := by
  intro t d get b
  have hread : Timestamp.read? "2023-12-31T23:29:59.25Z" = some t := by decide +kernel
  have htext : t.shown.text = "2023-12-31T23:29:59.250000" := by decide +kernel
  have hset : d.request.SetsExpiry .bot t := Backend.expiring_setsExpiry "access" "refresh" hread
  have hok : (b.answer d).status = 200 := Backend.setsExpiry_bot_status hset
  have hget : get.request.endpoint? = some .showProfile := by decide +kernel
  obtain ⟨-, hlater, read, hback, -, -, hsame⟩ := expiry_kept_as_shown hset hok
  rw [htext] at hlater hback
  exact ⟨hset, hok, hlater _ get rfl hget rfl, read, hback, hsame.mpr rfl⟩

/-- Five in the morning five hours ahead of universal time is midnight, and five in the morning is shown. -/
theorem offset_of_expiry_is_lost :
    let t : Timestamp := ⟨⟨63839682000000000⟩, some 300⟩
    let d : Delivery := ⟨⟨0⟩, [], Backend.expiring "a" "r" "2024-01-01T05:00:00+05:00"⟩
    let get : Delivery := ⟨⟨1⟩, [], { method := "GET", target := "/bot/config", token := some adminToken }⟩
    let b : Backend := {}
    d.request.SetsExpiry .bot t ∧ (b.answer d).status = 200 ∧
      ((b.undergo (.asked d)).answer get).ShowsExpiry "2024-01-01T05:00:00" ∧
      Timestamp.read? "2024-01-01T05:00:00" = some ⟨t.shown, none⟩ ∧
      (Timestamp.mk t.shown none).instant ≠ t.instant ∧
      (Timestamp.read? "2024-01-01T00:00:00").map Timestamp.instant = some t.instant := by
  intro t d get b
  have hread : Timestamp.read? "2024-01-01T05:00:00+05:00" = some t := by decide +kernel
  have htext : t.shown.text = "2024-01-01T05:00:00" := by decide +kernel
  have hset : d.request.SetsExpiry .bot t := Backend.expiring_setsExpiry "a" "r" hread
  have hok : (b.answer d).status = 200 := Backend.setsExpiry_bot_status hset
  have hget : get.request.endpoint? = some .showProfile := by decide +kernel
  have hkept := (Backend.setsExpiry_kept hset hok).1
  have hshown := Backend.handle_showsExpiry hkept hget (d := get) rfl
  rw [htext] at hshown
  exact ⟨hset, hok, hshown, by decide +kernel, by decide, by decide +kernel⟩

end ChannelBot.Server
