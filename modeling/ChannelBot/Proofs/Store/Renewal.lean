/-
New tokens of a channel on their way to the store. Either the backend puts into the credentials of the channel
just what was sent, and the store is said to have taken it, or nothing changes and the store is said to have
failed (`Backend.handle_update`).
-/
import ChannelBot.Proofs.Server.Credentials
import ChannelBot.Proofs.Store.Exchange
import ChannelBot.Proofs.Time.Written
import ChannelBot.Proofs.Value.Reread
import ChannelBot.Refresh.State

namespace ChannelBot

namespace Server

namespace Route

/-! ## Names that are no segments -/

theorem two_le_pieces {s : List Char} (h : '/' ∈ s) : 2 ≤ (pieces '/' s).length := by
  obtain ⟨before, after, rfl⟩ := List.append_of_mem h
  have hbefore := List.length_pos_iff.mpr (pieces_ne_nil before)
  have hafter := List.length_pos_iff.mpr (pieces_ne_nil after)
  rw [pieces_append, List.length_append]
  omega

/-- Nothing is done deep below a channel, and nothing below a channel without a name. -/
theorem atSegments_deep {name : String} {rest : List String} (h : name = "" ∨ 3 ≤ rest.length) :
    atSegments ("channels" :: name :: rest) = [] := by
  rcases h with rfl | h
  · cases rest <;> rfl
  · match rest, h with
    | a :: b :: c :: more, _ =>
      rw [atSegments]
      · split
        · rfl
        · simp [belowChannel]
      · simp

/-- The segments of a path that goes on below a channel with these words, which hold no slashes. -/
theorem segments_below (channel : String) {words : List String} (hwords : ∀ w ∈ words, '/' ∉ w.toList) :
    ∃ name more, segments (.ofList (joined ("channels" :: channel :: words))) = "channels" :: name :: (more ++ words) ∧
      (IsName channel ∨ name = "" ∨ 1 ≤ more.length) := by
  obtain ⟨p, ps, hps⟩ := List.exists_cons_of_ne_nil (pieces_ne_nil channel.toList)
  refine ⟨.ofList p, ps.map .ofList, ?_, ?_⟩
  · rw [segments_joined, List.flatMap_cons, List.flatMap_cons, flatMap_pieces hwords, hps, pieces_of_not_mem (by decide)]
    simp
  · by_cases hslash : '/' ∈ channel.toList
    · have htwo := two_le_pieces hslash
      rw [hps, List.length_cons] at htwo
      exact .inr (.inr (by rw [List.length_map]; omega))
    · by_cases hempty : channel = ""
      · subst hempty
        cases hps
        exact .inr (.inl rfl)
      · exact .inl ⟨hempty, hslash⟩

end Route

end Server

namespace StoreQuery

open Server.Route (IsName joined atSegments choices elsewhere? slashed)

/-- New tokens for a channel whose name is no single segment arrive nowhere. -/
theorem update_unrouted {channel : String} (access expiresAt refresh : Value) (h : ¬ IsName channel) :
    let q : StoreQuery := .updateSpotifyToken channel access expiresAt refresh
    choices q.sent.path = [] ∧ elsewhere? q.sent.path = none := by
  intro q
  have hpath : q.sent.path = .ofList (joined ["channels", channel, "spotify", "token"]) := path_eq (q := q) rfl
  have hnone : ∀ {words : List String}, 2 ≤ words.length → (∀ w ∈ words, '/' ∉ w.toList) →
      atSegments (Server.Route.segments (.ofList (joined ("channels" :: channel :: words)))) = [] := by
    intro words hlength hwords
    obtain ⟨name, more, heq, hname⟩ := Server.Route.segments_below channel hwords
    rw [heq]
    refine Server.Route.atSegments_deep ((hname.resolve_left h).imp_right fun hmore => ?_)
    rw [List.length_append]
    omega
  have hend : (joined ["channels", channel, "spotify", "token"]).reverse =
      'n' :: (joined ["channels", channel, "spotify"] ++ "/toke".toList).reverse := by
    simp [joined]
  have hslash : (joined ["channels", channel, "spotify", "token", ""]).reverse =
      '/' :: (joined ["channels", channel, "spotify", "token"]).reverse := by
    simp [joined]
  have hslashed : slashed q.sent.path = .ofList (joined ["channels", channel, "spotify", "token", ""]) := by
    rw [slashed, hpath, String.toList_ofList, hend]
    simp [joined, ← String.toList_inj]
  have hchoices : choices q.sent.path = [] := by
    rw [choices, hpath, @hnone ["spotify", "token"] (by decide) (by decide), String.toList_ofList, hend]
    rfl
  have helse : choices (slashed q.sent.path) = [] := by
    rw [choices, hslashed, @hnone ["spotify", "token", ""] (by decide) (by decide), String.toList_ofList,
      hslash]
    rfl
  refine ⟨hchoices, ?_⟩
  rw [elsewhere?, helse]
  simp

/-! ## What is sent -/

/-- The fields of new tokens as they are sent. -/
def updateFields (access expiresAt refresh : Value) : List (String × Value) :=
  [("access_token", access), ("expires_at", expiresAt)] ++
    if refresh.holds then [("refresh_token", refresh)] else []

theorem updateFields_keys (access expiresAt refresh : Value) :
    ((updateFields access expiresAt refresh).map (·.1)).Nodup := by
  cases hholds : refresh.holds <;> simp [updateFields, hholds]

end StoreQuery

namespace Value

variable {fields fields' : List (String × Value)}

/-- Under every key an echo is found of what was written under it. -/
theorem lookup?_echoes (h : List.Forall₂ Json.FieldEchoes fields fields') (key : String) :
    Option.Rel Echoes (lookup? key fields) (lookup? key fields') := by
  induction h with
  | nil => exact .none
  | @cons f f' rest rest' hf _ ih =>
    obtain ⟨k, v⟩ := f
    obtain ⟨k', v'⟩ := f'
    obtain ⟨rfl, hechoes⟩ := hf
    rw [lookup?, lookup?]
    split
    · exact .some hechoes
    · exact ih

theorem exists_echo (h : List.Forall₂ Json.FieldEchoes fields fields') {key : String} {v : Value}
    (hv : lookup? key fields = some v) : ∃ v', lookup? key fields' = some v' ∧ v.Echoes v' := by
  have hechoes := lookup?_echoes h key
  rw [hv] at hechoes
  generalize lookup? key fields' = found at hechoes
  cases hechoes with
  | some hv' => exact ⟨_, rfl, hv'⟩

theorem no_echo (h : List.Forall₂ Json.FieldEchoes fields fields') {key : String} (hnone : lookup? key fields = none) :
    lookup? key fields' = none := by
  have hechoes := lookup?_echoes h key
  rw [hnone] at hechoes
  generalize lookup? key fields' = found at hechoes
  cases hechoes
  rfl

end Value

namespace Server

open StoreQuery (updateFields)

/-- An object of which a request is made is read in its body, if one is read there, as an echo of it. -/
theorem Content.read_echoes {fields : List (String × Value)} (hkeys : (fields.map (·.1)).Nodup) {v : Value}
    (h : Content.read (some ((Value.obj fields).write Value.spaced)) = .value v) :
    ∃ fields', v = .obj fields' ∧ List.Forall₂ Json.FieldEchoes fields fields' := by
  refine Json.read_echoes Json.separates_spaced hkeys ?_
  rw [Content.read_object] at h
  split at h
  next heq =>
    cases h
    exact heq
  · cases h
  · cases h

theorem Checked.orNull_text_eq_valid_iff {v : Value} {o : Option String} :
    Checked.orNull Checked.text v = .valid o ↔ v = Value.ofText? o := by
  cases v <;> cases o <;> simp [Checked.orNull, Checked.text, Checked.map, Checked.broken, Value.ofText?]

/-- New tokens that are read from an echo of what was sent are those that were sent. -/
theorem MusicTokens.read_echoes {access refresh : Value} {expiry : String} {t : Timestamp}
    (ht : Timestamp.read? expiry = some t) {fields : List (String × Value)} {p : MusicTokens}
    (hechoes : List.Forall₂ Json.FieldEchoes (updateFields access (.str expiry) refresh) fields)
    (hread : MusicTokens.read fields = .valid p) :
    access = .str p.access ∧ p.expiresAt = some t ∧
      ∀ kept, refresh.orElse (.str kept) = .str ((p.refresh.filter (!·.isEmpty)).getD kept) := by
  obtain ⟨f, r, hrest, hr, rfl⟩ := Checked.also_eq_valid_iff.mp hread
  obtain ⟨f, e, hmap, he, rfl⟩ := Checked.also_eq_valid_iff.mp hrest
  obtain ⟨a, ha, rfl⟩ := Checked.map_eq_valid_iff.mp hmap
  rw [Checked.required, Checked.under_eq_valid_iff] at ha
  rw [Checked.optional, Checked.under_eq_valid_iff] at he hr
  refine ⟨?_, ?_, fun kept => ?_⟩
  · obtain ⟨v, hfound, hv⟩ : ∃ v, Value.lookup? "access_token" fields = some v ∧ access.Echoes v :=
      Value.exists_echo hechoes rfl
    rw [hfound] at ha
    exact (hv.text a).mp (Checked.text_eq_valid_iff.mp ha)
  · obtain ⟨v, hfound, hv⟩ : ∃ v, Value.lookup? "expires_at" fields = some v ∧ (Value.str expiry).Echoes v :=
      Value.exists_echo hechoes rfl
    obtain rfl := (hv.text expiry).mpr rfl
    have htime : Checked.orNull Checked.time (.str expiry) = .valid (some t) := by
      simp only [Checked.orNull, Checked.time, ht, Option.some_or]
      rfl
    rw [hfound] at he
    exact (Checked.valid.inj (htime.symm.trans he)).symm
  · show refresh.orElse (.str kept) = .str ((r.filter (!·.isEmpty)).getD kept)
    cases hholds : refresh.holds with
    | true =>
      obtain ⟨v, hfound, hv⟩ : ∃ v, Value.lookup? "refresh_token" fields = some v ∧ refresh.Echoes v :=
        Value.exists_echo hechoes (by simp [updateFields, hholds, Value.lookup?])
      rw [hfound] at hr
      obtain rfl := Checked.orNull_text_eq_valid_iff.mp hr
      cases r with
      | none =>
        rw [hv.null.mp rfl] at hholds
        cases hholds
      | some s =>
        obtain rfl := (hv.text s).mp rfl
        have hfilled : s.isEmpty = false := by simpa [Value.holds] using hholds
        simp [Value.orElse, hholds, Option.filter, hfilled]
    | false =>
      rw [Value.no_echo hechoes (by simp [updateFields, hholds, Value.lookup?])] at hr
      cases hr
      simp [Value.orElse, hholds]

/-- The time until which a token is good is written so that it can be read. -/
theorem read?_expiryText {expiry : Moment} (h : expiry.micros < Moment.limit) :
    Timestamp.read? (Refresh.expiryText expiry) = some ⟨expiry, some 0⟩ :=
  Timestamp.read?_text h fun m hm => by cases hm; decide

/-! ## What the backend does -/

theorem Response.http_status (r : Response) : r.http.status = r.status := by
  rw [Response.http]
  cases r.body <;> rfl

theorem Response.ofViolations_refuses (violations : List Violation) : 400 ≤ (ofViolations violations).status := by
  rw [ofViolations]
  split
  · exact (by decide : 400 ≤ 422)
  · exact (by decide : 400 ≤ 500)

theorem Credential.isPlain_toValue (k : Credential) : k.toValue.IsPlain := by
  have haccess : (Value.ofText? k.access).IsPlain := by cases k.access <;> trivial
  have hexpiry : (momentValue k.expiresAt).IsPlain := by cases k.expiresAt <;> trivial
  simp [Credential.toValue, Value.IsPlain, Value.FieldsPlain, haccess, hexpiry]

namespace Backend

open Refresh (update expiryText)

variable {b : Backend} {r : Request} {channel : String}

/-- A request to where nothing is, nor elsewhere, is told so. -/
theorem handle_nowhere {now : Moment} {answers : List HttpOutcome} (hnone : Route.choices r.path = [])
    (helse : Route.elsewhere? r.path = none) :
    b.handle now answers r = (b, { response := .missing "Not Found" }) := by
  unfold handle
  rw [hnone]
  dsimp only
  rw [helse]

/-- A request at the endpoint for new tokens says them, or it is refused and changes nothing. -/
theorem handle_changeCredential (hrouted : r.endpoint? = some (.changeCredential channel))
    (hallowed : r.token = some adminToken) (now : Moment) (answers : List HttpOutcome) :
    (∃ p, r.RenewsMusic channel p) ∨
      ∃ response : Response, 400 ≤ response.status ∧ b.handle now answers r = (b, { response := response }) := by
  cases hcheck : (r.content (.changeCredential channel)).check MusicTokens.read with
  | valid p => exact .inl ⟨p, hrouted, hallowed, hcheck⟩
  | invalid vs =>
    refine .inr ?_
    by_cases hread : r.content (.changeCredential channel) ≠ .broken ∧ r.content (.changeCredential channel) ≠ .unreadable
    · refine ⟨.ofViolations vs, Response.ofViolations_refuses vs, ?_⟩
      rw [Request.endpoint?] at hrouted
      rw [b.handle_eq_serve now answers hrouted (fun _ => hallowed) hread, serve, hcheck]
      rfl
    · have hserved : b.handle now answers r = b.serveGuarded now answers r (.changeCredential channel) := by
        rw [Request.endpoint?] at hrouted
        unfold handle
        split
        next hnone =>
          rw [hnone] at hrouted
          cases hrouted
        next => rw [hrouted]
      rw [hserved, serveGuarded, ← Request.content]
      rcases Classical.not_and_iff_not_or_not.mp hread with hbroken | hunreadable
      · rw [Classical.not_not.mp hbroken]
        exact ⟨_, (by decide : 400 ≤ 422), rfl⟩
      · rw [Classical.not_not.mp hunreadable]
        exact ⟨_, (by decide : 400 ≤ 400), rfl⟩

/-- Tokens for which there are credentials go into them, and the bot is told so. -/
theorem handle_update_found (now : Moment) {g : Spotify.Grant} {expiry : Moment} {p : MusicTokens} {k : Credential}
    (hrenews : (update channel g expiry).sent.RenewsMusic channel p) (hk : b.tables.credentialOf? channel = some k) :
    ∃ b' reply, b.handle now [] (update channel g expiry).sent = (b', reply) ∧
      (update channel g expiry).decode (.answered reply.response.http) = .ok (k.renewed p).toValue ∧
      b'.tables.credentialOf? channel = some (k.renewed p) := by
  have hserved : b.handle now [] (update channel g expiry).sent = replying (b.onTables (·.changeCredential channel p)) :=
    handle_renewsMusic (d := ⟨now, [], (update channel g expiry).sent⟩) hrenews
  obtain ⟨hkept, hanswer⟩ := Tables.changeCredential_found p hk
  refine ⟨_, _, hserved, ?_, hkept⟩
  show (update channel g expiry).decode (.answered (b.tables.changeCredential channel p).2.http) = _
  rw [hanswer]
  exact StoreQuery.content_ok (update channel g expiry).request (k.renewed p).isPlain_toValue

/-- The tokens that a request with new ones says are those of the grant. -/
theorem update_renews {g : Spotify.Grant} {expiry : Moment} {p : MusicTokens} (hexpiry : expiry.micros < Moment.limit)
    (hrenews : (update channel g expiry).sent.RenewsMusic channel p) :
    g.accessToken = .str p.access ∧ p.expiresAt = some ⟨expiry, some 0⟩ ∧
      ∀ kept, g.refreshToken.orElse (.str kept) = .str ((p.refresh.filter (!·.isEmpty)).getD kept) := by
  have htakes : (Endpoint.changeCredential channel).takesContent = true := rfl
  have hbody : (update channel g expiry).sent.content (.changeCredential channel) = Content.read (some
      ((Value.obj (updateFields g.accessToken (.str (expiryText expiry)) g.refreshToken)).write Value.spaced)) := by
    rw [Request.content, if_pos htakes]
    rfl
  obtain ⟨fields, hcontent, hread⟩ := Content.check_eq_valid_iff.mp hrenews.said
  rw [hbody] at hcontent
  obtain ⟨fields', heq, hechoes⟩ := Content.read_echoes (StoreQuery.updateFields_keys ..) hcontent
  cases heq
  exact MusicTokens.read_echoes (read?_expiryText hexpiry) hechoes hread

/-- **New tokens are taken as they were sent, or not at all.** Whatever the channel is called and whatever was
granted, the bot is told of a success exactly if the credentials of the channel hold what was granted, with the
refresh token that they had if none was; and else it is told of a failure, and nothing has changed. -/
theorem handle_update {now : Moment} {g : Spotify.Grant} {expiry : Moment} {b' : Backend} {reply : Reply}
    (hexpiry : expiry.micros < Moment.limit) (hx : b.handle now [] (update channel g expiry).sent = (b', reply)) :
    ((∃ f, (update channel g expiry).decode (.answered reply.response.http) = .error f) ∧ b' = b) ∨
      ∃ v k a r, (update channel g expiry).decode (.answered reply.response.http) = .ok v ∧
        b.tables.credentialOf? channel = some k ∧
        b'.tables.credentialOf? channel = some ⟨some a, r, some expiry⟩ ∧ g.accessToken = .str a ∧
        g.refreshToken.orElse (.str k.refresh) = .str r := by
  have hrefused : ∀ response : Response, 400 ≤ response.status → (b', reply) = (b, { response := response }) →
      (∃ f, (update channel g expiry).decode (.answered reply.response.http) = .error f) ∧ b' = b := by
    intro response hstatus heq
    have hhttp : 400 ≤ response.http.status := by
      rw [response.http_status]
      omega
    cases heq
    exact ⟨⟨_, StoreQuery.content_refused (update channel g expiry).request hhttp⟩, rfl⟩
  by_cases hname : Route.IsName channel
  · have hrouted : (update channel g expiry).sent.endpoint? = some (.changeCredential channel) :=
      ((update channel g expiry).reaches_iff rfl rfl).mpr (List.forall_mem_singleton.mpr hname)
    rcases b.handle_changeCredential hrouted rfl now [] with ⟨p, hrenews⟩ | ⟨response, hstatus, heq⟩
    · cases hfound : b.tables.credentialOf? channel with
      | none =>
        obtain ⟨response, hstatus, hsame⟩ := Tables.changeCredential_lacking p hfound
        have hserved : b.handle now [] (update channel g expiry).sent =
            replying (b.onTables (·.changeCredential channel p)) :=
          handle_renewsMusic (d := ⟨now, [], (update channel g expiry).sent⟩) hrenews
        rw [hx, onTables, hsame] at hserved
        exact .inl (hrefused response hstatus hserved)
      | some k =>
        obtain ⟨b₁, reply₁, hx₁, hok, hkept⟩ := b.handle_update_found now hrenews hfound
        obtain ⟨rfl, rfl⟩ := Prod.mk.inj (hx₁.symm.trans hx)
        obtain ⟨haccess, htime, hrefresh⟩ := update_renews hexpiry hrenews
        refine .inr ⟨_, k, p.access, _, hok, rfl, ?_, haccess, hrefresh k.refresh⟩
        rw [hkept, Credential.renewed, htime]
        rfl
    · exact .inl (hrefused response hstatus (hx.symm.trans heq))
  · obtain ⟨hnone, helse⟩ := StoreQuery.update_unrouted g.accessToken (.str (expiryText expiry)) g.refreshToken hname
    exact .inl (hrefused (.missing "Not Found") (by decide) (hx.symm.trans (handle_nowhere hnone helse)))

/-- Tokens that are texts are taken, where there are credentials for them. -/
theorem handle_update_taken (now : Moment) {g : Spotify.Grant} {expiry : Moment} {k : Credential} {access : String}
    (hexpiry : expiry.micros < Moment.limit) (hname : Route.IsName channel)
    (hk : b.tables.credentialOf? channel = some k) (haccess : g.accessToken = .str access)
    (hrefresh : g.refreshToken.holds = true → ∃ r, g.refreshToken = .str r) :
    ∃ b' reply v, b.handle now [] (update channel g expiry).sent = (b', reply) ∧
      (update channel g expiry).decode (.answered reply.response.http) = .ok v := by
  have hrouted : (update channel g expiry).sent.endpoint? = some (.changeCredential channel) :=
    ((update channel g expiry).reaches_iff rfl rfl).mpr (List.forall_mem_singleton.mpr hname)
  have htime : Checked.time (.str (expiryText expiry)) = .valid ⟨expiry, some 0⟩ := by
    rw [Checked.time, read?_expiryText hexpiry]
    rfl
  obtain ⟨hplain, p, hp⟩ : (Value.obj (updateFields g.accessToken (.str (expiryText expiry)) g.refreshToken)).IsPlain ∧
      ∃ p, MusicTokens.read (updateFields g.accessToken (.str (expiryText expiry)) g.refreshToken) = .valid p := by
    rw [haccess]
    cases hholds : g.refreshToken.holds with
    | false =>
      simp [updateFields, hholds, Value.IsPlain, Value.FieldsPlain, MusicTokens.read, Checked.required, Checked.optional,
        Checked.text, Checked.orNull, htime, Value.lookup?, Checked.under, Checked.map, Checked.also]
    | true =>
      obtain ⟨r, hr⟩ := hrefresh hholds
      rw [hr] at hholds
      simp [updateFields, hr, hholds, Value.IsPlain, Value.FieldsPlain, MusicTokens.read, Checked.required,
        Checked.optional, Checked.text, Checked.orNull, htime, Value.lookup?, Checked.under, Checked.map, Checked.also]
  have hcontent : (update channel g expiry).sent.content (.changeCredential channel) =
      .value (.obj (updateFields g.accessToken (.str (expiryText expiry)) g.refreshToken)) :=
    StoreQuery.content_payload rfl hplain rfl
  have hrenews : (update channel g expiry).sent.RenewsMusic channel p :=
    ⟨hrouted, rfl, Content.check_eq_valid_iff.mpr ⟨_, hcontent, hp⟩⟩
  obtain ⟨b', reply, hx, hok, -⟩ := b.handle_update_found now hrenews hk
  exact ⟨b', reply, _, hx, hok⟩

end Backend

end Server

end ChannelBot
