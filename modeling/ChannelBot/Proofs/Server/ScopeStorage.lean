/-
The scopes of the bot's account between one writing and the next. Few requests write them
(`Backend.WritesScopes`), and whatever does not write them leaves them as they are
(`scopes_of_keeps`); a list of scopes that is sent is shown in the answer and from then on
(`scopes_survive_storage`).
-/
import ChannelBot.Proofs.Server.Occasions
import ChannelBot.Proofs.Server.Scope

namespace ChannelBot.Server

/-- A request sends a list of scopes, as a part of the configuration or along with tokens. -/
inductive Request.Sends (r : Request) (scopes : List String) : Prop
  | change {c : BotChange} (changes : r.Changes c) (given : c.scopes = some scopes)
  | renew {c : BotTokens} (renews : r.Renews c) (given : c.scopes = scopes)

/-- An answer shows a configuration with these scopes. -/
def Response.ShowsScopes (answer : Response) (scopes : List String) : Prop :=
  ∃ fields, answer = .ok (.obj fields) ∧ Value.lookup? "scopes" fields = some (.list (scopes.map .str))

namespace Backend

/-- The text that keeps the scopes of the bot's account, if there is an account. -/
def scopes? (b : Backend) : Option (Option String) := b.bot.map (·.scopes)

/-- A request writes the scopes: it changes them, or it brings some along with tokens, or it brings back an
authorization that is awarded. -/
inductive WritesScopes (b : Backend) : Occasion → Prop
  | change {d : Delivery} {c : BotChange} (changes : d.request.Changes c) (given : c.scopes ≠ none) :
    WritesScopes b (.asked d)
  | renew {d : Delivery} {c : BotTokens} (renews : d.request.Renews c) (given : ∃ e ∈ c.scopes, Text.trim e ≠ "") :
    WritesScopes b (.asked d)
  | callback {d : Delivery} {code state : String} {award : Authorization.Award}
    (routed : d.request.endpoint? = some Flow.bot.callback) (brings : d.request.Brings code state)
    (awarded : Authorization.Awarded b d.now d.answers state .bot award) : WritesScopes b (.asked d)

/-- None of the occasions writes the scopes. -/
def KeepsScopes : Backend → List Occasion → Prop
  | _, [] => True
  | b, o :: rest => ¬ b.WritesScopes o ∧ (b.undergo o).KeepsScopes rest

variable {b : Backend} {d : Delivery} {kept : Option String}

/-! ## Writing -/

theorem scopesText?_getD (scopes : List String) : (scopesText? scopes).getD "" = Text.unwords scopes := by
  rw [scopesText?]
  split
  next hempty => exact (String.isEmpty_iff.mp hempty).symm
  next => rfl

/-- A list makes a text just if it has an entry that is not blank. -/
theorem scopesText?_normalize_ne_none {scopes : List String} :
    scopesText? (Scope.normalize scopes) ≠ none ↔ ∃ e ∈ scopes, Text.trim e ≠ "" := by
  rw [scopesText?]
  constructor
  · intro h
    cases hkept : Scope.normalize scopes with
    | nil => exact absurd rfl (hkept ▸ h)
    | cons s rest =>
      obtain ⟨hne, e, he, rfl⟩ := Scope.mem_normalize.mp (hkept ▸ List.mem_cons_self)
      exact ⟨e, he, hne⟩
  · rintro ⟨e, he, hne⟩
    have hmem : Text.trim e ∈ Scope.normalize scopes := Scope.mem_normalize.mpr ⟨hne, e, he, rfl⟩
    cases hkept : Scope.normalize scopes with
    | nil =>
      rw [hkept] at hmem
      cases hmem
    | cons s rest =>
      have hs : s ≠ "" := (Scope.mem_normalize.mp (hkept ▸ List.mem_cons_self)).1
      have hfilled : ¬ (Text.unwords (s :: rest)).isEmpty = true :=
        mt String.isEmpty_iff.mp (Text.unwords_ne_empty hs rest)
      rw [if_neg hfilled]
      exact Option.some_ne_none _

theorem changeProfile_scopes (b : Backend) (c : BotChange) : (b.changeProfile c).1.scopes? =
    some (match c.scopes with
      | some scopes => scopesText? (Scope.normalize scopes)
      | none => b.withProfile.2.scopes) := rfl

theorem changeTokens_scopes (b : Backend) (c : BotTokens) : (b.changeTokens c).1.scopes? =
    some ((scopesText? (Scope.normalize c.scopes)).or b.withProfile.2.scopes) := rfl

/-- Whoever is shown the configuration is shown the words of the text that keeps the scopes. -/
theorem Shows.showsScopes {answer : Response} (h : b.Shows answer) (hkept : b.scopes? = some kept) :
    answer.ShowsScopes (Text.words (kept.getD "")) := by
  obtain ⟨p, hbot, rfl⟩ := h
  rw [scopes?, hbot, Option.map_some] at hkept
  obtain rfl := Option.some.inj hkept
  refine ⟨Value.present (b.profileTable p), ?_, ?_⟩
  · rw [profileValue_eq]
  · rw [lookup?_profileTable]
    rfl

/-- A list that is sent is kept, and shown in the answer. -/
theorem sends_shows (b : Backend) {scopes : List String} (hsent : d.request.Sends scopes)
    (hfilled : ∃ e ∈ scopes, Text.trim e ≠ "") :
    (b.undergo (.asked d)).scopes? = some (scopesText? (Scope.normalize scopes)) ∧
      (b.answer d).ShowsScopes (Scope.shown scopes) := by
  have hshown : Text.words ((scopesText? (Scope.normalize scopes)).getD "") = Scope.shown scopes := by
    rw [scopesText?_getD, Scope.shown]
  rw [undergo_asked, answer, ← hshown]
  cases hsent with
  | @change c hchanges hgiven =>
    rw [handle_changes hchanges]
    have hkept : (replying (b.changeProfile c)).1.scopes? = some (scopesText? (Scope.normalize scopes)) := by
      show (b.changeProfile c).1.scopes? = _
      rw [changeProfile_scopes, hgiven]
    exact ⟨hkept, (b.changeProfile_shows c).showsScopes hkept⟩
  | @renew c hrenews hgiven =>
    subst hgiven
    rw [handle_renews hrenews]
    obtain ⟨text, htext⟩ := Option.ne_none_iff_exists'.mp (scopesText?_normalize_ne_none.mpr hfilled)
    have hkept : (replying (b.changeTokens c)).1.scopes? = some (scopesText? (Scope.normalize c.scopes)) := by
      show (b.changeTokens c).1.scopes? = _
      rw [changeTokens_scopes, htext, Option.some_or]
    exact ⟨hkept, (b.changeTokens_shows c).showsScopes hkept⟩

/-! ## Keeping -/

theorem withProfile_of_bot {p : BotProfile} (h : b.bot = some p) : b.withProfile = (b, p) := by
  rw [withProfile, h]

/-- What does not write the scopes leaves them as they are. -/
theorem scopes_of_not_writes {o : Occasion} (hkept : b.scopes? = some kept) (h : ¬ b.WritesScopes o) :
    (b.undergo o).scopes? = some kept := by
  obtain ⟨p, hbot, rfl⟩ := Option.map_eq_some_iff.mp hkept
  have hprofile := withProfile_of_bot hbot
  cases o with
  | written updates | read => exact hkept
  | started environment =>
    rw [undergo]
    split <;> exact hkept
  | asked d =>
    rw [undergo_asked]
    have hdone := b.handle_configures d
    generalize (b.handle d.now d.answers d.request).1 = b' at hdone ⊢
    cases hdone with
    | leaves hleft =>
      rcases hleft with hsame | ⟨hnone, -⟩
      · rwa [scopes?, hsame]
      · rw [hbot] at hnone
        cases hnone
    | @changes c hchanges =>
      cases hgiven : c.scopes with
      | none => rw [changeProfile_scopes, hgiven, hprofile]
      | some scopes => exact absurd (.change hchanges (hgiven ▸ Option.some_ne_none _)) h
    | @renews c hrenews =>
      have hblank : scopesText? (Scope.normalize c.scopes) = none :=
        not_not.mp (mt scopesText?_normalize_ne_none.mp fun hgiven => h (.renew hrenews hgiven))
      rw [changeTokens_scopes, hblank, hprofile]
      rfl
    | adopts hrouted hbrings hawarded => exact absurd (.callback hrouted hbrings hawarded) h

/-- The scopes stay until they are written again. -/
theorem scopes_of_keeps {occasions : List Occasion} (hkept : b.scopes? = some kept) (h : b.KeepsScopes occasions) :
    (b.undergoAll occasions).scopes? = some kept := by
  induction occasions generalizing b with
  | nil => exact hkept
  | cons o rest ih => exact ih (scopes_of_not_writes hkept h.1) h.2

/-- A reader of the configuration is shown the scopes. -/
theorem handle_showsScopes (hkept : b.scopes? = some kept) (hrouted : d.request.endpoint? = some .showProfile)
    (hallowed : d.request.token = some adminToken) :
    (b.answer d).ShowsScopes (Text.words (kept.getD "")) := by
  obtain ⟨p, hbot, -⟩ := Option.map_eq_some_iff.mp hkept
  have hends : b.showProfile.1.scopes? = some kept := by
    rw [showProfile, withProfile_of_bot hbot]
    exact hkept
  rw [answer, b.handle_plain d.now d.answers hrouted (fun _ => hallowed) rfl]
  exact b.showProfile_shows.showsScopes hends

/-! ## Requests that send scopes -/

theorem each_texts (texts : List String) (index : Nat) :
    Checked.each Checked.text index (texts.map .str) = .valid texts := Checked.each_text_eq_valid_iff.mpr rfl

/-- A request with the token that has an object for its body. -/
def bearing (method target : String) (fields : List (String × Value)) : Request where
  method := method
  target := target
  token := some adminToken
  body := some ((Value.obj fields).write Value.spaced)

theorem bearing_content (method target : String) {fields : List (String × Value)} {e : Endpoint}
    (htakes : e.takesContent = true) (hplain : (Value.obj fields).IsPlain) :
    (bearing method target fields).content e = .value (.obj fields) := by
  rw [Request.content, if_pos htakes, bearing]
  exact Content.read_write Json.separates_spaced hplain

/-- A change can be asked for by any fields that tell it. -/
theorem bearing_changes {fields : List (String × Value)} {c : BotChange} (hplain : (Value.obj fields).IsPlain)
    (hsaid : BotChange.read fields = .valid c) : (bearing "PUT" "/bot/config" fields).Changes c := by
  have hsame : (bearing "PUT" "/bot/config" fields).endpoint? =
      (⟨"PUT", "/bot/config", none, none, ""⟩ : Request).endpoint? := Request.endpoint?_congr rfl rfl
  have hrouted : (⟨"PUT", "/bot/config", none, none, ""⟩ : Request).endpoint? = some .changeProfile := by decide +kernel
  exact ⟨hsame.trans hrouted, rfl, Content.check_eq_valid_iff.mpr ⟨_, bearing_content _ _ rfl hplain, hsaid⟩⟩

/-- New tokens can be brought by any fields that tell them. -/
theorem bearing_renews {fields : List (String × Value)} {c : BotTokens} (hplain : (Value.obj fields).IsPlain)
    (hsaid : BotTokens.read fields = .valid c) : (bearing "POST" "/bot/config/tokens" fields).Renews c := by
  have hsame : (bearing "POST" "/bot/config/tokens" fields).endpoint? =
      (⟨"POST", "/bot/config/tokens", none, none, ""⟩ : Request).endpoint? := Request.endpoint?_congr rfl rfl
  have hrouted : (⟨"POST", "/bot/config/tokens", none, none, ""⟩ : Request).endpoint? = some .changeTokens := by
    decide +kernel
  exact ⟨hsame.trans hrouted, rfl, Content.check_eq_valid_iff.mpr ⟨_, bearing_content _ _ rfl hplain, hsaid⟩⟩

/-- A request with the token that sends a list of scopes and nothing else. -/
def sending (scopes : List String) : Request where
  method := "PUT"
  target := "/bot/config"
  token := some adminToken
  body := some ((Value.obj [("scopes", .list (scopes.map .str))]).write Value.spaced)

/-- Any list of texts can be sent. -/
theorem sending_sends (scopes : List String) : (sending scopes).Sends scopes := by
  have hplain : (Value.obj [("scopes", .list (scopes.map .str))]).IsPlain := by
    simp [Value.IsPlain, Value.FieldsPlain, Value.itemsPlain_texts]
  have hsaid : BotChange.read [("scopes", .list (scopes.map .str))] =
      .valid ⟨none, some scopes, none, none, none⟩ := by
    simp [BotChange.read, Checked.optional, Checked.orNull, Checked.texts, Value.lookup?, each_texts, Checked.under,
      Checked.map, Checked.also]
  exact .change (bearing_changes hplain hsaid) rfl

/-- A request with the token that brings tokens and a list of scopes. -/
def renewing (access refresh : String) (scopes : List String) : Request where
  method := "POST"
  target := "/bot/config/tokens"
  token := some adminToken
  body := some ((Value.obj [("access_token", .str access), ("refresh_token", .str refresh),
    ("scopes", .list (scopes.map .str))]).write Value.spaced)

/-- Any list of texts can be brought along with tokens. -/
theorem renewing_sends (access refresh : String) (scopes : List String) :
    (renewing access refresh scopes).Sends scopes := by
  have hplain : (Value.obj [("access_token", .str access), ("refresh_token", .str refresh),
      ("scopes", .list (scopes.map .str))]).IsPlain := by
    simp [Value.IsPlain, Value.FieldsPlain, Value.itemsPlain_texts]
  have hsaid : BotTokens.read [("access_token", .str access), ("refresh_token", .str refresh),
      ("scopes", .list (scopes.map .str))] = .valid ⟨access, refresh, none, scopes⟩ := by
    simp [BotTokens.read, Checked.required, Checked.optional, Checked.text, Checked.texts, Value.lookup?,
      each_texts, Checked.under, Checked.map, Checked.also]
  exact .renew (bearing_renews hplain hsaid) rfl

end Backend

/-! ## Scopes are kept -/

open Backend in
/-- **Scopes survive storage, unless they have white space inside.** A list that is sent with an entry that is not
blank is normalized: each entry trimmed, first occurrences in order. What is shown, in the answer and to every
reader until the scopes are written again, are the words of that; these are the normalized entries exactly if
no entry has more than one word, and then they are unchanged when they are sent back. Of any list that was shown,
the same is shown again exactly if nothing occurs twice in it. -/
theorem scopes_survive_storage {b : Backend} {d : Delivery} {scopes : List String} (hsent : d.request.Sends scopes)
    (hfilled : ∃ e ∈ scopes, Text.trim e ≠ "") :
    Scope.IsNormal scopes (Scope.normalize scopes) ∧
    (b.answer d).ShowsScopes (Scope.shown scopes) ∧
    (∀ (later : List Occasion) (get : Delivery), (b.undergo (.asked d)).KeepsScopes later →
      get.request.endpoint? = some .showProfile → get.request.token = some adminToken →
      (((b.undergo (.asked d)).undergoAll later).answer get).ShowsScopes (Scope.shown scopes)) ∧
    (Scope.shown scopes = Scope.normalize scopes ↔ ∀ e ∈ scopes, (Text.words e).length ≤ 1) ∧
    ((∀ e ∈ scopes, (Text.words e).length ≤ 1) → ∀ (held : Backend) (back : Delivery),
      back.request.Sends (Scope.normalize scopes) → (held.answer back).ShowsScopes (Scope.normalize scopes)) ∧
    (Scope.shown (Scope.shown scopes) = Scope.shown scopes ↔ (Scope.shown scopes).Nodup) := by
  obtain ⟨hkept, hanswer⟩ := b.sends_shows hsent hfilled
  refine ⟨Scope.isNormal_normalize scopes, hanswer, fun later get hlater hrouted hallowed => ?_,
    Scope.shown_eq_normalize_iff, fun hwords held back hback => ?_, Scope.shown_shown_iff⟩
  · have hshows := handle_showsScopes (scopes_of_keeps hkept hlater) hrouted hallowed
    rwa [scopesText?_getD] at hshows
  · have hnormal := Scope.shown_eq_normalize_iff.mpr hwords
    have hagain : Scope.shown (Scope.normalize scopes) = Scope.normalize scopes := by
      rw [← hnormal, Scope.shown_shown_iff, hnormal]
      exact (Scope.isNormal_normalize scopes).nodup
    obtain ⟨e, he, hne⟩ := hfilled
    have hword : Text.IsWord (Text.trim e) := (Text.words_length_le_one_iff.mp (hwords e he)).resolve_left hne
    have hback' : ∃ s ∈ Scope.normalize scopes, Text.trim s ≠ "" :=
      ⟨Text.trim e, Scope.mem_normalize.mpr ⟨hne, e, he, rfl⟩, by rwa [hword.trim_eq]⟩
    have hshows := (held.sends_shows hback hback').2
    rwa [hagain] at hshows

/-- Entries with white space around them, a blank one and a repeated one; something is read in between, and the
scopes come back along with tokens. -/
theorem scopes_survive_storage_padded :
    let scopes := [" user:bot ", "", "chat:read", "user:bot\u00a0"]
    let d : Delivery := ⟨⟨0⟩, [], Backend.sending scopes⟩
    let get : Delivery := ⟨⟨1⟩, [], { method := "GET", target := "/bot/config", token := some adminToken }⟩
    let back : Delivery := ⟨⟨2⟩, [], Backend.renewing "access" "refresh" ["user:bot", "chat:read"]⟩
    let b : Backend := {}
    (∃ e ∈ scopes, Text.trim e ≠ "") ∧ (∀ e ∈ scopes, (Text.words e).length ≤ 1) ∧ d.request.Sends scopes ∧
      (b.answer d).ShowsScopes ["user:bot", "chat:read"] ∧
      (((b.undergo (.asked d)).undergoAll [.read]).answer get).ShowsScopes ["user:bot", "chat:read"] ∧
      ((b.undergo (.asked d)).answer back).ShowsScopes ["user:bot", "chat:read"] := by
  intro scopes d get back b
  have hfilled : ∃ e ∈ scopes, Text.trim e ≠ "" := ⟨"chat:read", by decide +kernel⟩
  have hwords : ∀ e ∈ scopes, (Text.words e).length ≤ 1 := by decide +kernel
  have hsent : d.request.Sends scopes := Backend.sending_sends scopes
  have hget : get.request.endpoint? = some .showProfile := by decide +kernel
  have hkept : Scope.shown scopes = ["user:bot", "chat:read"] ∧
      Scope.normalize scopes = ["user:bot", "chat:read"] := by decide +kernel
  have hreturned : back.request.Sends ["user:bot", "chat:read"] :=
    Backend.renewing_sends "access" "refresh" ["user:bot", "chat:read"]
  have hread : (b.undergo (.asked d)).KeepsScopes [.read] := ⟨nofun, trivial⟩
  obtain ⟨-, hanswer, hlater, -, hback, -⟩ := scopes_survive_storage (b := b) hsent hfilled
  rw [hkept.1] at hanswer hlater
  rw [hkept.2] at hback
  exact ⟨hfilled, hwords, hsent, hanswer, hlater [.read] get hread hget rfl, hback hwords _ back hreturned⟩

/-- An entry of two words comes back as two, one of which is there already; sent back, they are other ones again. -/
theorem spaced_scope_falls_apart :
    let scopes := ["a b", "a"]
    let d : Delivery := ⟨⟨0⟩, [], Backend.sending scopes⟩
    let b : Backend := {}
    d.request.Sends scopes ∧ Scope.normalize scopes = scopes ∧
      (b.answer d).ShowsScopes ["a", "b", "a"] ∧ ¬ (b.answer d).ShowsScopes scopes ∧
      Scope.shown ["a", "b", "a"] = ["a", "b"] := by
  intro scopes d b
  have hsent : d.request.Sends scopes := Backend.sending_sends scopes
  have hfilled : ∃ e ∈ scopes, Text.trim e ≠ "" := ⟨"a", by decide +kernel⟩
  have hshown : Scope.shown scopes = ["a", "b", "a"] := by decide +kernel
  have hanswer := (b.sends_shows hsent hfilled).2
  rw [hshown] at hanswer
  refine ⟨hsent, by decide +kernel, hanswer, ?_, by decide +kernel⟩
  rintro ⟨fields, hresponse, hlookup⟩
  obtain ⟨fields', hresponse', hlookup'⟩ := hanswer
  cases hresponse.symm.trans hresponse'
  exact absurd (hlookup.symm.trans hlookup') (by decide +kernel)

end ChannelBot.Server
