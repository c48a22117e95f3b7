/-
The configuration of the bot as the backend shows it: a table of fields of which the empty ones are left
out (`profileValue_eq`), so that a field is looked up in the table (`lookup?_present`). Every answer that
shows it shows the account that is kept from then on (`handle_shows`).
-/
import ChannelBot.Proofs.Server.Transparency
import ChannelBot.Proofs.Value.Json

namespace ChannelBot

namespace Value

/-- The fields of a table that are there. -/
def present (table : List (String × Option Value)) : List (String × Value) :=
  table.filterMap fun row => row.2.map (row.1, ·)

variable {table : List (String × Option Value)}

theorem present_cons (key : String) (value : Option Value) (table : List (String × Option Value)) :
    present ((key, value) :: table) = (value.map (key, ·)).toList ++ present table := by
  cases value <;> rfl

theorem present_append (t u : List (String × Option Value)) : present (t ++ u) = present t ++ present u :=
  List.filterMap_append

/-- The keys that are there stand in the order of the table. -/
theorem keys_present_sublist (table : List (String × Option Value)) :
    ((present table).map Prod.fst).Sublist (table.map Prod.fst) := by
  induction table with
  | nil => exact .refl _
  | cons row rest ih =>
    obtain ⟨key, value⟩ := row
    rw [present_cons]
    cases value with
    | none => exact ih.cons key
    | some v => exact ih.cons_cons key

theorem lookup?_eq_none {key : String} {fields : List (String × Value)} (h : key ∉ fields.map Prod.fst) :
    lookup? key fields = none := by
  induction fields with
  | nil => rfl
  | cons f rest ih =>
    obtain ⟨k, v⟩ := f
    rw [List.map_cons, List.mem_cons, not_or] at h
    rw [lookup?, if_neg (by simpa using Ne.symm h.1), ih h.2]

/-- In a table with one row for each key, what is there is what its row says. -/
theorem lookup?_present (hkeys : (table.map Prod.fst).Nodup) (key : String) :
    lookup? key (present table) = (table.lookup key).join := by
  induction table with
  | nil => rfl
  | cons row rest ih =>
    obtain ⟨k, value⟩ := row
    obtain ⟨hfresh, hrest⟩ := List.nodup_cons.mp hkeys
    rw [present_cons, List.lookup_cons]
    by_cases hk : key = k
    · subst hk
      rw [beq_self_eq_true]
      cases value with
      | none => exact lookup?_eq_none fun hmem => hfresh ((keys_present_sublist rest).subset hmem)
      | some v => exact if_pos (beq_self_eq_true key)
    · rw [beq_eq_false_iff_ne.mpr hk, ← ih hrest]
      cases value with
      | none => rfl
      | some v => exact if_neg (by simpa using Ne.symm hk)

theorem itemsPlain_texts (texts : List String) : ItemsPlain (texts.map .str) := by
  induction texts with
  | nil => trivial
  | cons t rest ih => exact ⟨trivial, ih⟩

theorem fieldsPlain_present (h : ∀ row ∈ table, ∀ v, row.2 = some v → v.IsPlain) : FieldsPlain (present table) := by
  induction table with
  | nil => trivial
  | cons row rest ih =>
    obtain ⟨key, value⟩ := row
    have hrest := ih fun row hrow => h row (List.mem_cons_of_mem _ hrow)
    rw [present_cons]
    cases value with
    | none => exact hrest
    | some v => exact ⟨h _ List.mem_cons_self v rfl, hrest⟩

end Value

namespace Server.Backend

/-- The table of what the configuration of the bot shows. -/
def profileTable (b : Backend) (p : BotProfile) : List (String × Option Value) :=
  [("login", p.login.map .str), ("display_name", p.displayName.map .str),
    ("scopes", some (.list ((Text.words (p.scopes.getD "")).map .str))), ("enabled", some (.bool p.enabled)),
    ("expires_at", (p.expiresAt.map Moment.text).map .str),
    ("token_present", some (.bool (isGiven p.access && isGiven p.refresh))),
    ("access_token", p.access.map .str), ("refresh_token", p.refresh.map .str),
    ("client_id", (b.setting? "twitch_client_id").map .str),
    ("client_secret", (b.setting? "twitch_client_secret").map .str),
    ("bot_user_id", (b.setting? "bot_user_id").map .str)] ++
  sharedSettings.map fun key => (key, (b.setting? key).map .str)

theorem profileValue_eq (b : Backend) (p : BotProfile) :
    b.profileValue p = .obj (Value.present (b.profileTable p)) := by
  unfold profileValue
  extract_lets given
  have hgiven : ∀ key value, given key value = ((value.map Value.str).map (key, ·)).toList := by
    intro key value
    cases value <;> rfl
  have hshared : (sharedSettings.flatMap fun key => given key (b.setting? key)) =
      Value.present (sharedSettings.map fun key => (key, (b.setting? key).map .str)) := by
    generalize sharedSettings = keys
    induction keys with
    | nil => rfl
    | cons key rest ih => rw [List.flatMap_cons, List.map_cons, Value.present_cons, ih, hgiven]
  rw [hshared, profileTable, Value.present_append]
  simp only [hgiven, Value.present_cons, List.append_assoc, List.cons_append, List.nil_append, Option.map_some,
    Option.toList_some]
  rfl

theorem keys_profileTable (b : Backend) (p : BotProfile) : (b.profileTable p).map Prod.fst =
    ["login", "display_name", "scopes", "enabled", "expires_at", "token_present", "access_token", "refresh_token",
      "client_id", "client_secret", "bot_user_id", "super_user", "openweathermap_api_key", "translate_url",
      "spotify_client_id", "spotify_client_secret"] := rfl

theorem nodup_profileTable (b : Backend) (p : BotProfile) : ((b.profileTable p).map Prod.fst).Nodup := by
  rw [keys_profileTable]
  decide

/-- A field of the configuration is what its row says. -/
theorem lookup?_profileTable (b : Backend) (p : BotProfile) (key : String) :
    Value.lookup? key (Value.present (b.profileTable p)) = ((b.profileTable p).lookup key).join :=
  Value.lookup?_present (b.nodup_profileTable p) key

theorem isPlain_profileValue (b : Backend) (p : BotProfile) : (b.profileValue p).IsPlain := by
  have htext : ∀ {text : Option String} {v : Value}, text.map Value.str = some v → v.IsPlain := by
    intro text v h
    obtain ⟨s, -, rfl⟩ := Option.map_eq_some_iff.mp h
    trivial
  rw [profileValue_eq]
  refine ⟨Value.fieldsPlain_present ?_, (b.nodup_profileTable p).sublist (Value.keys_present_sublist _)⟩
  intro row hrow v hv
  rw [profileTable, List.mem_append] at hrow
  rcases hrow with hrow | hrow
  · simp only [List.mem_cons, List.not_mem_nil, or_false] at hrow
    rcases hrow with rfl | rfl | rfl | rfl | rfl | rfl | rfl | rfl | rfl | rfl | rfl
    case inr.inr.inl =>
      cases hv
      exact Value.itemsPlain_texts _
    case inr.inr.inr.inl =>
      cases hv
      trivial
    case inr.inr.inr.inr.inr.inl =>
      cases hv
      trivial
    all_goals exact htext hv
  · obtain ⟨key, -, rfl⟩ := List.mem_map.mp hrow
    exact htext hv

/-! ## Answers that show the configuration -/

theorem withProfile_bot (b : Backend) : b.withProfile.1.bot = some b.withProfile.2 := by
  rw [withProfile]
  split
  next p hbot => exact hbot
  next => rfl

theorem agrees_warm (b : Backend) : b.Agrees b.warm := ⟨rfl, ⟨rfl, rfl⟩, rfl, rfl, rfl, rfl⟩

/-- An answer shows the configuration that a backend holds. -/
def Shows (b : Backend) (answer : Response) : Prop := ∃ p, b.bot = some p ∧ answer = .ok (b.profileValue p)

theorem Shows.of_agrees {b b' : Backend} {answer : Response} (h : b'.Shows answer) (hb : b.Agrees b') : b.Shows answer := by
  obtain ⟨p, hbot, hanswer⟩ := h
  rw [hb.bot] at hbot
  rw [hb.profileValue_eq] at hanswer
  exact ⟨p, hbot, hanswer⟩

theorem shows_warm {b : Backend} {p : BotProfile} (h : b.bot = some p) : b.warm.Shows (.ok (b.profileValue p)) :=
  ⟨p, h, by rw [b.agrees_warm.profileValue_eq]⟩

theorem showProfile_shows (b : Backend) : b.showProfile.1.Shows b.showProfile.2 := shows_warm b.withProfile_bot

theorem changeProfile_shows (b : Backend) (c : BotChange) : (b.changeProfile c).1.Shows (b.changeProfile c).2 :=
  shows_warm rfl

theorem changeTokens_shows (b : Backend) (c : BotTokens) : (b.changeTokens c).1.Shows (b.changeTokens c).2 :=
  shows_warm rfl

end Server.Backend

namespace Server

/-- Whether an endpoint answers with the configuration of the bot. -/
def Endpoint.ShowsProfile : Endpoint → Prop
  | .showProfile | .changeProfile | .changeTokens => True
  | _ => False

namespace Backend

variable {r : Request} {e : Endpoint}

/-- A request that succeeds was served where it goes. -/
theorem handle_served (b : Backend) (now : Moment) (answers : List HttpOutcome) (hrouted : r.endpoint? = some e)
    (hok : (b.handle now answers r).2.response.status = 200) :
    b.handle now answers r = b.serve now answers r (r.content e) e := by
  have hhandle : b.handle now answers r = b.serveGuarded now answers r e := by
    rw [Request.endpoint?] at hrouted
    unfold handle
    split
    next hnone =>
      rw [hnone] at hrouted
      cases hrouted
    next => rw [hrouted]
  rw [hhandle] at hok ⊢
  rw [serveGuarded, ← Request.content] at hok ⊢
  split at hok
  · cases hok
  · cases hok
  · split at hok
    · cases hok
    next hallowed =>
      rw [if_neg hallowed]

theorem checked_shows {α : Type} (b : Backend) (c : Checked α) {act : α → Backend × Response}
    (h : ∀ a, (act a).1.Shows (act a).2) (hok : (b.checked c fun a => replying (act a)).2.response.status = 200) :
    (b.checked c fun a => replying (act a)).1.Shows (b.checked c fun a => replying (act a)).2.response := by
  cases c with
  | valid a => exact h a
  | invalid vs => exact absurd hok (Response.ofViolations_status vs)

/-- Whoever gets to see the configuration sees the one that is held from then on. -/
theorem handle_shows (b : Backend) (now : Moment) (answers : List HttpOutcome) (he : e.ShowsProfile)
    (hrouted : r.endpoint? = some e) (hok : (b.handle now answers r).2.response.status = 200) :
    (b.handle now answers r).1.Shows (b.handle now answers r).2.response := by
  have hserved := b.handle_served now answers hrouted hok
  rw [hserved] at hok ⊢
  cases e with
  | showProfile => exact b.showProfile_shows
  | changeProfile =>
    rw [serve] at hok ⊢
    exact b.checked_shows _ b.changeProfile_shows hok
  | changeTokens =>
    rw [serve] at hok ⊢
    exact b.checked_shows _ b.changeTokens_shows hok
  | _ => exact he.elim

end Backend

end Server

end ChannelBot
